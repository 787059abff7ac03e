import Overseer.Pattern.Escape

/-! ## Classes in patterns

A class `[…]` lists characters, ranges, escapes, classes with a name such as `[:digit:]`, and other
classes. After a caret it means all other characters. Operators may stand between lists: `&&` for
what is in both, `--` for what is in the first only, `~~` for what is in exactly one of them; they
are taken from left to right, and a list may be empty. Hyphens at the beginning of a class stand for
themselves, and so does a closing bracket if it comes first. -/

namespace Overseer.Pattern

-- ---------------------------------------------------------------------------
-- Nesting
-- ---------------------------------------------------------------------------

/-- What was read from a text and how many levels its written form has. -/
structure Nested (α : Type) where
  value : α
  depth : Nat
deriving DecidableEq

namespace Nested

variable {α β : Type}

/-- Something written without parts. -/
def leaf (a : α) : Nested α := ⟨a, 0⟩

/-- Something with one part. -/
def wrap (f : α → β) (a : Nested α) : Nested β := ⟨f a.value, a.depth + 1⟩

/-- Something with two parts. -/
def join (f : α → α → α) (a b : Nested α) : Nested α := ⟨f a.value b.value, max a.depth b.depth + 1⟩

/-- Combines values from the right. -/
def combine (none : α) (f : α → α → α) : List (Nested α) → α
  | [] => none
  | [a] => a.value
  | a :: rest => f a.value (combine none f rest)

/-- Parts that stand one after the other: a single one is that part itself, several are a level of
    their own. -/
def gather (none : α) (f : α → α → α) (parts : List (Nested α)) : Nested α :=
  match parts with
  | [] => leaf none
  | [a] => a
  | _ => ⟨combine none f parts, (parts.map depth).foldl max 0 + 1⟩

end Nested

-- ---------------------------------------------------------------------------
-- Members
-- ---------------------------------------------------------------------------

/-- The classes that have a name. -/
def namedClasses : List (Text × List (Char × Char)) := [
  ("alnum".toList, [('0', '9'), ('A', 'Z'), ('a', 'z')]),
  ("alpha".toList, [('A', 'Z'), ('a', 'z')]),
  ("ascii".toList, [('\x00', '\x7F')]),
  ("blank".toList, [('\t', '\t'), (' ', ' ')]),
  ("cntrl".toList, [('\x00', '\x1F'), ('\x7F', '\x7F')]),
  ("digit".toList, [('0', '9')]),
  ("graph".toList, [('!', '~')]),
  ("lower".toList, [('a', 'z')]),
  ("print".toList, [(' ', '~')]),
  ("punct".toList, [('!', '/'), (':', '@'), ('[', '\x60'), ('\x7B', '~')]),
  ("space".toList, [('\t', '\r'), (' ', ' ')]),
  ("upper".toList, [('A', 'Z')]),
  ("word".toList, [('0', '9'), ('A', 'Z'), ('_', '_'), ('a', 'z')]),
  ("xdigit".toList, [('0', '9'), ('A', 'F'), ('a', 'f')])]

/-- The characters of some ranges. -/
def ofRanges (ranges : List (Char × Char)) : CharSet :=
  ranges.foldr (fun r s => .union (.range r.1 r.2) s) .empty

/-- The class whose name follows a bracket, and how many characters write it after the bracket. A
    caret before the name negates it. -/
def namedClass? (s : Text) : Option (CharSet × Nat) :=
  match s with
  | ':' :: s =>
    let negated := s.head? = some '^'
    let name := (if negated then s.drop 1 else s).takeWhile (· ≠ ':')
    let size := (if negated then 1 else 0) + name.length
    if (s.drop size).take 2 = [':', ']'] then
      (namedClasses.lookup name).map fun ranges =>
        (if negated then .compl (ofRanges ranges) else ofRanges ranges, size + 3)
    else none
  | _ => none

/-- What stands at the beginning of a text that is not empty, and how many characters write it. -/
def readItem : Text → Except PatternFault (Escape × Nat)
  | [] => .error .unclosedClass
  | '\\' :: s => (Escape.read s).map fun e => (e, 2)
  | c :: _ => .ok (.char c, 1)

/-- An item as a member on its own. -/
def Escape.member : Escape → Except PatternFault CharSet
  | .char c => .ok (.single c)
  | .set s => .ok s
  | .anchor _ => .error .noCharacter

/-- The range between two items. -/
def Escape.rangeTo : Escape → Escape → Except PatternFault CharSet
  | .char low, .char high => if low ≤ high then .ok (.range low high) else .error .reversedRange
  | _, _ => .error .noCharacter

/-- The member at the beginning of a text, and how many characters write it. A hyphen after an item
    makes a range unless a closing bracket or another hyphen follows. -/
def readMember (s : Text) : Except PatternFault (CharSet × Nat) :=
  match readItem s with
  | .error e => .error e
  | .ok (low, n) =>
    match s.drop n with
    | '-' :: ']' :: _ | '-' :: '-' :: _ => low.member.map fun m => (m, n)
    | '-' :: rest =>
      match readItem rest with
      | .error e => .error e
      | .ok (high, m) => (low.rangeTo high).map fun r => (r, n + 1 + m)
    | _ => low.member.map fun m => (m, n)

-- ---------------------------------------------------------------------------
-- Classes
-- ---------------------------------------------------------------------------

/-- What stands between two lists of members. -/
inductive SetOperator where
  | intersection
  | difference
  | symmetricDifference
deriving DecidableEq

namespace SetOperator

def apply : SetOperator → CharSet → CharSet → CharSet
  | .intersection => .inter
  | .difference => .diff
  | .symmetricDifference => .symmDiff

/-- The operator that is written by a character twice. -/
def ofChar? : Char → Option SetOperator
  | '&' => some .intersection
  | '-' => some .difference
  | '~' => some .symmetricDifference
  | _ => none

end SetOperator

/-- A class that is not closed yet. -/
structure OpenClass where
  negated : Bool
  /-- What stands before the last operator, and the operator. -/
  left : Option (Nested CharSet × SetOperator)
  /-- The members after it, last first. -/
  members : List (Nested CharSet)
deriving DecidableEq

namespace OpenClass

/-- The class that is opened by a bracket, given what follows, and how many characters of that
    belong to the opening. -/
def opening (s : Text) : OpenClass × Nat :=
  let negated := s.head? = some '^'
  let rest := if negated then s.drop 1 else s
  let hyphens := rest.takeWhile (· = '-')
  let literals := if hyphens.isEmpty then (rest.take 1).filter (· = ']') else hyphens
  (⟨negated, none, literals.map fun c => .leaf (.single c)⟩,
    (if negated then 1 else 0) + literals.length)

def push (k : OpenClass) (m : Nested CharSet) : OpenClass := { k with members := m :: k.members }

/-- The set of everything up to here. -/
def operand (k : OpenClass) : Nested CharSet :=
  let right := Nested.gather .empty .union k.members.reverse
  match k.left with
  | none => right
  | some (left, op) => left.join op.apply right

/-- Goes on behind an operator. -/
def operate (k : OpenClass) (op : SetOperator) : OpenClass :=
  ⟨k.negated, some (k.operand, op), []⟩

/-- The set of the whole class. -/
def close (k : OpenClass) : Nested CharSet :=
  k.operand.wrap fun s => if k.negated then .compl s else s

end OpenClass

end Overseer.Pattern
