import Overseer.Pattern.Class

/-! ## Reading patterns

The written form of patterns: characters that stand for themselves, `.` for any character but the
line feed, escapes, classes, `*`, `+`, `?`, `|`, groups in parentheses, and `^` and `$` for the ends
of the text. A `?` right after an operator only asks for a shorter match, which makes no difference
to whether there is one. The parts of a pattern may not be nested without limit.

This is the syntax of the built-in table and what is near it, not all that regular expressions are
written in. Counted repetitions, groups with a name or with options, and characters by their number
or by a property are refused here. A classifier may have patterns that come from elsewhere.

The reader goes through the text once. At each place it looks at what follows and takes one or more
characters; `Group` and `OpenClass` are the parts of groups and classes that it has seen. -/

namespace Overseer.Pattern

-- ---------------------------------------------------------------------------
-- Groups
-- ---------------------------------------------------------------------------

/-- A group that is not closed yet: its finished branches and the items of the branch being read,
    both last first. -/
structure Group where
  branches : List (Nested Pattern)
  items : List (Nested Pattern)
deriving DecidableEq

namespace Group

def start : Group := ⟨[], []⟩

def push (g : Group) (p : Nested Pattern) : Group := { g with items := p :: g.items }

/-- The items of the current branch one after the other. -/
def sequence (g : Group) : Nested Pattern := .gather .empty .seq g.items.reverse

/-- Ends the current branch. -/
def branch (g : Group) : Group := ⟨g.sequence :: g.branches, []⟩

/-- The pattern of the whole group. -/
def close (g : Group) : Nested Pattern := .gather .empty .alt (g.sequence :: g.branches).reverse

end Group

-- ---------------------------------------------------------------------------
-- Reader
-- ---------------------------------------------------------------------------

/-- The open groups around the current one, innermost first, the current one, and the open classes,
    innermost first. -/
structure Reader where
  outer : List Group
  current : Group
  classes : List OpenClass
deriving DecidableEq

namespace Reader

def start : Reader := ⟨[], .start, []⟩

def push (r : Reader) (p : Nested Pattern) : Reader := { r with current := r.current.push p }

/-- Closes the current group and makes it an item of the group around it. -/
def closeGroup (r : Reader) : Except PatternFault Reader :=
  match r.outer with
  | [] => .error .unopenedGroup
  | g :: outer => .ok ⟨outer, g.push (r.current.close.wrap id), r.classes⟩

/-- Puts the last item under a repetition operator. -/
def repeatLast (r : Reader) (f : Pattern → Pattern) : Except PatternFault Reader :=
  match r.current.items with
  | [] => .error .nothingToRepeat
  | p :: items => .ok { r with current := { r.current with items := p.wrap f :: items } }

/-- A repetition operator with the question mark that may follow it. -/
def repetition (r : Reader) (f : Pattern → Pattern) (rest : Text) :
    Except PatternFault (Reader × Nat) :=
  (r.repeatLast f).map fun r => (r, if rest.head? = some '?' then 1 else 0)

/-- A pattern that is written by a backslash and the next character. -/
def escape (r : Reader) : Escape → Reader
  | .char c => r.push (.leaf (.oneOf (.single c)))
  | .set s => r.push (.leaf (.oneOf s))
  | .anchor a => r.push (.leaf (.anchor a))

/-- The opening of a class. -/
def openClass (r : Reader) (rest : Text) : Reader × Nat :=
  let (k, n) := OpenClass.opening rest
  ({ r with classes := k :: r.classes }, n)

/-- A character outside of classes, and how many of the following ones were taken with it. -/
def stepPlain (r : Reader) (c : Char) (rest : Text) : Except PatternFault (Reader × Nat) :=
  match c with
  | '(' => .ok (⟨r.current :: r.outer, .start, r.classes⟩, 0)
  | ')' => r.closeGroup.map fun r => (r, 0)
  | '|' => .ok ({ r with current := r.current.branch }, 0)
  | '*' => r.repetition .many rest
  | '+' => r.repetition .atLeastOne rest
  | '?' => r.repetition .optional rest
  | '.' => .ok (r.push (.leaf (.oneOf .anyButNewline)), 0)
  | '^' => .ok (r.push (.leaf (.anchor .textStart)), 0)
  | '$' => .ok (r.push (.leaf (.anchor .textEnd)), 0)
  | '[' => .ok (r.openClass rest)
  | '\\' => (Escape.read rest).map fun e => (r.escape e, 1)
  | '\x7B' => .error (.unknownOperator c)
  | _ => .ok (r.push (.leaf (.oneOf (.single c))), 0)

/-- The end of the innermost class. -/
def closeClass (r : Reader) (k : OpenClass) (outer : List OpenClass) : Reader :=
  match outer with
  | [] => { r with classes := [], current := r.current.push ⟨.oneOf k.close.value, k.close.depth⟩ }
  | parent :: outer => { r with classes := parent.push k.close :: outer }

/-- A member of the innermost class. -/
def stepMember (r : Reader) (k : OpenClass) (outer : List OpenClass) (c : Char) (rest : Text) :
    Except PatternFault (Reader × Nat) :=
  (readMember (c :: rest)).map fun (s, n) => ({ r with classes := k.push (.leaf s) :: outer }, n - 1)

/-- A character in a class, and how many of the following ones were taken with it. -/
def stepClass (r : Reader) (k : OpenClass) (outer : List OpenClass) (c : Char) (rest : Text) :
    Except PatternFault (Reader × Nat) :=
  if c = ']' then .ok (r.closeClass k outer, 0)
  else if c = '[' then
    match namedClass? rest with
    | some (s, n) => .ok ({ r with classes := k.push (.leaf s) :: outer }, n)
    | none => .ok (r.openClass rest)
  else if rest.head? = some c then
    match SetOperator.ofChar? c with
    | some op => .ok ({ r with classes := k.operate op :: outer }, 1)
    | none => r.stepMember k outer c rest
  else r.stepMember k outer c rest

/-- A character, given what follows it, and how many of that were taken with it. -/
def step (r : Reader) (c : Char) (rest : Text) : Except PatternFault (Reader × Nat) :=
  match r.classes with
  | [] => r.stepPlain c rest
  | k :: outer => r.stepClass k outer c rest

/-- Reads the rest of a text, of which `taken` characters were already read. -/
def readFrom (r : Reader) (taken : Nat) : Text → Except PatternFault Reader
  | [] => .ok r
  | c :: rest =>
    match taken with
    | n + 1 => readFrom r n rest
    | 0 =>
      match r.step c rest with
      | .error e => .error e
      | .ok (r, n) => readFrom r n rest

/-- The most levels of a pattern. -/
def depthLimit : Nat := 250

/-- The pattern at the end of the text. -/
def finish (r : Reader) : Except PatternFault Pattern :=
  if !r.classes.isEmpty then .error .unclosedClass
  else if !r.outer.isEmpty then .error .unclosedGroup
  else if depthLimit < r.current.close.depth then .error .tooDeep
  else .ok r.current.close.value

end Reader

/-- Reads a written pattern. -/
def read (s : Text) : Except PatternFault Pattern :=
  match Reader.start.readFrom 0 s with
  | .error e => .error e
  | .ok r => r.finish

end Overseer.Pattern
