import Overseer.Log.Filter
import Overseer.Pattern.Reader
import Overseer.Text.Cut
import Overseer.Text.Numeral
import Overseer.Text.Utf8

/-! ## Reading log filters

A filter is written as directives with commas between them; empty ones are passed over. A directive
is a level, or a target, or has the form `target[span{field=value}]=level`, of which most may be
missing. The marks of a directive are looked for without the blanks at its ends, but its parts are
cut out of the directive as it stands, at the same byte offsets: blanks at the beginning shift every
part, and those at the end belong to the last one. -/

namespace Overseer.Log

/-- Why a text is no filter. -/
inductive FilterFault where
  | malformed
  /-- A part would begin or end inside a character. -/
  | splitCharacter
deriving DecidableEq

-- ---------------------------------------------------------------------------
-- Levels
-- ---------------------------------------------------------------------------

/-- An ASCII letter in lower case. -/
def lower (c : Char) : Char := if 'A' ≤ c ∧ c ≤ 'Z' then Char.ofNat (c.toNat + 32) else c

/-- The levels that have a name, with their ranks. -/
def levelNames : List (Text × Nat) :=
  [("off".toList, 0), ("error".toList, 1), ("warn".toList, 2), ("info".toList, 3),
    ("debug".toList, 4), ("trace".toList, 5)]

/-- The rank of everything. -/
def everything : Nat := 5

/-- A level by its rank or its name in any case. -/
def readRank? (s : Text) : Option Nat :=
  match Numeral.read (everything + 1) s with
  | .ok n => some n
  | .error _ => levelNames.lookup (s.map lower)

-- ---------------------------------------------------------------------------
-- Fields
-- ---------------------------------------------------------------------------

/-- Whether a text is empty or an exponent. -/
def isExponent : Text → Bool
  | [] => true
  | e :: s =>
    let digits := match s with
      | '+' :: s | '-' :: s => s
      | s => s
    (e = 'e' || e = 'E') && !digits.isEmpty && digits.all Char.isDigit

/-- Whether a text is a decimal number without a sign. -/
def isNumber (s : Text) : Bool :=
  let rest := s.dropWhile Char.isDigit
  let (places, rest) := match rest with
    | '.' :: rest => (rest.takeWhile Char.isDigit, rest.dropWhile Char.isDigit)
    | _ => ([], rest)
  ["inf".toList, "infinity".toList, "nan".toList].contains (s.map lower)
    || (!((s.takeWhile Char.isDigit).isEmpty && places.isEmpty) && isExponent rest)

/-- Whether the pattern of a field value can be searched for: it may not ask for words. -/
def isSearchable : Pattern → Bool
  | .empty | .oneOf _ => true
  | .seq p q | .alt p q => isSearchable p && isSearchable q
  | .many p | .atLeastOne p => isSearchable p
  | .anchor a => a = .textStart || a = .textEnd

/-- Whether a text is the value of a field: a pattern or a number. -/
def isFieldValue (s : Text) : Bool :=
  match Pattern.read s, s with
  | .ok p, _ => isSearchable p
  | .error _, '+' :: s => isNumber s
  | .error _, _ => false

/-- The text between braces: a name, and after an equals sign a value. -/
def FieldCondition.read (s : Text) : Except FilterFault FieldCondition :=
  let name := s.takeWhile (· ≠ '=')
  match s.dropWhile (· ≠ '=') with
  | [] => if s.isEmpty then .error .malformed else .ok ⟨name, none⟩
  | _ :: rest =>
    let value := rest.takeWhile (· ≠ '=')
    if isFieldValue value then .ok ⟨name, some value⟩ else .error .malformed

-- ---------------------------------------------------------------------------
-- Directives
-- ---------------------------------------------------------------------------

namespace Directive

/-- The part of a directive between two byte offsets. -/
def part (given : Text) (first last : Nat) : Except FilterFault Text :=
  match given.slice? first last with
  | some s => .ok s
  | none => .error .splitCharacter

/-- The level that begins at a byte offset and ends with the directive; everything if nothing is
    there. -/
def readLevel (given : Text) (first : Nat) : Except FilterFault Nat := do
  let s ← part given first (Utf8.size given)
  if s.isEmpty then return everything
  match readRank? s with
  | some n => return n
  | none => throw .malformed

/-- The level after a closing bracket, where `rest` begins at the byte offset `first`. -/
def readLevelAfter (given : Text) (first : Nat) (rest : Text) : Except FilterFault Nat :=
  match rest with
  | [] => .ok everything
  | '=' :: _ => readLevel given (first + 1)
  | _ => .error .malformed

/-- What follows an opening bracket, where `rest` begins at the byte offset `first`. -/
def readScope (given : Text) (target : Option Text) (first : Nat) (rest : Text) :
    Except FilterFault Directive := do
  let name := rest.takeWhile fun c => c ≠ ']' && c ≠ '\x7B'
  let last := first + Utf8.size name
  match rest.drop name.length with
  | [] => throw .malformed
  | ']' :: rest =>
    let span ← part given first last
    let level ← readLevelAfter given (last + 1) rest
    return ⟨target, some span, none, level⟩
  | _ :: rest =>
    let span ← part given first last
    let condition := rest.takeWhile (· ≠ '\x7D')
    let first := last + 1
    let last := first + Utf8.size condition
    match rest.drop condition.length with
    | [] => throw .malformed
    | _ :: rest =>
      let field ← FieldCondition.read (← part given first last)
      match rest with
      | ']' :: rest =>
        let level ← readLevelAfter given (last + 2) rest
        return ⟨target, if span.isEmpty then none else some span, some field, level⟩
      | _ => throw .malformed

/-- Whether a directive may begin with a character. -/
def opens (c : Char) : Bool := isAlphanumeric c || c = '-' || c = ':' || c = '_'

/-- Reads a directive. -/
def read (given : Text) : Except FilterFault Directive := do
  match given.trim with
  | [] => throw .malformed
  | '[' :: rest => readScope given none 1 rest
  | c :: s =>
    if !opens c then throw .malformed
    let head := (c :: s).takeWhile fun c => c ≠ '=' && c ≠ '['
    let last := Utf8.size head
    match (c :: s).drop head.length with
    | [] =>
      match readRank? given with
      | some level => return .upTo level
      | none => return .ofTarget given everything
    | '=' :: _ =>
      let target ← part given 0 last
      let level ← readLevel given (last + 1)
      return .ofTarget target level
    | _ :: rest =>
      let target ← part given 0 last
      readScope given (some target) (last + 1) rest

end Directive

/-- Reads a filter; the first fault counts. -/
def Filter.read (s : Text) : Except FilterFault Filter :=
  (((s.splitOn ',').filter fun d => !d.isEmpty).mapM Directive.read).map Filter.mk

end Overseer.Log
