import Overseer.Json.Value

/-! ## Reading JSON

The value that a text writes. A key that an object has more than once counts with its last value. -/

namespace Overseer.Json

-- ---------------------------------------------------------------------------
-- Strings
-- ---------------------------------------------------------------------------

/-- What the next character of a string is read as. -/
inductive StringMode where
  | plain
  /-- Right after a backslash. -/
  | escaped
  /-- A digit of a code unit, after some others. -/
  | unit (value digits : Nat)
deriving DecidableEq

/-- The character that a backslash and a character stand for. -/
def unescape? (c : Char) : Option Char :=
  match c with
  | '"' | '\\' | '/' => some c
  | 'b' => some '\x08'
  | 'f' => some '\x0C'
  | 'n' => some '\n'
  | 'r' => some '\r'
  | 't' => some '\t'
  | _ => none

/-- The value of a hexadecimal digit. -/
def hexDigit? (c : Char) : Option Nat :=
  if '0' ≤ c ∧ c ≤ '9' then some (c.toNat - '0'.toNat)
  else if 'a' ≤ c ∧ c ≤ 'f' then some (c.toNat - 'a'.toNat + 10)
  else if 'A' ≤ c ∧ c ≤ 'F' then some (c.toNat - 'A'.toNat + 10)
  else none

/-- Whether a code unit is the first of a pair. -/
def isHigh (n : Nat) : Bool := 0xD800 ≤ n && n < 0xDC00

/-- Whether a code unit is the second of a pair. -/
def isLow (n : Nat) : Bool := 0xDC00 ≤ n && n < 0xE000

/-- The character that a code unit makes, with the first of a pair if that came before. -/
def unitChar? (high : Option Nat) (n : Nat) : Option Char :=
  match high with
  | none => if isHigh n || isLow n then none else some (Char.ofNat n)
  | some h =>
    if isLow n then some (Char.ofNat (0x10000 + 0x400 * (h - 0xD800) + (n - 0xDC00))) else none

/-- The rest of a string and what follows its quotation mark. `high` is the first of a pair that
    waits for the second, `before` are the characters so far, last first. -/
def readString (mode : StringMode) (high : Option Nat) (before : Text) : Text → Option (Text × Text)
  | [] => none
  | c :: s =>
    match mode with
    | .plain =>
      if c = '\\' then readString .escaped high before s
      else if high.isSome || c.toNat < 0x20 then none
      else if c = '"' then some (before.reverse, s)
      else readString .plain none (c :: before) s
    | .escaped =>
      if c = 'u' then readString (.unit 0 0) high before s
      else if high.isSome then none
      else
        match unescape? c with
        | none => none
        | some c => readString .plain none (c :: before) s
    | .unit value digits =>
      match hexDigit? c with
      | none => none
      | some d =>
        let n := 16 * value + d
        if digits < 3 then readString (.unit n (digits + 1)) high before s
        else if high.isNone && isHigh n then readString .plain (some n) before s
        else
          match unitChar? high n with
          | none => none
          | some c => readString .plain none (c :: before) s

-- ---------------------------------------------------------------------------
-- Values
-- ---------------------------------------------------------------------------

/-- Whether a character may stand between the parts of a value. -/
def isGap (c : Char) : Bool := c = ' ' || c = '\t' || c = '\n' || c = '\r'

def skipGap (s : Text) : Text := s.dropWhile isGap

/-- The fields with the value of a key changed or put at the end. -/
def putField (fields : List (Text × Value)) (key : Text) (v : Value) : List (Text × Value) :=
  if fields.any fun f => f.1 == key then fields.map fun f => if f.1 == key then (key, v) else f
  else fields ++ [(key, v)]

/-- A number and what follows it. -/
def readNumber (s : Text) : Option (Value × Text) := do
  let (l, rest) ← Literal.read s
  let n ← l.number?
  return (.number n, rest)

mutual

/-- The value at the beginning of a text and what follows it. -/
def readValue : Nat → Text → Option (Value × Text)
  | 0, _ => none
  | depth + 1, s =>
    match skipGap s with
    | 'n' :: 'u' :: 'l' :: 'l' :: rest => some (.null, rest)
    | 't' :: 'r' :: 'u' :: 'e' :: rest => some (.bool true, rest)
    | 'f' :: 'a' :: 'l' :: 's' :: 'e' :: rest => some (.bool false, rest)
    | '"' :: rest => (readString .plain none [] rest).map fun (s, rest) => (.string s, rest)
    | '[' :: rest =>
      match skipGap rest with
      | ']' :: rest => some (.array [], rest)
      | rest => (readItems depth [] rest).map fun (vs, rest) => (.array vs, rest)
    | '\x7B' :: rest =>
      match skipGap rest with
      | '\x7D' :: rest => some (.object [], rest)
      | rest => (readFields depth [] rest).map fun (fs, rest) => (.object fs, rest)
    | rest => readNumber rest

/-- The items up to a closing bracket, after some others, last first. -/
def readItems : Nat → List Value → Text → Option (List Value × Text)
  | 0, _, _ => none
  | depth + 1, before, s => do
    let (v, rest) ← readValue depth s
    match skipGap rest with
    | ',' :: rest => readItems depth (v :: before) rest
    | ']' :: rest => return ((v :: before).reverse, rest)
    | _ => none

/-- The fields up to a closing brace, after some others. -/
def readFields : Nat → List (Text × Value) → Text → Option (List (Text × Value) × Text)
  | 0, _, _ => none
  | depth + 1, before, s =>
    match skipGap s with
    | '"' :: rest => do
      let (key, rest) ← readString .plain none [] rest
      match skipGap rest with
      | ':' :: rest =>
        let (v, rest) ← readValue depth rest
        let fields := putField before key v
        match skipGap rest with
        | ',' :: rest => readFields depth fields rest
        | '\x7D' :: rest => return (fields, rest)
        | _ => none
      | _ => none
    | _ => none

end

/-- The value that a text writes. A part of a value takes at least one character, and two steps at
    most are made for it. -/
def Value.read? (s : Text) : Option Value :=
  match readValue (2 * s.length + 2) s with
  | some (v, rest) => if (skipGap rest).isEmpty then some v else none
  | none => none

end Overseer.Json
