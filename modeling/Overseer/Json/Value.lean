import Overseer.Json.Number

/-! ## JSON values

Values and how they are written: on one line without blanks, or over several lines with two spaces
for each level. -/

namespace Overseer.Json

inductive Value where
  | null
  | bool (b : Bool)
  | number (n : Number)
  | string (s : Text)
  | array (items : List Value)
  | object (fields : List (Text × Value))
deriving Inhabited

/-- A number without a point. -/
def Value.integer (n : Int) : Value := .number (.integer n)

-- ---------------------------------------------------------------------------
-- Scalars
-- ---------------------------------------------------------------------------

/-- A number with as many zeros before it as bring it to a width. -/
def padded (width : Nat) (s : Text) : Text := List.replicate (width - s.length) '0' ++ s

/-- A character inside a JSON string. -/
def escapeChar (c : Char) : Text :=
  match c with
  | '"' => ['\\', '"']
  | '\\' => ['\\', '\\']
  | '\x08' => ['\\', 'b']
  | '\t' => ['\\', 't']
  | '\n' => ['\\', 'n']
  | '\x0C' => ['\\', 'f']
  | '\r' => ['\\', 'r']
  | _ => if c.toNat < 0x20 then ['\\', 'u'] ++ padded 4 (Nat.toDigits 16 c.toNat) else [c]

/-- A JSON string. -/
def writeString (s : Text) : Text := '"' :: s.flatMap escapeChar ++ ['"']

def writeBool (b : Bool) : Text := if b then "true".toList else "false".toList

-- ---------------------------------------------------------------------------
-- Layout
-- ---------------------------------------------------------------------------

inductive Layout where
  | compact
  | pretty
deriving DecidableEq

namespace Layout

/-- What stands before an item at a depth. -/
def lineBreak (l : Layout) (depth : Nat) : Text :=
  match l with
  | .compact => []
  | .pretty => '\n' :: List.replicate (2 * depth) ' '

/-- What stands between a key and its value. -/
def colon : Layout → Text
  | .compact => [':']
  | .pretty => [':', ' ']

end Layout

mutual

/-- A value inside `depth` arrays and objects. -/
def Value.render (l : Layout) (depth : Nat) : Value → Text
  | .null => "null".toList
  | .bool b => writeBool b
  | .number n => n.write
  | .string s => writeString s
  | .array [] => ['[', ']']
  | .array (v :: vs) =>
    '[' :: l.lineBreak (depth + 1) ++ v.render l (depth + 1) ++ renderItems l (depth + 1) vs
      ++ l.lineBreak depth ++ [']']
  | .object [] => ['{', '}']
  | .object ((k, v) :: fs) =>
    '{' :: l.lineBreak (depth + 1) ++ writeString k ++ l.colon ++ v.render l (depth + 1)
      ++ renderFields l (depth + 1) fs ++ l.lineBreak depth ++ ['}']

/-- The items of an array after the first. -/
def renderItems (l : Layout) (depth : Nat) : List Value → Text
  | [] => []
  | v :: vs => ',' :: l.lineBreak depth ++ v.render l depth ++ renderItems l depth vs

/-- The fields of an object after the first. -/
def renderFields (l : Layout) (depth : Nat) : List (Text × Value) → Text
  | [] => []
  | (k, v) :: fs =>
    ',' :: l.lineBreak depth ++ writeString k ++ l.colon ++ v.render l depth
      ++ renderFields l depth fs

end

/-- A value on one line. -/
def Value.compact (v : Value) : Text := v.render .compact 0

/-- A value over several lines. -/
def Value.pretty (v : Value) : Text := v.render .pretty 0

end Overseer.Json
