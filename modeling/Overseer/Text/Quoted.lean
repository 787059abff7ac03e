import Overseer.Text.Numeral
import Overseer.Text.Printable
import Overseer.Text.Utf8

/-! ## Quoted text

A quoted text stands between quotation marks. Quotation marks and backslashes in it follow a
backslash, and characters that cannot be printed are spelled out. Bytes are quoted like the text that
they stand for, where bytes that belong to no character are spelled out too. -/

namespace Overseer.Text

/-- The hexadecimal digits of a number. -/
def hexDigits (n : Nat) : Text := Nat.toDigits 16 n

/-- A character inside quotation marks. -/
def quoteChar (c : Char) : Text :=
  match c with
  | '"' => ['\\', '"']
  | '\\' => ['\\', '\\']
  | '\t' => ['\\', 't']
  | '\n' => ['\\', 'n']
  | '\r' => ['\\', 'r']
  | '\x00' => ['\\', '0']
  | _ => if isPrintable c then [c] else ['\\', 'u', '{'] ++ hexDigits c.toNat ++ ['}']

/-- A text in quotation marks. -/
def quoted (s : Text) : Text := '"' :: s.flatMap quoteChar ++ ['"']

/-- A byte that belongs to no character. -/
def quoteByte (b : UInt8) : Text := ['\\', 'x'] ++ (hexDigits b.toNat).map Char.toUpper

/-- A character of quoted bytes, where a backslash goes before apostrophes too. -/
def quoteByteChar (c : Char) : Text := if c = '\'' then ['\\', '\''] else quoteChar c

/-- Bytes inside quotation marks, of which the first `taken` belong to a character before them. -/
def quoteBytes (taken : Nat) : Bytes → Text
  | [] => []
  | b :: rest =>
    match taken with
    | n + 1 => quoteBytes n rest
    | 0 =>
      match Utf8.first? (b :: rest) with
      | some c => quoteByteChar c ++ quoteBytes (c.utf8Size - 1) rest
      | none => quoteByte b ++ quoteBytes 0 rest

/-- Bytes in quotation marks. -/
def quotedBytes (bytes : Bytes) : Text := '"' :: quoteBytes 0 bytes ++ ['"']

/-- An optional value, given how its value is written. -/
def optionally (write : α → Text) : Option α → Text
  | none => "None".toList
  | some a => "Some(".toList ++ write a ++ ")".toList

end Overseer.Text
