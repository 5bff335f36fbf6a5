import MipTexture.Text.Numeral
import MipTexture.Text.Printable

/-!
# Quoted text

A quoted text stands between single quotes, or between double quotes when it holds a single quote and
no double quote. The quote that surrounds it and the backslash are written after a backslash; the line
end, the carriage return and the tab have letters of their own; every other character that is not
printable is written as its number in lower-case hexadecimal.
-/

namespace MipTexture.Quoted

/-- The lower-case hexadecimal digits of a number, filled up with zeros. -/
def hexDigits (width n : Nat) : Text :=
  let digits := Nat.toDigits 16 n
  List.replicate (width - digits.length) '0' ++ digits

/-- A character by its number: two digits, four digits or eight, whichever is enough. -/
def encodeNumber (c : Char) : Text :=
  if c.toNat < 0x100 then '\\' :: 'x' :: hexDigits 2 c.toNat
  else if c.toNat < 0x10000 then '\\' :: 'u' :: hexDigits 4 c.toNat
  else '\\' :: 'U' :: hexDigits 8 c.toNat

/-- A character of a text that stands between two quotes `mark`. -/
def encodeChar (mark c : Char) : Text :=
  if c = mark ∨ c = '\\' then ['\\', c]
  else if c = '\n' then ['\\', 'n']
  else if c = '\r' then ['\\', 'r']
  else if c = '\t' then ['\\', 't']
  else if isPrintable c then [c]
  else encodeNumber c

def mark (t : Text) : Char :=
  if '\'' ∈ t ∧ '"' ∉ t then '"' else '\''

def encode (t : Text) : Text :=
  mark t :: t.flatMap (encodeChar (mark t)) ++ [mark t]

end MipTexture.Quoted
