/-!
# Numerals

Text is a list of characters. This module writes integers: in decimal with a leading minus sign, and
in upper-case hexadecimal filled up with zeros to a least width that counts the sign.
-/

namespace MipTexture

abbrev Text := List Char

namespace Text

def toString (t : Text) : String := String.ofList t

end Text

namespace Numeral

def sign (n : Int) : Text :=
  if n < 0 then ['-'] else []

def decimal (n : Int) : Text :=
  sign n ++ Nat.toDigits 10 n.natAbs

/-- The upper-case hexadecimal text of an integer, with zeros between sign and digits until it has
`width` characters. -/
def hex (width : Nat) (n : Int) : Text :=
  let digits := (Nat.toDigits 16 n.natAbs).map Char.toUpper
  sign n ++ List.replicate (width - (sign n).length - digits.length) '0' ++ digits

theorem toString_decimal (n : Int) : (decimal n).toString = toString n := by
  cases n with
  | ofNat n => rfl
  | negSucc n =>
    rw [decimal, sign, if_pos (Int.negSucc_lt_zero n), Text.toString, String.ofList_append]
    rfl

end Numeral

end MipTexture
