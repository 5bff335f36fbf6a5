import MipTexture.Text.Numeral

/-!
# Blanks

The blank characters are those that separate lines, paragraphs or words: the controls from tab to
carriage return and from U+001C to U+001F, the next-line control, and all space separators. Blanks
around a text are stripped, and parts of a text are replaced.
-/

namespace MipTexture

/-- The blank characters as inclusive ranges of character numbers. -/
def blankRanges : List (Nat × Nat) :=
  [(0x09, 0x0D), (0x1C, 0x20), (0x85, 0x85), (0xA0, 0xA0), (0x1680, 0x1680), (0x2000, 0x200A),
    (0x2028, 0x2029), (0x202F, 0x202F), (0x205F, 0x205F), (0x3000, 0x3000)]

def isBlank (c : Char) : Bool :=
  blankRanges.any (fun (low, high) => decide (low ≤ c.toNat ∧ c.toNat ≤ high))

namespace Text

def stripRight (t : Text) : Text := (t.reverse.dropWhile isBlank).reverse

def strip (t : Text) : Text := stripRight (t.dropWhile isBlank)

/-- Every occurrence of `old`, from the left and without overlap, becomes `new`. `skip` characters are
still covered by the occurrence before. -/
def replaceFrom (old new : Text) : Nat → Text → Text
  | _, [] => []
  | skip + 1, _ :: rest => replaceFrom old new skip rest
  | 0, c :: rest =>
    if old.isPrefixOf (c :: rest) then new ++ replaceFrom old new (old.length - 1) rest
    else c :: replaceFrom old new 0 rest

def replace (t old new : Text) : Text := if old = [] then t else replaceFrom old new 0 t

end Text

end MipTexture
