import MipTexture.Error

/-!
# Encodings

Three encoding bytes are supported. An encoding fixes how pixels are stored, the least number of bytes
of a level, and a density of bytes per pixel as a fraction, from which the size of a level is
estimated in 32-bit arithmetic.

Main statements: the estimate is a word (`levelSize_lt`), and it is the exact quotient as long as the
product of sides and numerator is a word (`levelSize_eq`).
-/

namespace MipTexture

structure Density where
  num : Nat
  den : Nat
  deriving Repr, DecidableEq

structure Encoding where
  code : Nat
  layout : Layout
  minSize : Nat
  density : Density
  deriving Repr, DecidableEq

namespace Encoding

/-- Four bytes per pixel: blue, green, red, alpha. -/
def raw : Encoding :=
  ⟨0x04, ⟨false, true, .bgra, .rgba8⟩, 4, ⟨4, 1⟩⟩

/-- Blocks of 4x4 pixels in 8 bytes, without alpha. -/
def dxt1 : Encoding :=
  ⟨0x0A, ⟨true, false, .bgr, .dxt1⟩, 8, ⟨1, 2⟩⟩

/-- Blocks of 4x4 pixels in 16 bytes, with alpha. -/
def dxt5 : Encoding :=
  ⟨0x0C, ⟨true, true, .bgra, .dxt5⟩, 16, ⟨1, 1⟩⟩

def supported : List Encoding := [raw, dxt1, dxt5]

/-- An encoding byte whose pixel layout is not known, though files with it exist. -/
def unsupportedCode : Int := 0x09

def ofCode (code : Int) : Option Encoding :=
  supported.find? (fun e => (e.code : Int) = code)

theorem mem_supported_of_ofCode {code : Int} {e : Encoding} (h : ofCode code = some e) :
    e ∈ supported ∧ (e.code : Int) = code :=
  ⟨List.mem_of_find?_eq_some h, by simpa using List.find?_some h⟩

theorem ofCode_eq_none_iff (code : Int) :
    ofCode code = none ↔ code ≠ 0x04 ∧ code ≠ 0x0A ∧ code ≠ 0x0C := by
  simp only [ofCode, supported, raw, dxt1, dxt5, List.find?_eq_none, List.mem_cons,
    List.not_mem_nil, or_false, decide_eq_true_eq, forall_eq_or_imp, forall_eq]
  omega

/-! ### Looking up the encoding of a header -/

def unsupported (h : Header) : FormatError :=
  .unsupportedEncoding ("Unsupported TXB encoding 0x" ++ (Numeral.hex 2 h.encoding).toString) h

def unknown (h : Header) : FormatError :=
  let number (n : Int) : String := (Numeral.decimal n).toString
  .unknownEncoding
    ("Unknown TXB encoding 0x" ++ (Numeral.hex 2 h.encoding).toString ++ " (" ++ number h.width ++
      "x" ++ number h.height ++ ", " ++ number h.levelCount ++ ", " ++ number h.dataSize ++ ")") h

def lookup (h : Header) : Except FormatError Encoding :=
  match ofCode h.encoding with
  | some e => .ok e
  | none =>
    if h.encoding = unsupportedCode then .error (unsupported h)
    else .error (unknown h)

theorem lookup_eq_ok_iff (h : Header) (e : Encoding) :
    lookup h = .ok e ↔ ofCode h.encoding = some e := by
  unfold lookup
  split
  · rename_i found hfound
    simp [hfound]
  · rename_i hnone
    split <;> simp [hnone]

/-! ### Sizes -/

/-- The estimated bytes of a level with all its pixels. The product is taken modulo 2 ^ 32 before the
division. -/
def levelSize (e : Encoding) (width height : Int) : Nat :=
  (width * height * e.density.num % 2 ^ 32).toNat / e.density.den

theorem levelSize_lt (e : Encoding) (width height : Int) : e.levelSize width height < 2 ^ 32 := by
  have hmod : (width * height * e.density.num % 2 ^ 32).toNat < 2 ^ 32 := by omega
  exact Nat.lt_of_le_of_lt (Nat.div_le_self _ _) hmod

theorem levelSize_eq (e : Encoding) (width height : Nat)
    (h : width * height * e.density.num < 2 ^ 32) :
    e.levelSize width height = width * height * e.density.num / e.density.den := by
  have hcast : ((width : Int) * height * e.density.num) = (width * height * e.density.num : Nat) := by
    simp only [Int.natCast_mul]
  have hmod : ((width * height * e.density.num : Nat) : Int) % 2 ^ 32 =
      (width * height * e.density.num : Nat) := by omega
  unfold levelSize
  rw [hcast, hmod, Int.toNat_natCast]

end Encoding

end MipTexture
