import MipTexture.Bytes

/-!
# Rasters

A raster is a rectangle of pixels, row by row from the top left. Its pixels come from bytes in one of two
ways: four bytes for each pixel, or compressed blocks of 4x4 pixels.
-/

namespace MipTexture

structure Pixel where
  red : UInt8
  green : UInt8
  blue : UInt8
  alpha : UInt8
  deriving Repr, DecidableEq

namespace Pixel

def clear : Pixel := ⟨0, 0, 0, 0⟩

def bytes (p : Pixel) : Bytes := [p.red, p.green, p.blue, p.alpha]

/-- The bytes from an offset on are the blue, green, red and alpha of a pixel. -/
structure StoredAt (p : Pixel) (data : Bytes) (offset : Nat) : Prop where
  blue : data[offset]? = some p.blue
  green : data[offset + 1]? = some p.green
  red : data[offset + 2]? = some p.red
  alpha : data[offset + 3]? = some p.alpha

end Pixel

/-- A raster has as many pixels as its sides say. -/
structure Raster where
  width : Nat
  height : Nat
  pixels : List Pixel
  length_pixels : pixels.length = width * height
  deriving Repr, DecidableEq

namespace Raster

def pixel? (r : Raster) (x y : Nat) : Option Pixel :=
  if x < r.width ∧ y < r.height then r.pixels[y * r.width + x]? else none

def bytes (r : Raster) : Bytes := r.pixels.flatMap Pixel.bytes

theorem index_lt {width height x y : Nat} (hx : x < width) (hy : y < height) :
    y * width + x < width * height := by
  calc y * width + x
      < y * width + width := Nat.add_lt_add_left hx _
    _ = width * (y + 1) := by rw [Nat.mul_succ, Nat.mul_comm]
    _ ≤ width * height := Nat.mul_le_mul_left _ hy

/-- The sides that a level can have: none is zero, and each fits a word of 16 bits. -/
def IsSide (side : Nat) : Prop := 0 < side ∧ side < 2 ^ 16

/-- How many blocks lie along a side, where the last one may stand out. -/
def blocksAlong (side : Nat) : Nat := (side + 3) / 4

end Raster

/-- The two kinds of blocks: colours alone, or alpha before colours. -/
inductive BlockKind where
  | dxt1
  | dxt5
  deriving Repr, DecidableEq

namespace BlockKind

/-- The bytes of a block. -/
def size : BlockKind → Nat
  | .dxt1 => 8
  | .dxt5 => 16

/-- The number of a kind among the variants of block compression. -/
def variant : BlockKind → Nat
  | .dxt1 => 1
  | .dxt5 => 3

end BlockKind

end MipTexture
