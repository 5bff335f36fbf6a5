import MipTexture.Raster

/-!
# Blocks

A compressed block holds 4x4 pixels. Its colours are two 16-bit colours and two more between them, with
two bits per pixel to choose one; its alpha, where it has one, is two bytes and six more values between
them, with three bits per pixel.
-/

namespace MipTexture

namespace Block

/-! ### Colours -/

structure Colour where
  red : Nat
  green : Nat
  blue : Nat
  deriving Repr, DecidableEq

/-- Five bits stretched to eight, so that the largest value stays the largest. -/
def stretch5 (v : Nat) : Nat := v * 8 + v / 4

def stretch6 (v : Nat) : Nat := v * 4 + v / 16

/-- The colour of a word: five bits of red, six of green, five of blue. -/
def Colour.ofWord (word : Nat) : Colour where
  red := stretch5 (word / 2048 % 32)
  green := stretch6 (word / 32 % 64)
  blue := stretch5 (word % 32)

/-- The weighted mean of two colours, rounded down. -/
def Colour.mix (a b : Nat) (p q : Colour) : Colour where
  red := (a * p.red + b * q.red) / (a + b)
  green := (a * p.green + b * q.green) / (a + b)
  blue := (a * p.blue + b * q.blue) / (a + b)

def Colour.withAlpha (c : Colour) (alpha : Nat) : Pixel :=
  ⟨UInt8.ofNat c.red, UInt8.ofNat c.green, UInt8.ofNat c.blue, UInt8.ofNat alpha⟩

/-- The four colours of a block. A block without alpha whose first word is not above its second has
three colours and transparent black. -/
def palette (kind : BlockKind) (first second : Nat) : List Pixel :=
  let p := Colour.ofWord first
  let q := Colour.ofWord second
  if second < first ∨ kind = .dxt5 then
    [p.withAlpha 255, q.withAlpha 255, (p.mix 2 1 q).withAlpha 255, (p.mix 1 2 q).withAlpha 255]
  else [p.withAlpha 255, q.withAlpha 255, (p.mix 1 1 q).withAlpha 255, .clear]

/-- The colours of the 16 pixels: two words, then two bits per pixel from the low end. -/
def colours (kind : BlockKind) (data : Bytes) : List Pixel :=
  let table := palette kind (data.slice 0 2).value (data.slice 2 2).value
  let bits := (data.slice 4 4).value
  (List.range 16).map (fun i => table[bits / 4 ^ i % 4]?.getD .clear)

/-! ### Alpha -/

/-- The eight alphas of a block. When the first byte is not above the second, four lie between them and
the last two are the extremes. -/
def alphaTable (a b : Nat) : List Nat :=
  if b < a then
    a :: b :: (List.range 6).map (fun i => ((6 - i) * a + (i + 1) * b) / 7)
  else
    a :: b :: (List.range 4).map (fun i => ((4 - i) * a + (i + 1) * b) / 5) ++ [0, 255]

/-- The alphas of the 16 pixels: two bytes, then three bits per pixel from the low end. -/
def alphas (data : Bytes) : List Nat :=
  let table := alphaTable (data.slice 0 1).value (data.slice 1 1).value
  let bits := (data.slice 2 6).value
  (List.range 16).map (fun i => table[bits / 8 ^ i % 8]?.getD 0)

/-! ### Whole blocks -/

def pixels (kind : BlockKind) (data : Bytes) : List Pixel :=
  match kind with
  | .dxt1 => colours .dxt1 data
  | .dxt5 =>
    ((colours .dxt5 (data.drop 8)).zip (alphas data)).map
      (fun (p, alpha) => { p with alpha := UInt8.ofNat alpha })

def split (size count : Nat) (data : Bytes) : List Bytes :=
  match count with
  | 0 => []
  | count + 1 => data.take size :: split size count (data.drop size)

end Block

end MipTexture
