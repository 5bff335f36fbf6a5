import MipTexture.FilePath
import MipTexture.Raster

/-!
# Bitmap pictures

A raster as an uncompressed bitmap: a mark and the length of the file, the sides and the size of the
pixels, and the rows from the bottom to the top, with blue, green, red and alpha of each pixel.
-/

namespace MipTexture.Bitmap

def headerSize : Nat := 54

/-- Dots per metre, for 96 dots per inch. -/
def resolution : Nat := 3780

def rows (r : Raster) : List (List Pixel) :=
  (List.range r.height).map (fun y => (r.pixels.drop (y * r.width)).take r.width)

def pixelBytes (p : Pixel) : Bytes := [p.blue, p.green, p.red, p.alpha]

def body (r : Raster) : Bytes := (rows r).reverse.flatMap (fun row => row.flatMap pixelBytes)

def encode (r : Raster) : Bytes :=
  let word (n : Nat) : Bytes := Bytes.ofNat 4 n
  let half (n : Nat) : Bytes := Bytes.ofNat 2 n
  let size := r.width * r.height * 4
  [0x42, 0x4D] ++ word (headerSize + size) ++ word 0 ++ word headerSize ++
    word 40 ++ word r.width ++ word r.height ++ half 1 ++ half 32 ++ word 0 ++ word size ++
    word resolution ++ word resolution ++ word 0 ++ word 0 ++ body r

end MipTexture.Bitmap
