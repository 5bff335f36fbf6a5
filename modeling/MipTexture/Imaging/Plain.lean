import MipTexture.Imaging
import MipTexture.Raster.Bitmap
import MipTexture.Raster.Block

/-!
# A plain imaging library

A library that keeps the laws of an imaging library: it reads pixels in four bytes and in blocks, and
saves bitmaps.
-/

namespace MipTexture

namespace Raster

/-! ### Pixels in four bytes -/

/-- The pixel that is stored as blue, green, red, alpha from offset `4 * i`. -/
def rawPixel (data : Array UInt8) (i : Nat) : Pixel where
  red := data[4 * i + 2]?.getD 0
  green := data[4 * i + 1]?.getD 0
  blue := data[4 * i]?.getD 0
  alpha := data[4 * i + 3]?.getD 0

def ofRaw (width height : Nat) (data : Bytes) : Raster :=
  let bytes := data.toArray
  ⟨width, height, (List.range (width * height)).map (rawPixel bytes), by simp⟩

/-! ### Pixels in blocks -/

def blockPixel (blocks : Array (Array Pixel)) (width i : Nat) : Pixel :=
  let x := i % width
  let y := i / width
  let block := blocks[y / 4 * blocksAlong width + x / 4]?.getD #[]
  block[y % 4 * 4 + x % 4]?.getD .clear

/-- The raster of pixels in blocks, which lie row by row; pixels of a block outside the raster are
dropped. -/
def ofBlocks (kind : BlockKind) (width height : Nat) (data : Bytes) : Raster :=
  let count := blocksAlong width * blocksAlong height
  let blocks := ((Block.split kind.size count data).map (fun b => (Block.pixels kind b).toArray)).toArray
  ⟨width, height, (List.range (width * height)).map (blockPixel blocks width), by simp⟩

/-! ### Sides -/

/-- A side that is not negative, as a raster can have it: it fits a signed word of 32 bits. -/
def side (n : Int) : Except Error Nat :=
  if 2 ^ 63 ≤ n then .error (.overflow .wideSide)
  else if 2 ^ 31 ≤ n then .error (.overflow .side)
  else .ok n.toNat

def sides (width height : Int) : Except Error (Nat × Nat) :=
  if width < 0 ∨ height < 0 then .error (.refused (.other "Width and height must be >= 0"))
  else do
    let columns ← side width
    let rows ← side height
    pure (columns, rows)

/-- The raster with these sides, when there are as many bytes as it needs. -/
def ofBytes (make : Nat → Nat → Bytes → Raster) (needed : Nat → Nat → Nat) (width height : Int)
    (data : Bytes) : Except Error Raster := do
  let (columns, rows) ← sides width height
  if data.length < needed columns rows then .error (.refused (.other "not enough image data"))
  else pure (make columns rows data)

end Raster

namespace BlockKind

def ofVariant (variant : Nat) : Option BlockKind :=
  [BlockKind.dxt1, BlockKind.dxt5].find? (fun kind => kind.variant = variant)

/-- The bytes that a raster needs in blocks. One without pixels needs none. -/
def needed (kind : BlockKind) (columns rows : Nat) : Nat :=
  Raster.blocksAlong columns * Raster.blocksAlong rows * kind.size

end BlockKind

namespace Imaging

def readPixels (decoder : PixelDecoder) (width height : Int) (data : Bytes) : Except Error Raster :=
  match decoder with
  | .raw .bgra => Raster.ofBytes Raster.ofRaw (fun columns rows => columns * rows * 4) width height data
  | .raw .bgr => .error (.refused (.other "unknown raw mode for given image mode"))
  | .blocks variant =>
    match BlockKind.ofVariant variant with
    | some kind => Raster.ofBytes (Raster.ofBlocks kind) kind.needed width height data
    | none => .error (.refused (.other "unknown variant"))

/-- Saves a bitmap. The extension is checked before the file is opened. -/
def saveBitmap (t : FileTree) (path : FilePath) (x : Raster) : Except Error Unit × FileTree :=
  if path.extension = ".bmp".toList then
    match t.writeFile path (Bitmap.encode x) with
    | .ok t' => (.ok (), t')
    | .error e => (.error e, t)
  else
    (.error (.refused (.other ("unknown file extension: " ++ path.extension.toString))), t)

def plain : Imaging := ⟨readPixels, saveBitmap⟩

end Imaging

end MipTexture
