import MipTexture.FileTree
import MipTexture.Raster
import MipTexture.Texture

/-!
# Imaging

Reading pixels and writing pictures is the work of an imaging library, which need not be installed. A
level asks it for a raster once its own checks are done: pixels in four bytes have to be all there, and
pixels of which only the order of the channels is known cannot be read at all.

What is known of a library is stated as laws beside it: how many blocks it needs (`ReadsBlocks`), where
it takes each pixel from (`ReadsRaw`), and that saving concerns one file (`SavesFile`).
-/

namespace MipTexture

/-- How a library is to read pixels: four bytes for each in the order of their channels, or blocks of a
variant of block compression. -/
inductive PixelDecoder where
  | raw (channels : Channels)
  | blocks (variant : Nat)
  deriving Repr, DecidableEq

/-- An imaging library. It reads bytes into a raster with the given sides, and saves a raster at a path
of a file tree in the format that the path asks for. -/
structure Imaging where
  read : PixelDecoder → (width height : Int) → Bytes → Except Error Raster
  save : FileTree → FilePath → Raster → Except Error Unit × FileTree

namespace Imaging

open Raster (IsSide blocksAlong)

/-- Blocks lie row by row, and each 4x4 square that the raster touches needs a whole one. -/
structure ReadsBlocks (lib : Imaging) : Prop where
  enough : ∀ (kind : BlockKind) {columns rows : Nat} {data : Bytes}, IsSide columns → IsSide rows →
    blocksAlong columns * blocksAlong rows * kind.size ≤ data.length →
      ∃ r, lib.read (.blocks kind.variant) columns rows data = .ok r ∧ r.width = columns ∧
        r.height = rows
  missing : ∀ (kind : BlockKind) {columns rows : Nat} {data : Bytes}, IsSide columns → IsSide rows →
    data.length < blocksAlong columns * blocksAlong rows * kind.size →
      lib.read (.blocks kind.variant) columns rows data =
        .error (.refused (.other "not enough image data"))

/-- Pixels in four bytes lie row by row from the top, each as blue, green, red and alpha. -/
structure ReadsRaw (lib : Imaging) : Prop where
  pixels : ∀ {columns rows : Nat} {data : Bytes}, IsSide columns → IsSide rows →
    data.length = columns * rows * 4 →
      ∃ r, lib.read (.raw .bgra) columns rows data = .ok r ∧ r.width = columns ∧ r.height = rows ∧
        ∀ x < columns, ∀ y < rows, ∃ p, r.pixel? x y = some p ∧
          p.StoredAt data (4 * (y * columns + x))

/-- Saving writes one file, in whatever format. When it fails, it may have begun the file before. -/
structure SavesFile (lib : Imaging) : Prop where
  saved : ∀ {t t' : FileTree} {path : FilePath} {x : Raster},
    lib.save t path x = (.ok (), t') → ∃ data, t.writeFile path data = .ok t'
  failed : ∀ {t t' : FileTree} {path : FilePath} {x : Raster} {e : Error},
    lib.save t path x = (.error e, t') → t' = t ∨ ∃ data, t.writeFile path data = .ok t'

end Imaging

/-! ### Levels as rasters -/

/-- What is known of the form of the pixels of a level: how they are stored, or only the order of their
channels, which does not say how to read them. -/
inductive PixelForm where
  | stored (storage : Storage)
  | ordered (channels : Channels)
  deriving Repr, DecidableEq

/-- The variant of block compression in which pixels are stored, when they are stored in blocks. -/
def Storage.blockVariant : Storage → Option Nat
  | .rgba8 => none
  | .dxt1 => some 1
  | .dxt5 => some 3

namespace Level

/-- The raster of a level with pixels in four bytes. Bytes after the last pixel are not read. -/
def rawRaster (level : Level) (lib : Imaging) : Except Error Raster :=
  let needed := level.width * level.height * 4
  if (level.data.length : Int) < needed then .error (.refused .pixelsMissing)
  else lib.read (.raw .bgra) level.width level.height (level.data.before needed)

def blockRaster (level : Level) (lib : Imaging) (variant : Nat) : Except Error Raster :=
  lib.read (.blocks variant) level.width level.height level.data

/-- The raster of a level, by the imaging library when there is one. -/
def raster (level : Level) (lib : Option Imaging) (form : PixelForm) : Except Error Raster :=
  match lib with
  | none => .error .noImaging
  | some lib =>
    match form with
    | .ordered channels => .error (.refused (.noPixels channels))
    | .stored storage =>
      match storage.blockVariant with
      | none => level.rawRaster lib
      | some variant => level.blockRaster lib variant

end Level

namespace Texture

def raster (t : Texture) (lib : Option Imaging) (n : Int) : Except Error Raster := do
  let level ← t.level n
  level.raster lib (.stored t.layout.storage)

end Texture

end MipTexture
