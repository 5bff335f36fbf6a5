import MipTexture.Decode
import MipTexture.Imaging
import MipTexture.Settings

/-!
# Texture files

A texture file is a path with the settings under which it is read. It can be decoded, and a level of it
can be exported as a picture by an imaging library. Nothing else changes the file tree, and an export
changes it only after all its pixels are there.
-/

namespace MipTexture

structure TextureFile where
  path : FilePath
  settings : Settings
  deriving Repr, DecidableEq

structure Exported where
  path : FilePath
  picture : Raster
  deriving Repr, DecidableEq

namespace TextureFile

/-- Decodes the file at a path from a stream on it. What goes wrong names the path. -/
def load (t : FileTree) (path : FilePath) (strict : Bool) : Logged Decoded :=
  let name := some path.text.toString
  match t.openFile path with
  | .error e => .silent (.error (e.asUnreadable name))
  | .ok s => (Decode.run name strict s).1

def decode (t : FileTree) (f : TextureFile) : Logged Decoded :=
  load t f.path f.settings.strictBoundary

/-! ### Exporting -/

def pictureName (path : FilePath) (level : Int) : Text :=
  path.stem ++ "_mip".toList ++ Numeral.decimal level ++ ".png".toList

def pictureIn (dir path : FilePath) (level : Int) : FilePath :=
  dir.join (.ofText (pictureName path level))

/-- Where the picture of a level goes: to the given path, or else to the output directory. -/
def destination (f : TextureFile) (level : Int) (given : Option FilePath) : Except Error FilePath :=
  match given, f.settings.outputDir with
  | some path, _ => .ok path
  | none, some dir => .ok (pictureIn dir f.path level)
  | none, none => .error (.refused .noDestination)

def savePicture (lib : Option Imaging) (t : FileTree) (path : FilePath) (picture : Raster) :
    Except Error Unit × FileTree :=
  match lib with
  | none => (.error .noImaging, t)
  | some lib => lib.save t path picture

/-- Writes a picture, and the directories above it before. -/
def writePicture (lib : Option Imaging) (t : FileTree) (path : FilePath) (picture : Raster) :
    Except Error Exported × FileTree :=
  match t.makeDirectories path.parent with
  | (.error e, t') => (.error e, t')
  | (.ok _, t') =>
    let saved := savePicture lib t' path picture
    (saved.1.map (fun _ => ⟨path, picture⟩), saved.2)

/-- Exports a level as a picture. Without an imaging library there is none. -/
def exportLevel (lib : Option Imaging) (t : FileTree) (f : TextureFile) (level : Int)
    (given : Option FilePath) : Logged Exported × FileTree :=
  match f.destination level given with
  | .error e => (.silent (.error e), t)
  | .ok path =>
    let decoded := decode t f
    match decoded.answer.bind (fun d => d.texture.raster lib level) with
    | .error e => (⟨.error e, decoded.log⟩, t)
    | .ok picture =>
      let written := writePicture lib t path picture
      (⟨written.1, decoded.log⟩, written.2)

end TextureFile

/-! ### Requests -/

inductive FileRequest where
  | load (path : FilePath) (strict : Bool)
  | decode (file : TextureFile)
  | texture (file : TextureFile)
  | txi (file : TextureFile)
  | exportLevel (file : TextureFile) (level : Int) (given : Option FilePath)
  deriving Repr, DecidableEq

inductive FileAnswer where
  | decoded (d : Decoded)
  | texture (t : Texture)
  | txi (bytes : Bytes)
  | exported (e : Exported)
  deriving Repr, DecidableEq

namespace FileRequest

def run (request : FileRequest) (lib : Option Imaging) (t : FileTree) :
    Logged FileAnswer × FileTree :=
  match request with
  | .load path strict => ((TextureFile.load t path strict).map .decoded, t)
  | .decode file => ((TextureFile.decode t file).map .decoded, t)
  | .texture file => ((TextureFile.decode t file).map (fun d => .texture d.texture), t)
  | .txi file => ((TextureFile.decode t file).map (fun d => .txi d.txi), t)
  | .exportLevel file level given =>
    let result := TextureFile.exportLevel lib t file level given
    (result.1.map .exported, result.2)

def runAll (lib : Option Imaging) : List FileRequest → FileTree → List (Logged FileAnswer × FileTree)
  | [], _ => []
  | request :: rest, t => request.run lib t :: runAll lib rest (request.run lib t).2

theorem tree_run_of_not_export {request : FileRequest} (lib : Option Imaging) {t : FileTree}
    (h : ∀ file level given, request ≠ .exportLevel file level given) :
    (request.run lib t).2 = t := by
  cases request with
  | exportLevel file level given => exact absurd rfl (h file level given)
  | _ => rfl

end FileRequest

end MipTexture
