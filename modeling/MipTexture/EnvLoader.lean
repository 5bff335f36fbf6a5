import MipTexture.EnvFile
import MipTexture.FileTree

/-!
# Loaders of environment files

Loading an environment file into the environment is the work of a library, which need not be installed.
What is known of a loader is stated as laws beside it: that it only adds to the environment (`Adds`), and
how it reads files of plain lines (`ReadsPlainLines`).
-/

namespace MipTexture

namespace FileTree

/-- A text that ends with a slash, or with a dot after one, can only name a directory. -/
def namesDirectory (path : Text) : Bool :=
  match (FilePath.splitSlashes path).getLast? with
  | some piece => !FilePath.isName piece
  | none => true

/-- The file at a path, when a file is there. The path is looked up as it is written, so that everything
in it counts for its length. -/
def fileAt (t : FileTree) (path : Text) : Option Bytes :=
  if namesDirectory path ∨ maxPathBytes < byteLength path then none
  else
    match t.readFile (.ofText path) with
    | .ok data => some data
    | .error _ => none

end FileTree

/-- A loader is given the path of a file and the environment. It leaves an environment also when it
fails. -/
structure EnvLoader where
  load : FileTree → Text → Environment → Except Error Unit × Environment

namespace EnvLoader

/-- A loader leaves what is set, and everything when there is no file. -/
structure Adds (loader : EnvLoader) : Prop where
  kept : ∀ {t : FileTree} {path : Text} {env : Environment} {name value : Text},
    env name = some value → (loader.load t path env).2 name = some value
  absent : ∀ {t : FileTree} {path : Text} (env : Environment), t.fileAt path = none →
    (loader.load t path env).2 = env

/-- The names of a plain file are gone through in the order of their first lines: those that are missing
are set, each to the value of its last line. A file that is no text is not read. -/
structure ReadsPlainLines (loader : EnvLoader) : Prop extends Adds loader where
  plain : ∀ {t : FileTree} {path : Text} (env : Environment) {f : EnvFile.PlainFile}, f.Plain →
    t.fileAt path = some f.bytes →
      (loader.load t path env).2 = env.setMissing (EnvFile.merged f.entries)
  noText : ∀ {t : FileTree} {path : Text} (env : Environment) {data : Bytes},
    t.fileAt path = some data → (∀ text : Text, data ≠ text.utf8) →
      (loader.load t path env).2 = env

end EnvLoader

end MipTexture
