import MipTexture.EnvLoader
import MipTexture.FilePath.Home
import MipTexture.Text.Blank
import MipTexture.Text.Lower

/-!
# Settings

Three variables say where pictures go, where temporary files go, and whether a file may end before its
declared pixel data does. The variable of the temporary directory may name the output directory by a
placeholder, which is replaced in the text before it is read as a path. When there is a loader of
environment files, it extends the environment first; whether it fails does not count.
-/

namespace MipTexture

structure Settings where
  outputDir : Option FilePath
  tempDir : Option FilePath
  strictBoundary : Bool
  deriving Repr, DecidableEq

namespace Settings

def default : Settings := ⟨none, none, true⟩

def outputDirName : Text := "TXB_OUTPUT_DIR".toList

def tempDirName : Text := "TXB_TEMP_DIR".toList

def strictBoundaryName : Text := "TXB_STRICT_BOUNDARY".toList

def homeName : Text := "HOME".toList

/-- What stands for the output directory in the text of the temporary directory. -/
def placeholder : Text := "\x7boutput_dir\x7d".toList

def noWords : List Text := ["0".toList, "false".toList, "no".toList, "off".toList]

/-- A text says no, in letters of any size and with blanks around it. -/
def saysNo (t : Text) : Bool := noWords.contains t.strip.lower

/-- The directory that a text names; an empty text names none. -/
def directory (accounts : Accounts) (home : Option Text) (raw : Option Text) :
    Except Error (Option FilePath) :=
  match raw with
  | none => .ok none
  | some [] => .ok none
  | some t => ((FilePath.ofText t).expandHome accounts home).map some

def fillPlaceholder (outputDir : Option FilePath) (t : Text) : Text :=
  match outputDir with
  | none => t
  | some dir => t.replace placeholder dir.text

def ofEnvironment (accounts : Accounts) (env : Environment) : Except Error Settings := do
  let outputDir ← directory accounts (env homeName) (env outputDirName)
  let tempDir ← directory accounts (env homeName) ((env tempDirName).map (fillPlaceholder outputDir))
  pure ⟨outputDir, tempDir, ((env strictBoundaryName).map (fun t => !saysNo t)).getD true⟩

def defaultEnvPath : Text := ".env".toList

/-- The environment that the settings are read from, once the file at a path was loaded into it. -/
def effective (loader : Option EnvLoader) (t : FileTree) (env : Environment) (path : Option Text) :
    Environment :=
  match loader with
  | none => env
  | some loader => (loader.load t (path.getD defaultEnvPath) env).2

def load (loader : Option EnvLoader) (accounts : Accounts) (t : FileTree) (env : Environment)
    (path : Option Text) : Except Error Settings :=
  ofEnvironment accounts (effective loader t env path)

end Settings

end MipTexture
