import MipTexture.Header
import MipTexture.Layout
import MipTexture.Text.Numeral
import MipTexture.Text.Quoted

/-!
# Errors

An error is its cause; the wording is in one function per kind of cause. Only format errors and errors
of the operating system are reported as a failed read of a texture; a request that could not be met by
any file stays what it is.
-/

namespace MipTexture

inductive FormatError where
  | malformed (message : String)
  | truncated (what : String) (expected actual : Option Int)
  | unknownEncoding (message : String) (header : Header)
  | unsupportedEncoding (message : String) (header : Header)
  deriving Repr, DecidableEq

namespace FormatError

def numberOrNone : Option Int → String
  | some n => (Numeral.decimal n).toString
  | none => "None"

/-- The wording of a format error. A read that failed without a count names only what was read. -/
def message : FormatError → String
  | .malformed text => text
  | .truncated what none _ => what ++ ": read error"
  | .truncated what (some expected) actual =>
    what ++ ": expected " ++ numberOrNone (some expected) ++ " bytes, got " ++ numberOrNone actual
  | .unknownEncoding text _ => text
  | .unsupportedEncoding text _ => text

def readError (what : String) : FormatError :=
  .truncated what none none

def shortRead (what : String) (expected actual : Int) : FormatError :=
  .truncated what (some expected) (some actual)

end FormatError

inductive PathProblem where
  | notFound
  | occupied
  | notDirectory
  | isDirectory
  | nameTooLong
  deriving Repr, DecidableEq

namespace PathProblem

def number : PathProblem → Nat
  | .notFound => 2
  | .occupied => 17
  | .notDirectory => 20
  | .isDirectory => 21
  | .nameTooLong => 36

def phrase : PathProblem → String
  | .notFound => "No such file or directory"
  | .occupied => "File exists"
  | .notDirectory => "Not a directory"
  | .isDirectory => "Is a directory"
  | .nameTooLong => "File name too long"

end PathProblem

inductive SystemError where
  | device (message : String)
  | path (problem : PathProblem) (location : Text)
  deriving Repr, DecidableEq

namespace SystemError

def message : SystemError → String
  | .device text => text
  | .path problem location =>
    "[Errno " ++ (Numeral.decimal problem.number).toString ++ "] " ++ problem.phrase ++ ": " ++
      (Quoted.encode location).toString

end SystemError

/-- A request that cannot be met, whatever the file holds. -/
inductive Refusal where
  | negativeSize
  | closedStream
  | negativePosition (position : Int)
  | shortHeader (length : Nat)
  | pixelsMissing
  | noPixels (channels : Channels)
  | noDestination
  | unencodable (reason : String)
  | nullByte
  | variableName
  | other (message : String)
  deriving Repr, DecidableEq

namespace Refusal

def message : Refusal → String
  | .negativeSize => "size must be >= 0"
  | .closedStream => "I/O operation on closed file."
  | .negativePosition position =>
    "negative seek value " ++ (Numeral.decimal position).toString
  | .shortHeader length =>
    "TXB header needs 128 bytes, got " ++ (Numeral.decimal length).toString
  | .pixelsMissing => "pixel buffer size mismatch"
  | .noPixels channels => "no image export for " ++ channels.label
  | .noDestination => "no out_path given and no output_dir configured (TXB_OUTPUT_DIR)"
  | .unencodable reason => reason
  | .nullByte => "embedded null byte"
  | .variableName => "illegal environment variable name"
  | .other text => text

end Refusal

/-- What a number was meant for that the machine word there does not hold. -/
inductive Overflow where
  | size
  | position
  | side
  | wideSide
  deriving Repr, DecidableEq

namespace Overflow

/-- The wording for a number that is too large. A side is given as a wide word first, and then has to
fit a narrow one. -/
def message : Overflow → String
  | .size => "cannot fit 'int' into an index-sized integer"
  | .position => "Python int too large to convert to C ssize_t"
  | .side => "signed integer is greater than maximum"
  | .wideSide => "Python int too large to convert to C long"

end Overflow

inductive Error where
  | general (message : String)
  | format (cause : FormatError)
  | unreadable (cause : Error) (name : Option String)
  | system (cause : SystemError)
  | refused (cause : Refusal)
  | noLevel (level : Int) (count : Nat)
  | overflow (cause : Overflow)
  | noHome
  | noImaging
  deriving Repr, DecidableEq

namespace Error

/-- The wording of an error. A failed read names its file, when it was given one by a name that is not
empty. -/
def message : Error → String
  | .general text => text
  | .format cause => cause.message
  | .unreadable cause none => "failed reading TXB file: " ++ cause.message
  | .unreadable cause (some name) =>
    if name = "" then "failed reading TXB file: " ++ cause.message
    else "failed reading TXB file '" ++ name ++ "': " ++ cause.message
  | .system cause => cause.message
  | .refused cause => cause.message
  | .noLevel level count =>
    "mip level " ++ (Numeral.decimal level).toString ++ " out of range (have " ++
      (Numeral.decimal count).toString ++ ")"
  | .overflow cause => cause.message
  | .noHome => "Could not determine home directory."
  | .noImaging => "Pillow is required for image export. Install `txb-py[image]`."

def asUnreadable (name : Option String) : Error → Error
  | .format cause => .unreadable (.format cause) name
  | .system cause => .unreadable (.system cause) name
  | e => e

end Error

/-- A short read of `what` stands for every error of the operating system while it is read; all other
errors stay what they are. -/
def asReadError {α : Type} (what : String) : Except Error α → Except Error α
  | .error (.system _) => .error (.format (.readError what))
  | answer => answer

end MipTexture
