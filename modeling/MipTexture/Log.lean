import MipTexture.MipChain

/-!
# Log

What reading a texture writes down on its way. A note is the event itself; its severity and its
wording follow from it.

Main statements: what each line says in words (`Note.line_header` and the four beside it).
-/

namespace MipTexture

inductive Severity where
  | debug
  | warning
  deriving Repr, DecidableEq

namespace Severity

def name : Severity → String
  | .debug => "DEBUG"
  | .warning => "WARNING"

end Severity

inductive Note where
  | header (h : Header)
  | chainEnded (levels : Nat) (stop : ChainStop)
  | txiRead (count : Nat)
  | txiMissing (streamEnd : Nat) (boundary : Int)
  deriving Repr, DecidableEq

abbrev Log := List Note

namespace Note

/-- Only a stream that is too short is worth a warning. -/
def severity : Note → Severity
  | .txiMissing .. => .warning
  | _ => .debug

def text (note : Note) : String :=
  let number (n : Int) : String := (Numeral.decimal n).toString
  match note with
  | .header h =>
    "TXB header: " ++ number h.width ++ "x" ++ number h.height ++ ", encoding 0x" ++
      (Numeral.hex 2 h.encoding).toString ++ ", " ++ number h.levelCount ++ " mip maps, " ++
      number h.dataSize ++ " data bytes"
  | .chainEnded levels (.nonSquare width height) =>
    "mip chain stops at " ++ number levels ++ " levels: non-square level " ++ number width ++ "x" ++
      number height ++ " below block size"
  | .chainEnded levels (.exhausted remaining size) =>
    "mip chain stops at " ++ number levels ++ " levels: data size exhausted (" ++
      number remaining ++ " < " ++ number size ++ ")"
  | .txiRead count => "read " ++ number count ++ " bytes of TXI data"
  | .txiMissing streamEnd boundary =>
    "TXB stream ends at " ++ number streamEnd ++ ", before the declared data end " ++
      number boundary ++ "; no TXI data"

def line (note : Note) : String := note.severity.name ++ ": " ++ note.text

/-! ### Lines in words -/

theorem line_header (h : Header) :
    (header h).line = "DEBUG: " ++ ("TXB header: " ++ toString h.width ++ "x" ++ toString h.height ++
      ", encoding 0x" ++ (Numeral.hex 2 h.encoding).toString ++ ", " ++ toString h.levelCount ++
      " mip maps, " ++ toString h.dataSize ++ " data bytes") := by
  unfold line text
  simp only [Numeral.toString_decimal]
  rfl

theorem line_nonSquare (levels width height : Nat) :
    (chainEnded levels (.nonSquare width height)).line =
      "DEBUG: " ++ ("mip chain stops at " ++ toString levels ++ " levels: non-square level " ++
        toString width ++ "x" ++ toString height ++ " below block size") :=
  rfl

theorem line_exhausted (levels remaining size : Nat) :
    (chainEnded levels (.exhausted remaining size)).line =
      "DEBUG: " ++ ("mip chain stops at " ++ toString levels ++ " levels: data size exhausted (" ++
        toString remaining ++ " < " ++ toString size ++ ")") :=
  rfl

theorem line_txiRead (count : Nat) :
    (txiRead count).line = "DEBUG: " ++ ("read " ++ toString count ++ " bytes of TXI data") :=
  rfl

theorem line_txiMissing (streamEnd : Nat) (boundary : Int) :
    (txiMissing streamEnd boundary).line =
      "WARNING: " ++ ("TXB stream ends at " ++ toString streamEnd ++
        ", before the declared data end " ++ toString boundary ++ "; no TXI data") := by
  unfold line text
  simp only [Numeral.toString_decimal]
  rfl

end Note

namespace MipChain

/-- The note that a chain leaves: none when it ended in the regular way. -/
def notes (chain : MipChain) : Log :=
  (chain.stop.map (Note.chainEnded chain.levels.length)).toList

theorem length_notes_le (chain : MipChain) : chain.notes.length ≤ 1 := by
  unfold notes
  cases chain.stop <;> simp

end MipChain

/-- An answer together with what was written down until it was there, also when it is an error. -/
structure Logged (α : Type) where
  answer : Except Error α
  log : Log

namespace Logged

def silent {α : Type} (answer : Except Error α) : Logged α := ⟨answer, []⟩

def map {α β : Type} (f : α → β) (x : Logged α) : Logged β := ⟨x.answer.map f, x.log⟩

end Logged

end MipTexture
