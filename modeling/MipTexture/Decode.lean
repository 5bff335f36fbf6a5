import MipTexture.Stream.Exact
import MipTexture.Texture

/-!
# Decoding

A texture file is its header, the bytes of all levels one after another, any bytes up to the declared
end of the pixel data, and text information up to the end of the file. Decoding reads them from a
stream in this order, and closes the stream at last, whatever happened before.

A file may end before the declared end of its pixel data. A strict boundary makes this an error; a
lenient one takes the levels that are there and no text information.
-/

namespace MipTexture

namespace Decode

/-! ### The parts of a file -/

def header : Reading Header := fun s =>
  match Stream.readExact Header.size "TXB header" s with
  | (.error e, s') => (.error e, s')
  | (.ok data, s') =>
    match Header.ofBytes data with
    | some h => (.ok h, s')
    | none => (.error (.refused (.shortHeader data.length)), s')

def levelName (number : Nat) (plan : LevelPlan) : String :=
  "mip level " ++ (Numeral.decimal number).toString ++ " (" ++
    (Numeral.decimal plan.width).toString ++ "x" ++ (Numeral.decimal plan.height).toString ++ ")"

def levelsFrom (number : Nat) : List LevelPlan → Reading (List Level)
  | [] => pure []
  | plan :: rest => do
    let data ← Stream.readExact plan.size (levelName number plan)
    let others ← levelsFrom (number + 1) rest
    pure (.ofPlan plan data :: others)

def levels (plans : List LevelPlan) : Reading (List Level) := levelsFrom 0 plans

/-- The text information: everything after the declared end of the pixel data, wherever the levels
ended. The note tells how much it was, or that the stream ended before. -/
def txi (strict : Bool) (h : Header) : Reading (Bytes × Note) := do
  let streamEnd ← Reading.blaming "TXI data" Stream.size
  if streamEnd < h.dataEnd then
    if strict then
      Reading.ofExcept (.error (.format
        (.shortRead "TXB pixel data" h.dataSize (max (streamEnd - Header.size) 0))))
    else
      pure ([], .txiMissing streamEnd h.dataEnd)
  else
    Reading.blaming "TXI data" (Stream.seek h.dataEnd)
    let data ← Stream.readExact (streamEnd - h.dataEnd) "TXI data"
    pure (data, .txiRead data.length)

/-! ### The whole file -/

def opening : Reading (Header × Encoding) := do
  let h ← header
  let e ← Reading.ofExcept ((Encoding.lookup h).mapError .format)
  pure (h, e)

def body (strict : Bool) (h : Header) (e : Encoding) (chain : MipChain) :
    Reading (Decoded × Note) := do
  let found ← levels chain.levels
  let (data, note) ← txi strict h
  pure (⟨h, ⟨e.layout, found⟩, data⟩, note)

/-- Everything but the closing. The header is noted once its encoding is known, then the chain when it
ended early, then what came of the text information. -/
def contents (strict : Bool) (s : Stream) : Logged Decoded × Stream :=
  match opening s with
  | (.error e, s') => (⟨.error e, []⟩, s')
  | (.ok (h, e), s') =>
    let chain := MipChain.ofHeader h e
    match body strict h e chain s' with
    | (.error e, s'') => (⟨.error e, .header h :: chain.notes⟩, s'')
    | (.ok (decoded, note), s'') => (⟨.ok decoded, .header h :: chain.notes ++ [note]⟩, s'')

/-- The answer once the stream is closed. An error of the format or of the system is a failed read of
the named file; an error of the closing takes the place of every answer. -/
def answerAfter (name : Option String) (decoded : Except Error Decoded) :
    Except Error Unit → Except Error Decoded
  | .error e => .error e
  | .ok () => decoded.mapError (Error.asUnreadable name)

def run (name : Option String) (strict : Bool) (s : Stream) : Logged Decoded × Stream :=
  let found := contents strict s
  let closed := found.2.close
  (⟨answerAfter name found.1.answer closed.1, found.1.log⟩, closed.2)

def bytes (name : Option String) (strict : Bool) (data : Bytes) : Logged Decoded :=
  (run name strict (.ofBytes data)).1

theorem isOpen_run (name : Option String) (strict : Bool) (s : Stream) :
    (run name strict s).2.isOpen = false :=
  Stream.isOpen_close (contents strict s).2

end Decode

end MipTexture
