import MipTexture.Decode

/-!
# Sessions on a stream

A session is any sequence of requests on one stream. Each request answers on its own, and the stream
that it leaves is the one that the next request meets.
-/

namespace MipTexture

inductive StreamRequest where
  | readExact (size : Int) (what : String)
  | measure
  | jump (position : Int)
  | header
  | levels (plans : List LevelPlan)
  | txi (strict : Bool) (dataSize : Int)
  | decode (name : Option String) (strict : Bool)
  deriving Repr, DecidableEq

inductive StreamAnswer where
  | data (bytes : Bytes)
  | size (size : Nat)
  | moved
  | header (h : Header)
  | levels (found : List Level)
  | txi (bytes : Bytes)
  | decoded (d : Decoded)
  deriving Repr, DecidableEq

namespace StreamRequest

def quiet {α : Type} (view : α → StreamAnswer) (op : Reading α) (s : Stream) :
    Logged StreamAnswer × Stream :=
  (.silent ((op s).1.map view), (op s).2)

/-- The text information with the note on it, which is written down when there is an answer. -/
def noted (answer : Except Error (Bytes × Note)) : Logged StreamAnswer :=
  match answer with
  | .ok (data, note) => ⟨.ok (.txi data), [note]⟩
  | .error e => .silent (.error e)

/-- The header of which only the declared size of the pixel data is known. -/
def sizeOnly (dataSize : Int) : Header := ⟨dataSize, 0, 0, 0, 0⟩

/-- What a request answers, and the stream that it leaves. A jump sends the stream somewhere else without
a call on it: it meets no fault and is not kept among the calls. -/
def run (request : StreamRequest) (s : Stream) : Logged StreamAnswer × Stream :=
  match request with
  | .readExact size what => quiet .data (Stream.readExact size what) s
  | .measure => quiet .size Stream.size s
  | .jump position => quiet (fun _ => .moved) (Stream.jump position) s
  | .header => quiet .header Decode.header s
  | .levels plans => quiet .levels (Decode.levels plans) s
  | .txi strict dataSize =>
    let found := Decode.txi strict (sizeOnly dataSize) s
    (noted found.1, found.2)
  | .decode name strict =>
    let found := Decode.run name strict s
    (found.1.map .decoded, found.2)

def runAll : List StreamRequest → Stream → List (Logged StreamAnswer × Stream)
  | [], _ => []
  | request :: rest, s => request.run s :: runAll rest (request.run s).2

end StreamRequest

end MipTexture
