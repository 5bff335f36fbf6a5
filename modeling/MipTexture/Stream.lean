import MipTexture.Error

/-!
# Streams

A stream holds a content, a position that may lie past the end, and whether it is open. It keeps every
call that was made on it, and a fault plan says which calls go wrong: calls of one kind are numbered
from zero over the whole life of the stream. Sizes and positions are signed words of 64 bits; a call
with another number is refused, also on a closed stream.

An operation takes the stream before it and gives the answer with the stream after it, so that the
stream is known also after an error.

Main statements: each operation adds exactly one call (`calls_read` and its siblings).
-/

namespace MipTexture

inductive Call where
  | read (size : Int)
  | seekEnd
  | seek (position : Int)
  | tell
  | close
  deriving Repr, DecidableEq

namespace Call

def isRead : Call → Bool
  | .read _ => true
  | _ => false

def isSeek : Call → Bool
  | .seekEnd => true
  | .seek _ => true
  | _ => false

def isTell : Call → Bool
  | .tell => true
  | _ => false

def isClose : Call → Bool
  | .close => true
  | _ => false

end Call

/-- What happens to a read that goes wrong: the device fails, nothing is given, or another size is
asked for. -/
inductive ReadFault where
  | fails
  | givesNothing
  | asksFor (size : Int)
  deriving Repr, DecidableEq

/-- Which calls go wrong, each kind numbered from zero, and what the device says when it fails. -/
structure FaultPlan where
  message : String
  onRead : Nat → Option ReadFault
  onSeek : Nat → Bool
  onTell : Nat → Bool
  onClose : Nat → Bool

namespace FaultPlan

def none : FaultPlan := ⟨"", fun _ => .none, fun _ => false, fun _ => false, fun _ => false⟩

/-- A plan from lists of call numbers. A failing read hides the other faults of the same call, and a
read that gives nothing hides another size. The first of several sizes for a call counts. -/
def ofCalls (message : String) (failingReads emptyReads : List Int) (sizes : List (Int × Int))
    (failingSeeks failingTells failingCloses : List Int) : FaultPlan where
  message := message
  onRead n :=
    if (n : Int) ∈ failingReads then some .fails
    else if (n : Int) ∈ emptyReads then some .givesNothing
    else (sizes.lookup (n : Int)).map .asksFor
  onSeek n := decide ((n : Int) ∈ failingSeeks)
  onTell n := decide ((n : Int) ∈ failingTells)
  onClose n := decide ((n : Int) ∈ failingCloses)

end FaultPlan

/-- A number that a call on a stream can be given: one that a signed word of 64 bits holds. Should the
content be longer than that, it may be any number up to its length. -/
def Addressable (content : Bytes) (n : Int) : Prop :=
  -2 ^ 63 ≤ n ∧ (n < 2 ^ 63 ∨ n ≤ content.length)

instance (content : Bytes) (n : Int) : Decidable (Addressable content n) :=
  inferInstanceAs (Decidable (_ ∧ _))

theorem addressable_of_le {content : Bytes} {n : Nat} (h : n ≤ content.length) :
    Addressable content n := by
  constructor <;> omega

theorem addressable_of_lt {content : Bytes} {n : Nat} (h : n < 2 ^ 63) : Addressable content n := by
  constructor <;> omega

/-- A stream of bytes. It stands at a position that it can be sent back to. -/
structure Stream where
  content : Bytes
  faults : FaultPlan
  position : Nat
  isOpen : Bool
  calls : List Call
  addressable : Addressable content position

def Reading (α : Type) : Type := Stream → Except Error α × Stream

namespace Reading

def ofExcept {α : Type} (answer : Except Error α) : Reading α := fun s => (answer, s)

def andThen {α β : Type} (first : Reading α) (second : α → Reading β) : Reading β := fun s =>
  match first s with
  | (.ok a, s') => second a s'
  | (.error e, s') => (.error e, s')

instance : Monad Reading where
  pure a := fun s => (.ok a, s)
  bind := andThen

theorem bind_apply {α β : Type} (first : Reading α) (second : α → Reading β) (s : Stream) :
    (first >>= second) s = andThen first second s := rfl

theorem bind_ok {α β : Type} {first : Reading α} {second : α → Reading β} {s s' : Stream} {a : α}
    (h : first s = (.ok a, s')) : (first >>= second) s = second a s' := by
  simp only [bind_apply, andThen, h]

theorem bind_error {α β : Type} {first : Reading α} {second : α → Reading β} {s s' : Stream}
    {e : Error} (h : first s = (.error e, s')) : (first >>= second) s = (.error e, s') := by
  simp only [bind_apply, andThen, h]

/-- The same operation, whose system errors stand for a failed read of `what`. -/
def blaming {α : Type} (what : String) (op : Reading α) : Reading α := fun s =>
  (asReadError what (op s).1, (op s).2)

theorem blaming_ok {α : Type} (what : String) {op : Reading α} {s s' : Stream} {a : α}
    (h : op s = (.ok a, s')) : blaming what op s = (.ok a, s') := by
  rw [blaming, h]
  rfl

end Reading

namespace Stream

/-- An open stream at its start, on which every call goes well. -/
def ofBytes (content : Bytes) : Stream :=
  ⟨content, .none, 0, true, [], addressable_of_le (Nat.zero_le _)⟩

def withFaults (content : Bytes) (faults : FaultPlan) : Stream :=
  ⟨content, faults, 0, true, [], addressable_of_le (Nat.zero_le _)⟩

def count (s : Stream) (kind : Call → Bool) : Nat := s.calls.countP kind

def record (s : Stream) (call : Call) : Stream := { s with calls := s.calls ++ [call] }

def moveTo (s : Stream) (position : Nat) (h : Addressable s.content position) : Stream :=
  { s with position, addressable := h }

/-- What a read of `size` bytes would give: all that is left for a negative size, and nothing at or
past the end. -/
def available (s : Stream) (size : Int) : Bytes :=
  if size < 0 then s.content.drop s.position else s.content.slice s.position size.toNat

theorem addressable_available (s : Stream) (size : Int) :
    Addressable s.content (s.position + (s.available size).length : Nat) := by
  by_cases hle : s.position ≤ s.content.length
  · apply addressable_of_le
    unfold available
    split
    · rw [List.length_drop]
      omega
    · rw [Bytes.length_slice]
      omega
  · have hnone : (s.available size).length = 0 := by
      unfold available
      split
      · rw [List.length_drop]
        omega
      · rw [Bytes.length_slice]
        omega
    rw [hnone]
    exact s.addressable

def deviceError (s : Stream) : Error := .system (.device s.faults.message)

/-! ### The four calls -/

/-- Gives bytes and moves past them. The size is looked at before the stream is. -/
def deliver (size : Int) : Reading (Option Bytes) := fun s =>
  if Addressable s.content size then
    if s.isOpen then
      (.ok (some (s.available size)),
        s.moveTo (s.position + (s.available size).length) (s.addressable_available size))
    else (.error (.refused .closedStream), s)
  else (.error (.overflow .size), s)

/-- Reads up to `size` bytes. A device may give nothing at all, which is less than no bytes. -/
def read (size : Int) : Reading (Option Bytes) := fun s =>
  match s.faults.onRead (s.count Call.isRead) with
  | some .fails => (.error s.deviceError, s.record (.read size))
  | some .givesNothing => (.ok none, s.record (.read size))
  | some (.asksFor other) => deliver other (s.record (.read size))
  | none => deliver size (s.record (.read size))

/-- Moves to a position, which may lie past the end. The position is looked at before the stream is. -/
def jump (position : Int) : Reading Unit := fun s =>
  if h : Addressable s.content position then
    if s.isOpen then
      if hneg : position < 0 then (.error (.refused (.negativePosition position)), s)
      else
        (.ok (), s.moveTo position.toNat (by rwa [Int.toNat_of_nonneg (Int.not_lt.mp hneg)]))
    else (.error (.refused .closedStream), s)
  else (.error (.overflow .position), s)

def seek (position : Int) : Reading Unit := fun s =>
  if s.faults.onSeek (s.count Call.isSeek) then (.error s.deviceError, s.record (.seek position))
  else jump position (s.record (.seek position))

def seekEnd : Reading Nat := fun s =>
  if s.faults.onSeek (s.count Call.isSeek) then (.error s.deviceError, s.record .seekEnd)
  else if s.isOpen then
    (.ok s.content.length, (s.record .seekEnd).moveTo s.content.length (addressable_of_le (Nat.le_refl _)))
  else (.error (.refused .closedStream), s.record .seekEnd)

def tell : Reading Nat := fun s =>
  if s.faults.onTell (s.count Call.isTell) then (.error s.deviceError, s.record .tell)
  else if s.isOpen then (.ok s.position, s.record .tell)
  else (.error (.refused .closedStream), s.record .tell)

/-- Closes the stream, also when the device fails on it. -/
def close : Reading Unit := fun s =>
  if s.faults.onClose (s.count Call.isClose) then
    (.error s.deviceError, { s.record .close with isOpen := false })
  else (.ok (), { s.record .close with isOpen := false })

theorem content_close (s : Stream) : (close s).2.content = s.content := by
  unfold close
  split <;> rfl

theorem calls_deliver (size : Int) (s : Stream) : (deliver size s).2.calls = s.calls := by
  unfold deliver
  split
  · split <;> rfl
  · rfl

theorem calls_jump (position : Int) (s : Stream) : (jump position s).2.calls = s.calls := by
  unfold jump
  split
  · split
    · split <;> rfl
    · rfl
  · rfl

theorem calls_read (size : Int) (s : Stream) :
    (read size s).2.calls = s.calls ++ [.read size] := by
  unfold read
  split
  · rfl
  · rfl
  · exact calls_deliver _ _
  · exact calls_deliver _ _

theorem calls_seek (position : Int) (s : Stream) :
    (seek position s).2.calls = s.calls ++ [.seek position] := by
  unfold seek
  split
  · rfl
  · exact calls_jump _ _

theorem calls_seekEnd (s : Stream) : (seekEnd s).2.calls = s.calls ++ [.seekEnd] := by
  unfold seekEnd
  split
  · rfl
  · split <;> rfl

theorem calls_tell (s : Stream) : (tell s).2.calls = s.calls ++ [.tell] := by
  unfold tell
  split
  · rfl
  · split <;> rfl

theorem calls_close (s : Stream) : (close s).2.calls = s.calls ++ [.close] := by
  unfold close
  split <;> rfl

theorem isOpen_close (s : Stream) : (close s).2.isOpen = false := by
  unfold close
  split <;> rfl

end Stream

end MipTexture
