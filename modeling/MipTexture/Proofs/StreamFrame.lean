import MipTexture.Decode

/-!
# What reading leaves alone

Every operation but closing leaves the content of a stream, its faults to come and its being open as
they were, also when it fails.

Main statement: `Decode.continues_contents`, for everything that decoding does before it closes.
-/

namespace MipTexture

namespace Stream

/-- The first stream is the second one after some calls, none of which closed it. -/
structure Continues (later earlier : Stream) : Prop where
  content : later.content = earlier.content
  faults : later.faults = earlier.faults
  isOpen : later.isOpen = earlier.isOpen

namespace Continues

theorem refl (s : Stream) : Continues s s := ⟨rfl, rfl, rfl⟩

theorem trans {s t u : Stream} (hlate : Continues u t) (hearly : Continues t s) : Continues u s :=
  ⟨hlate.content.trans hearly.content, hlate.faults.trans hearly.faults,
    hlate.isOpen.trans hearly.isOpen⟩

theorem record (s : Stream) (call : Call) : Continues (s.record call) s := ⟨rfl, rfl, rfl⟩

theorem moveTo (s : Stream) (position : Nat) (h : Addressable s.content position) :
    Continues (s.moveTo position h) s := ⟨rfl, rfl, rfl⟩

end Continues

end Stream

namespace Reading

def Keeps {α : Type} (op : Reading α) : Prop := ∀ s, Stream.Continues (op s).2 s

namespace Keeps

variable {α β : Type}

theorem pure (a : α) : Keeps (Pure.pure a : Reading α) := fun s => Stream.Continues.refl s

theorem ofExcept (answer : Except Error α) : Keeps (Reading.ofExcept answer) :=
  fun s => Stream.Continues.refl s

theorem bind {first : Reading α} {second : α → Reading β} (hfirst : Keeps first)
    (hsecond : ∀ a, Keeps (second a)) : Keeps (first >>= second) := by
  intro s
  have hmid := hfirst s
  rcases hrun : first s with ⟨answer, mid⟩
  rw [hrun] at hmid
  cases answer with
  | error e =>
    rw [bind_error hrun]
    exact hmid
  | ok a =>
    rw [bind_ok hrun]
    exact (hsecond a mid).trans hmid

theorem blaming (what : String) {op : Reading α} (hop : Keeps op) :
    Keeps (Reading.blaming what op) := fun s => hop s

end Keeps

end Reading

namespace Stream

open Reading (Keeps)

theorem keeps_deliver (size : Int) : Keeps (deliver size) := by
  intro s
  unfold deliver
  split
  · split
    · exact Continues.moveTo _ _ _
    · exact Continues.refl s
  · exact Continues.refl s

theorem keeps_read (size : Int) : Keeps (read size) := by
  intro s
  have hrecord := Continues.record s (.read size)
  unfold read
  split
  · exact hrecord
  · exact hrecord
  · exact (keeps_deliver _ _).trans hrecord
  · exact (keeps_deliver _ _).trans hrecord

theorem keeps_jump (position : Int) : Keeps (jump position) := by
  intro s
  unfold jump
  split
  · split
    · split
      · exact Continues.refl s
      · exact Continues.moveTo _ _ _
    · exact Continues.refl s
  · exact Continues.refl s

theorem keeps_seek (position : Int) : Keeps (seek position) := by
  intro s
  have hrecord := Continues.record s (.seek position)
  unfold seek
  split
  · exact hrecord
  · exact (keeps_jump _ _).trans hrecord

theorem keeps_seekEnd : Keeps seekEnd := by
  intro s
  have hrecord := Continues.record s .seekEnd
  unfold seekEnd
  split
  · exact hrecord
  · split
    · exact (Continues.moveTo _ _ _).trans hrecord
    · exact hrecord

theorem keeps_tell : Keeps tell := by
  intro s
  have hrecord := Continues.record s .tell
  unfold tell
  split
  · exact hrecord
  · split <;> exact hrecord

theorem readExact_snd (size : Int) (what : String) (s : Stream) :
    (readExact size what s).2 = if 0 < size then (read size s).2 else s := by
  unfold readExact
  by_cases hnegative : size < 0
  · rw [if_pos hnegative, if_neg (by omega)]
  · by_cases hzero : size = 0
    · rw [if_neg hnegative, if_pos hzero, if_neg (by omega)]
    · rw [if_neg hnegative, if_neg hzero, if_pos (by omega), Reading.blaming]
      cases asReadError what (read size s).1 <;> rfl

theorem keeps_readExact (size : Int) (what : String) : Keeps (readExact size what) := by
  intro s
  rw [readExact_snd]
  split
  · exact keeps_read size s
  · exact Continues.refl s

/-- The way to the end and back to a known position. -/
def endAndBack (position : Nat) : Reading Nat := fun s =>
  match seek position (seekEnd s).2 with
  | (.error e, s') => (.error e, s')
  | (.ok _, s') => ((seekEnd s).1, s')

theorem size_eq_bind : size = (tell >>= fun position => endAndBack position) := by
  funext s
  rcases hrun : tell s with ⟨answer, told⟩
  cases answer with
  | error e => rw [size, hrun, Reading.bind_error hrun]
  | ok position =>
    rw [size, hrun, Reading.bind_ok hrun]
    rfl

theorem endAndBack_fst (position : Nat) (s : Stream) : (endAndBack position s).1 =
    match (seek position (seekEnd s).2).1 with
    | .error e => .error e
    | .ok _ => (seekEnd s).1 := by
  unfold endAndBack
  rcases seek position (seekEnd s).2 with ⟨returned, back⟩
  cases returned <;> rfl

theorem endAndBack_snd (position : Nat) (s : Stream) :
    (endAndBack position s).2 = (seek position (seekEnd s).2).2 := by
  unfold endAndBack
  rcases seek position (seekEnd s).2 with ⟨returned, back⟩
  cases returned <;> rfl

theorem keeps_endAndBack (position : Nat) : Keeps (endAndBack position) := by
  intro s
  rw [endAndBack_snd]
  exact (keeps_seek position (seekEnd s).2).trans (keeps_seekEnd s)

theorem keeps_size : Keeps size := by
  rw [size_eq_bind]
  exact keeps_tell.bind keeps_endAndBack

end Stream

namespace Decode

open Reading (Keeps)

theorem header_eq_bind : header =
    (Stream.readExact Header.size "TXB header" >>= fun data =>
      Reading.ofExcept (match Header.ofBytes data with
        | some h => .ok h
        | none => .error (.refused (.shortHeader data.length)))) := by
  funext s
  rcases hrun : Stream.readExact Header.size "TXB header" s with ⟨answer, later⟩
  cases answer with
  | error e => rw [header, hrun, Reading.bind_error hrun]
  | ok data =>
    rw [header, hrun, Reading.bind_ok hrun, Reading.ofExcept]
    dsimp only
    cases Header.ofBytes data <;> rfl

theorem keeps_header : Keeps header := by
  rw [header_eq_bind]
  exact Keeps.bind (Stream.keeps_readExact _ _) fun data => Keeps.ofExcept _

theorem keeps_levelsFrom (number : Nat) (plans : List LevelPlan) :
    Keeps (levelsFrom number plans) := by
  induction plans generalizing number with
  | nil => exact Keeps.pure []
  | cons plan rest ih =>
    refine Keeps.bind (Stream.keeps_readExact _ _) fun data => ?_
    exact Keeps.bind (ih (number + 1)) fun others => Keeps.pure _

theorem keeps_txi (strict : Bool) (h : Header) : Keeps (txi strict h) := by
  refine Keeps.bind (Stream.keeps_size.blaming _) fun streamEnd => ?_
  split
  · split
    · exact Keeps.ofExcept _
    · exact Keeps.pure _
  · refine Keeps.bind ((Stream.keeps_seek _).blaming _) fun _ => ?_
    exact Keeps.bind (Stream.keeps_readExact _ _) fun data => Keeps.pure _

theorem keeps_opening : Keeps opening := by
  refine Keeps.bind keeps_header fun h => ?_
  exact Keeps.bind (Keeps.ofExcept _) fun e => Keeps.pure _

theorem keeps_body (strict : Bool) (h : Header) (e : Encoding) (chain : MipChain) :
    Keeps (body strict h e chain) := by
  refine Keeps.bind (keeps_levelsFrom 0 chain.levels) fun found => ?_
  refine Keeps.bind (keeps_txi strict h) fun rest => ?_
  exact Keeps.pure _

theorem continues_contents (strict : Bool) (s : Stream) :
    Stream.Continues (contents strict s).2 s := by
  have hopening := keeps_opening s
  unfold contents
  rcases hrun : opening s with ⟨answer, later⟩
  rw [hrun] at hopening
  cases answer with
  | error e => exact hopening
  | ok found =>
    have hbody := keeps_body strict found.1 found.2 (MipChain.ofHeader found.1 found.2) later
    dsimp only
    rcases hrest : body strict found.1 found.2 (MipChain.ofHeader found.1 found.2) later
      with ⟨decoded, last⟩
    rw [hrest] at hbody
    cases decoded <;> exact hbody.trans hopening

end Decode

end MipTexture
