import MipTexture.Stream.Exact

/-!
# Reading a sound stream

A stream is sound when it is open and no call on it goes wrong. Its answers then follow from its
content and its position alone, and it stays sound.

Main statements: an exact read gives the slice at the position when the content holds it
(`readExact_of_le`) and otherwise takes what is left and says how much that was
(`readExact_of_lt`); the size is the length of the content and the position stays (`size_sound`).
-/

namespace MipTexture.Stream

/-- The stream is open, all its calls go well, and it stands at a position of a content. -/
structure SoundAt (s : Stream) (content : Bytes) (position : Nat) : Prop where
  content : s.content = content
  position : s.position = position
  isOpen : s.isOpen = true
  faults : s.faults = .none

theorem soundAt_ofBytes (content : Bytes) : (ofBytes content).SoundAt content 0 :=
  ⟨rfl, rfl, rfl, rfl⟩

section

variable {s : Stream} {content : Bytes} {p : Nat}

theorem SoundAt.record (hs : s.SoundAt content p) (call : Call) :
    (s.record call).SoundAt content p :=
  ⟨hs.content, hs.position, hs.isOpen, hs.faults⟩

theorem SoundAt.moveTo (hs : s.SoundAt content p) {q : Nat} (h : Addressable s.content q) :
    (s.moveTo q h).SoundAt content q :=
  ⟨hs.content, rfl, hs.isOpen, hs.faults⟩

/-! ### The calls -/

theorem available_natCast (s : Stream) (n : Nat) :
    s.available n = s.content.slice s.position n := by
  have hnonneg : ¬(n : Int) < 0 := by omega
  rw [available, if_neg hnonneg, Int.toNat_natCast]

theorem deliver_sound (hs : s.SoundAt content p) {n : Nat} (hn : Addressable content n) :
    ∃ later, deliver n s = (.ok (some (content.slice p n)), later) ∧
      later.SoundAt content (p + (content.slice p n).length) := by
  have hdata : s.available n = content.slice p n := by
    rw [available_natCast, hs.content, hs.position]
  have hsize : Addressable s.content n := by
    rw [hs.content]
    exact hn
  refine ⟨s.moveTo _ (s.addressable_available n), ?_, ?_⟩
  · rw [deliver, if_pos hsize, if_pos hs.isOpen]
    exact Prod.ext (congrArg (fun data => Except.ok (some data)) hdata) rfl
  · rw [← hdata, ← hs.position]
    exact hs.moveTo _

theorem read_sound (hs : s.SoundAt content p) {n : Nat} (hn : Addressable content n) :
    ∃ later, read n s = (.ok (some (content.slice p n)), later) ∧
      later.SoundAt content (p + (content.slice p n).length) := by
  have hread : read n s = deliver n (s.record (.read n)) := by
    rw [read, hs.faults]
    rfl
  rw [hread]
  exact deliver_sound (hs.record _) hn

theorem seek_sound (hs : s.SoundAt content p) {q : Nat} (hq : Addressable content q) :
    ∃ later, seek q s = (.ok (), later) ∧ later.SoundAt content q := by
  have hrecord := hs.record (.seek q)
  have hword : Addressable (s.record (.seek q)).content q := by
    rw [hrecord.content]
    exact hq
  have hnonneg : ¬(q : Int) < 0 := by omega
  have hwell : ¬s.faults.onSeek (s.count Call.isSeek) = true := by
    rw [hs.faults]
    exact Bool.false_ne_true
  refine ⟨(s.record (.seek q)).moveTo q hword, ?_, hrecord.moveTo hword⟩
  rw [seek, if_neg hwell, jump, dif_pos hword, if_pos hrecord.isOpen, dif_neg hnonneg]
  rfl

theorem seekEnd_sound (hs : s.SoundAt content p) :
    ∃ later, seekEnd s = (.ok content.length, later) ∧ later.SoundAt content content.length := by
  have hend : Addressable (s.record .seekEnd).content s.content.length :=
    addressable_of_le (Nat.le_refl _)
  have hwell : ¬s.faults.onSeek (s.count Call.isSeek) = true := by
    rw [hs.faults]
    exact Bool.false_ne_true
  have hlength : s.content.length = content.length := by rw [hs.content]
  have hmoved := (hs.record .seekEnd).moveTo hend
  refine ⟨(s.record .seekEnd).moveTo s.content.length hend, ?_,
    ⟨hmoved.content, hmoved.position.trans hlength, hmoved.isOpen, hmoved.faults⟩⟩
  rw [seekEnd, if_neg hwell, if_pos hs.isOpen, ← hlength]

theorem tell_sound (hs : s.SoundAt content p) :
    ∃ later, tell s = (.ok p, later) ∧ later.SoundAt content p := by
  have hwell : ¬s.faults.onTell (s.count Call.isTell) = true := by
    rw [hs.faults]
    exact Bool.false_ne_true
  refine ⟨s.record .tell, ?_, hs.record _⟩
  rw [tell, if_neg hwell, if_pos hs.isOpen, hs.position]

/-! ### Exact reads and the size -/

theorem readExact_of_ne_zero {n : Nat} (hn : n ≠ 0) (what : String) (s : Stream) :
    readExact n what s =
      match Reading.blaming what (read n) s with
      | (.error e, later) => (.error e, later)
      | (.ok given, later) => (exactly n what (given.getD []), later) := by
  have hnonneg : ¬(n : Int) < 0 := by omega
  have hnonzero : ¬(n : Int) = 0 := by omega
  exact (if_neg hnonneg).trans (if_neg hnonzero)

/-- Nothing is read for a size of zero, so this answers past the end of the content too. -/
theorem readExact_of_le (hs : s.SoundAt content p) {n : Nat} (what : String)
    (hfits : n = 0 ∨ p + n ≤ content.length) :
    ∃ later, readExact n what s = (.ok (content.slice p n), later) ∧
      later.SoundAt content (p + n) := by
  by_cases hzero : n = 0
  · subst hzero
    refine ⟨s, ?_, hs⟩
    rw [Bytes.slice_zero]
    rfl
  · have hle : p + n ≤ content.length := hfits.resolve_left hzero
    have hlength : (content.slice p n).length = n := by
      rw [Bytes.length_slice]
      omega
    have hword : Addressable content n := addressable_of_le (by omega)
    obtain ⟨later, hread, hlater⟩ := read_sound hs hword
    have hblamed := Reading.blaming_ok what hread
    have hexact : exactly n what (content.slice p n) = .ok (content.slice p n) :=
      (exactly_eq_ok_iff _ _ _ _).mpr ⟨rfl, by rw [hlength]⟩
    refine ⟨later, ?_, ?_⟩
    · rw [readExact_of_ne_zero hzero, hblamed]
      show (exactly n what (content.slice p n), later) = _
      rw [hexact]
    · rw [hlength] at hlater
      exact hlater

/-- A read that the content cannot serve takes all that is left. -/
theorem readExact_of_lt (hs : s.SoundAt content p) {n : Nat} (what : String) (hpos : 0 < n)
    (hword : n < 2 ^ 63) (hshort : content.length < p + n) :
    ∃ later, readExact n what s =
        (.error (.format (.shortRead what n ((content.length - p : Nat) : Int))), later) ∧
      later.SoundAt content (max p content.length) := by
  have hlength : (content.slice p n).length = content.length - p := by
    rw [Bytes.length_slice]
    omega
  have haddressable : Addressable content n := addressable_of_lt hword
  obtain ⟨later, hread, hlater⟩ := read_sound hs haddressable
  have hblamed := Reading.blaming_ok what hread
  have hdiffers : ¬((content.slice p n).length : Int) = n := by omega
  refine ⟨later, ?_, ?_⟩
  · rw [readExact_of_ne_zero (Nat.ne_of_gt hpos), hblamed]
    show (exactly n what (content.slice p n), later) = _
    rw [exactly, if_neg hdiffers, hlength]
  · have hposition : p + (content.slice p n).length = max p content.length := by omega
    rw [hposition] at hlater
    exact hlater

theorem size_sound (hs : s.SoundAt content p) :
    ∃ later, size s = (.ok content.length, later) ∧ later.SoundAt content p := by
  obtain ⟨told, htell, htold⟩ := tell_sound hs
  obtain ⟨atEnd, hseekEnd, hatEnd⟩ := seekEnd_sound htold
  have hword : Addressable content p := by
    rw [← hs.content, ← hs.position]
    exact s.addressable
  obtain ⟨back, hseek, hback⟩ := seek_sound hatEnd hword
  refine ⟨back, ?_, hback⟩
  rw [size, htell]
  dsimp only
  rw [hseekEnd, hseek]

end

end MipTexture.Stream
