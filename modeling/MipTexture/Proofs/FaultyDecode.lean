import MipTexture.Proofs.AnsweredReads
import MipTexture.Proofs.SoundFile

/-!
# Decoding over a faulty stream

A fault can only make reading fail. What an operation answers on a stream with faults, it answers on
the same content without faults too, and it ends at the same place. This passes from the calls on a
stream to whole files.

Main statement: `run_faulty_refines_bytes`, for the answer and for what was written down.
-/

namespace MipTexture

namespace Reading

/-- Faults can only make the operation fail: its answers on any stream are those of a sound stream
that stands at the same place of the same content. -/
def Reliable {α : Type} (op : Reading α) : Prop :=
  ∀ s t later a, t.SoundAt s.content s.position → op s = (.ok a, later) →
    ∃ sound : Stream, op t = (.ok a, sound) ∧ sound.SoundAt later.content later.position

namespace Reliable

variable {α β : Type}

theorem pure (a : α) : Reliable (Pure.pure a : Reading α) := by
  intro s t later b ht hrun
  cases hrun
  exact ⟨t, rfl, ht⟩

theorem ofExcept (answer : Except Error α) : Reliable (Reading.ofExcept answer) := by
  intro s t later a ht hrun
  cases hrun
  exact ⟨t, rfl, ht⟩

theorem bind {first : Reading α} {second : α → Reading β} (hfirst : Reliable first)
    (hsecond : ∀ a, Reliable (second a)) : Reliable (first >>= second) := by
  intro s t later b ht hrun
  rcases hmid : first s with ⟨answer, mid⟩
  cases answer with
  | error e =>
    rw [bind_error hmid] at hrun
    cases hrun
  | ok a =>
    rw [bind_ok hmid] at hrun
    obtain ⟨mid', hfirst', hmid'⟩ := hfirst s t mid a ht hmid
    obtain ⟨sound, hsecond', hsound⟩ := hsecond a mid mid' later b hmid' hrun
    exact ⟨sound, (bind_ok hfirst').trans hsecond', hsound⟩

theorem blaming (what : String) {op : Reading α} (hop : Reliable op) :
    Reliable (Reading.blaming what op) := by
  intro s t later a ht hrun
  rcases hs : op s with ⟨answer, after⟩
  rw [Reading.blaming, hs] at hrun
  cases answer with
  | error e => cases e <;> cases hrun
  | ok found =>
    cases hrun
    obtain ⟨sound, hanswer, hsound⟩ := hop s t after a ht hs
    exact ⟨sound, blaming_ok what hanswer, hsound⟩

end Reliable

end Reading

namespace Stream

open Reading (Reliable)

theorem reliable_readExact (size : Int) (what : String) : Reliable (readExact size what) := by
  intro s t later data ht hrun
  have hcontent := (keeps_readExact size what s).content
  rw [hrun] at hcontent
  obtain ⟨n, rfl, hdata, hposition, hfits⟩ := readExact_eq_ok hrun
  obtain ⟨sound, hanswer, hsound⟩ := readExact_of_le ht what hfits
  rw [hcontent, hposition, hdata]
  exact ⟨sound, hanswer, hsound⟩

theorem reliable_seek (position : Int) : Reliable (seek position) := by
  intro s t later _ ht hrun
  have hcontent := (keeps_seek position s).content
  rw [hrun] at hcontent
  obtain ⟨n, rfl, hword, hposition⟩ := seek_eq_ok hrun
  obtain ⟨sound, hanswer, hsound⟩ := seek_sound ht hword
  rw [hcontent, hposition]
  exact ⟨sound, hanswer, hsound⟩

theorem reliable_size : Reliable size := by
  intro s t later n ht hrun
  have hcontent := (keeps_size s).content
  rw [hrun] at hcontent
  obtain ⟨hn, hposition⟩ := size_eq_ok hrun
  obtain ⟨sound, hanswer, hsound⟩ := size_sound ht
  rw [hcontent, hposition, hn]
  exact ⟨sound, hanswer, hsound⟩

end Stream

namespace Decode

open Reading (Reliable)

theorem reliable_header : Reliable header := by
  rw [header_eq_bind]
  exact Reliable.bind (Stream.reliable_readExact _ _) fun data => Reliable.ofExcept _

theorem reliable_levelsFrom (number : Nat) (plans : List LevelPlan) :
    Reliable (levelsFrom number plans) := by
  induction plans generalizing number with
  | nil => exact Reliable.pure []
  | cons plan rest ih =>
    refine Reliable.bind (Stream.reliable_readExact _ _) fun data => ?_
    exact Reliable.bind (ih (number + 1)) fun others => Reliable.pure _

theorem reliable_txi (strict : Bool) (h : Header) : Reliable (txi strict h) := by
  refine Reliable.bind (Stream.reliable_size.blaming _) fun streamEnd => ?_
  split
  · split
    · exact Reliable.ofExcept _
    · exact Reliable.pure _
  · refine Reliable.bind ((Stream.reliable_seek _).blaming _) fun _ => ?_
    exact Reliable.bind (Stream.reliable_readExact _ _) fun data => Reliable.pure _

theorem reliable_opening : Reliable opening := by
  refine Reliable.bind reliable_header fun h => ?_
  exact Reliable.bind (Reliable.ofExcept _) fun e => Reliable.pure _

theorem reliable_body (strict : Bool) (h : Header) (e : Encoding) (chain : MipChain) :
    Reliable (body strict h e chain) := by
  refine Reliable.bind (reliable_levelsFrom 0 chain.levels) fun found => ?_
  exact Reliable.bind (reliable_txi strict h) fun rest => Reliable.pure _

/-! ### The whole file

The log grows in three steps, and a fault can only leave later ones out. -/

/-- What a faulty run may give beside the sound one: the same, or an error after a part of what the
sound run wrote down. -/
def Within (faulty sound : Logged Decoded) : Prop :=
  match faulty.answer with
  | .ok decoded => sound.answer = .ok decoded ∧ faulty.log = sound.log
  | .error _ => faulty.log <+: sound.log

theorem Within.log_prefix {faulty sound : Logged Decoded} (h : Within faulty sound) :
    faulty.log <+: sound.log := by
  unfold Within at h
  split at h
  · rw [h.2]
  · exact h

theorem contents_within (strict : Bool) {s t : Stream} (ht : t.SoundAt s.content s.position) :
    Within (contents strict s).1 (contents strict t).1 := by
  rcases hopening : opening s with ⟨answer, mid⟩
  cases answer with
  | error e =>
    have hfaulty : (contents strict s).1 = ⟨.error e, []⟩ := by rw [contents, hopening]
    rw [hfaulty]
    exact List.nil_prefix
  | ok found =>
    obtain ⟨h, e⟩ := found
    obtain ⟨mid', hopening', hmid'⟩ := reliable_opening s t mid (h, e) ht hopening
    rcases hbody : body strict h e (MipChain.ofHeader h e) mid with ⟨decoded, last⟩
    cases decoded with
    | error cause =>
      rw [contents_of_body_error hopening hbody]
      rcases hbody' : body strict h e (MipChain.ofHeader h e) mid' with ⟨decoded', last'⟩
      cases decoded' with
      | error cause' =>
        rw [contents_of_body_error hopening' hbody']
        exact List.prefix_refl _
      | ok pair =>
        rw [contents_of_body_ok hopening' hbody']
        exact List.prefix_append _ _
    | ok pair =>
      obtain ⟨last', hbody', -⟩ :=
        reliable_body strict h e (MipChain.ofHeader h e) mid mid' last pair hmid' hbody
      rw [contents_of_body_ok hopening hbody, contents_of_body_ok hopening' hbody']
      exact ⟨rfl, rfl⟩

/-- Closing turns no failure into an answer and changes no answer. -/
theorem contents_of_run_ok {name : Option String} {strict : Bool} {s : Stream} {decoded : Decoded}
    (hrun : (run name strict s).1.answer = .ok decoded) :
    (contents strict s).1.answer = .ok decoded := by
  rw [run] at hrun
  cases hclose : (contents strict s).2.close.1 with
  | error e =>
    rw [hclose] at hrun
    cases hrun
  | ok _ =>
    rw [hclose] at hrun
    cases hanswer : (contents strict s).1.answer with
    | error e =>
      rw [hanswer] at hrun
      cases hrun
    | ok found =>
      rw [hanswer] at hrun
      exact hrun

/-- No fault makes decoding answer wrongly. A stream at its start, with any faults to come, gives
what its content gives under any name, with the same log, or it fails and its log is a part of that
one from the start. -/
theorem run_faulty_refines_bytes (name other : Option String) (strict : Bool) {s : Stream}
    (hstart : s.position = 0) :
    (∀ decoded, (run name strict s).1.answer = .ok decoded →
      (bytes other strict s.content).answer = .ok decoded ∧
        (run name strict s).1.log = (bytes other strict s.content).log) ∧
    (∀ error, (run name strict s).1.answer = .error error →
      (run name strict s).1.log <+: (bytes other strict s.content).log) := by
  have ht : (Stream.ofBytes s.content).SoundAt s.content s.position := by
    rw [hstart]
    exact Stream.soundAt_ofBytes s.content
  have hwithin := contents_within strict ht
  have hlog : (run name strict s).1.log = (contents strict s).1.log := rfl
  rw [bytes_eq, hlog]
  constructor
  · intro decoded hrun
    rw [Within, contents_of_run_ok hrun] at hwithin
    obtain ⟨hsound, hsame⟩ := hwithin
    refine ⟨?_, hsame⟩
    show (contents strict (.ofBytes s.content)).1.answer.mapError _ = _
    rw [hsound]
    rfl
  · intro error _
    exact hwithin.log_prefix

/-- A device that gives the whole rest where three bytes were asked for changes nothing when just
these are left; one that fails on the level leaves the last line of the log out. -/
theorem faulty_reads_refine_bytes :
    let content : Bytes := Header.pack ⟨4, 1, 1, 0x04, 1⟩ (List.replicate 4 0)
      (List.replicate 114 0) ++ [10, 20, 30, 40, 1, 2, 3]
    let faults (call : Nat) (fault : ReadFault) : FaultPlan :=
      { FaultPlan.none with onRead := fun n => if n = call then some fault else .none }
    let decoded : Decoded := ⟨⟨4, 1, 1, 0x04, 1⟩,
      ⟨Encoding.raw.layout, [⟨1, 1, 4, [10, 20, 30, 40]⟩]⟩, [1, 2, 3]⟩
    let generous := (run none true (.withFaults content (faults 2 (.asksFor (-1))))).1
    let failing := (run none true (.withFaults content (faults 1 .fails))).1
    let sound := bytes none true content
    generous.answer = .ok decoded ∧ sound.answer = .ok decoded ∧ generous.log = sound.log ∧
      failing.answer = .error (.unreadable
        (.format (.readError "mip level 0 (1x1)")) none) ∧ failing.log <+: sound.log := by
  intro content faults decoded generous failing sound
  have hgenerous : generous.answer = .ok decoded := by decide +kernel
  have hfailing : failing.answer = .error (.unreadable
      (.format (.readError "mip level 0 (1x1)")) none) := by decide +kernel
  have hgood := (run_faulty_refines_bytes none none true rfl).1 decoded hgenerous
  have hbad := (run_faulty_refines_bytes none none true rfl).2 _ hfailing
  exact ⟨hgenerous, hgood.1, hgood.2, hfailing, hbad⟩

end Decode

end MipTexture
