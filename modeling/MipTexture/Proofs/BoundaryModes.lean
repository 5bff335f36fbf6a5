import Mathlib.Control.Monad.Basic
import MipTexture.Proofs.AnsweredReads
import MipTexture.Proofs.MadeCalls

/-!
# Strict and lenient boundaries

The boundary decides in one place only: when all planned levels were read, the size of the stream is
known, and the stream ends before its declared region does. Both boundaries come to this place by
the same calls and make none after it but the closing.

Main statement: `strict_lenient_differ_only_on_cut`.
-/

namespace MipTexture

namespace Stream

theorem size_of_calls {s told atEnd later : Stream} {q n : Nat} (htell : tell s = (.ok q, told))
    (hend : seekEnd told = (.ok n, atEnd)) (hback : seek q atEnd = (.ok (), later)) :
    size s = (.ok n, later) := by
  simp only [size, htell, hend, hback]

end Stream

namespace Decode

/-! ### The text information -/

section

variable {s sized : Stream} {h : Header} {n : Nat}

theorem txi_strict_of_size_lt (hsize : Stream.size s = (.ok n, sized)) (hshort : n < h.dataEnd) :
    txi true h s = (.error (.format (.shortRead "TXB pixel data" h.dataSize
      (max ((n : Int) - Header.size) 0))), sized) := by
  rw [txi, Reading.bind_ok (Reading.blaming_ok "TXI data" hsize), if_pos hshort]
  rfl

theorem txi_lenient_of_size_lt (hsize : Stream.size s = (.ok n, sized)) (hshort : n < h.dataEnd) :
    txi false h s = (.ok ([], .txiMissing n h.dataEnd), sized) := by
  rw [txi, Reading.bind_ok (Reading.blaming_ok "TXI data" hsize), if_pos hshort]
  rfl

theorem txi_strict_eq_lenient
    (hlong : ∀ n sized, Stream.size s = (.ok n, sized) → h.dataEnd ≤ n) :
    txi true h s = txi false h s := by
  rcases hrun : Reading.blaming "TXI data" Stream.size s with ⟨answer, sized⟩
  cases answer with
  | error e => rw [txi, txi, Reading.bind_error hrun, Reading.bind_error hrun]
  | ok n =>
    have henough : ¬(n : Int) < h.dataEnd := by
      have hle := hlong n sized (Reading.blaming_eq_ok hrun)
      omega
    rw [txi, txi, Reading.bind_ok hrun, Reading.bind_ok hrun, if_neg henough, if_neg henough]

end

/-! ### A region that is cut after its levels -/

/-- Decoding reads all planned levels and finds the size of the stream, each call going well, and
the stream ends before the declared region does. -/
inductive RegionCut (s : Stream) (h : Header) (e : Encoding) (found : List Level) : Prop
  | intro {opened filled told atEnd sized : Stream} {q n : Nat}
    (hopening : opening s = (.ok (h, e), opened))
    (hlevels : levels (MipChain.ofHeader h e).levels opened = (.ok found, filled))
    (htell : Stream.tell filled = (.ok q, told))
    (hend : Stream.seekEnd told = (.ok n, atEnd))
    (hback : Stream.seek q atEnd = (.ok (), sized))
    (hshort : s.content.length < h.dataEnd) : RegionCut s h e found

theorem map_plan_of_levelsFrom {number : Nat} {plans : List LevelPlan} {s later : Stream}
    {found : List Level} (hrun : levelsFrom number plans s = (.ok found, later)) :
    found.map Level.plan = plans := by
  induction plans generalizing s number found with
  | nil =>
    cases hrun
    rfl
  | cons plan rest ih =>
    obtain ⟨data, mid, -, hothers⟩ := Reading.bind_eq_ok hrun
    obtain ⟨others, last, hlevels, hlast⟩ := Reading.bind_eq_ok hothers
    cases hlast
    rw [List.map_cons, ih hlevels, Level.plan_ofPlan]

section

variable {s : Stream} {h : Header} {e : Encoding} {found : List Level}

theorem RegionCut.planned (hcut : RegionCut s h e found) :
    found.map Level.plan = (MipChain.ofHeader h e).levels := by
  obtain ⟨-, hlevels, -, -, -, -⟩ := hcut
  exact map_plan_of_levelsFrom hlevels

theorem continues_filled {opened filled : Stream} {plans : List LevelPlan}
    (hopening : opening s = (.ok (h, e), opened))
    (hlevels : levels plans opened = (.ok found, filled)) :
    filled.Continues s := by
  have hearly := keeps_opening s
  have hlate := keeps_levelsFrom 0 plans opened
  rw [hopening] at hearly
  rw [levels] at hlevels
  rw [hlevels] at hlate
  exact hlate.trans hearly

theorem contents_of_regionCut (hcut : RegionCut s h e found) :
    ∃ sized, contents true s =
        (⟨.error (.format (.shortRead "TXB pixel data" h.dataSize
          (max ((s.content.length : Int) - Header.size) 0))),
          .header h :: (MipChain.ofHeader h e).notes⟩, sized) ∧
      contents false s =
        (⟨.ok ⟨h, ⟨e.layout, found⟩, []⟩, .header h :: (MipChain.ofHeader h e).notes ++
          [.txiMissing s.content.length h.dataEnd]⟩, sized) := by
  obtain @⟨opened, filled, told, atEnd, sized, q, n,
    hopening, hlevels, htell, hend, hback, hshort⟩ := hcut
  have hsize := Stream.size_of_calls htell hend hback
  have hn : n = s.content.length := by
    rw [← (continues_filled hopening hlevels).content]
    exact (Stream.size_eq_ok hsize).1
  subst hn
  have hstrict : body true h e (MipChain.ofHeader h e) opened =
      (.error (.format (.shortRead "TXB pixel data" h.dataSize
        (max ((s.content.length : Int) - Header.size) 0))), sized) :=
    (Reading.bind_ok hlevels).trans (Reading.bind_error (txi_strict_of_size_lt hsize hshort))
  have hlenient : body false h e (MipChain.ofHeader h e) opened =
      (.ok (⟨h, ⟨e.layout, found⟩, []⟩, .txiMissing s.content.length h.dataEnd), sized) :=
    (Reading.bind_ok hlevels).trans (Reading.bind_ok (txi_lenient_of_size_lt hsize hshort))
  refine ⟨sized, ?_, ?_⟩
  · rw [contents, hopening]
    dsimp only
    rw [hstrict]
  · rw [contents, hopening]
    dsimp only
    rw [hlenient]

theorem contents_strict_eq_lenient (hwhole : ¬∃ h e found, RegionCut s h e found) :
    contents true s = contents false s := by
  rcases hopening : opening s with ⟨answer, opened⟩
  cases answer with
  | error e => rw [contents, contents, hopening]
  | ok pair =>
    obtain ⟨h, e⟩ := pair
    have hbody : body true h e (MipChain.ofHeader h e) opened =
        body false h e (MipChain.ofHeader h e) opened := by
      rcases hlevels : levels (MipChain.ofHeader h e).levels opened with ⟨answer, filled⟩
      cases answer with
      | error cause => rw [body, body, Reading.bind_error hlevels, Reading.bind_error hlevels]
      | ok found =>
        have htxi : txi true h filled = txi false h filled := by
          refine txi_strict_eq_lenient ?_
          intro n sized hsize
          -- With all levels read, a size short of the declared end would make a cut region.
          refine Int.not_lt.mp ?_
          intro hshort
          obtain ⟨q, told, atEnd, htell, hend, hback⟩ := Stream.calls_of_size hsize
          have hn := (Stream.size_eq_ok hsize).1
          rw [(continues_filled hopening hlevels).content] at hn
          subst hn
          exact hwhole ⟨h, e, found, .intro hopening hlevels htell hend hback hshort⟩
        rw [body, body, Reading.bind_ok hlevels, Reading.bind_ok hlevels, Reading.bind_apply,
          Reading.bind_apply, Reading.andThen, Reading.andThen, htxi]
    rw [contents, contents, hopening]
    dsimp only
    rw [hbody]

end

/-! ### Two decodes of one stream -/

/-- What the boundaries make of a region that is cut. An error of the closing hides the difference
between the answers, but not that between the logs. -/
structure Differ (name : Option String) (s : Stream) (h : Header) (e : Encoding)
    (found : List Level) : Prop where
  cut : RegionCut s h e found
  planned : found.map Level.plan = (MipChain.ofHeader h e).levels
  log : (run name false s).1.log =
    (run name true s).1.log ++ [.txiMissing s.content.length h.dataEnd]
  warning : (Note.txiMissing s.content.length h.dataEnd).severity = .warning
  closeFault : s.faults.onClose (s.count Call.isClose) = true →
    (run name true s).1.answer = .error s.deviceError ∧
      (run name false s).1.answer = .error s.deviceError
  answers : s.faults.onClose (s.count Call.isClose) = false →
    (run name true s).1.answer =
      .error (.unreadable (.format (.shortRead "TXB pixel data" h.dataSize
        (max ((s.content.length : Int) - Header.size) 0))) name) ∧
      (run name false s).1.answer = .ok ⟨h, ⟨e.layout, found⟩, []⟩

theorem RegionCut.differ {s : Stream} {h : Header} {e : Encoding} {found : List Level}
    (hcut : RegionCut s h e found) (name : Option String) : Differ name s h e found := by
  obtain ⟨sized, hstrict, hlenient⟩ := contents_of_regionCut hcut
  have hlogs (strict : Bool) : (run name strict s).1.log = (contents strict s).1.log := rfl
  refine ⟨hcut, hcut.planned, ?_, rfl, ?_, ?_⟩
  · rw [hlogs, hlogs, hstrict, hlenient]
  · intro hfault
    exact ⟨answer_run_of_closeFault hfault name true, answer_run_of_closeFault hfault name false⟩
  · intro hwell
    rw [answer_run_of_closed hwell, answer_run_of_closed hwell, hstrict, hlenient]
    exact ⟨rfl, rfl⟩

/-- Decoding with a strict and with a lenient boundary leaves the same stream, with the same calls
on it in the same order. The answer and the log are the same too, but for a region that is cut after
its levels. -/
theorem strict_lenient_differ_only_on_cut (name : Option String) (s : Stream) :
    (run name true s).2 = (run name false s).2 ∧
    (((¬∃ h e found, RegionCut s h e found) ∧ (run name true s).1 = (run name false s).1) ∨
      ∃ h e found, Differ name s h e found) := by
  by_cases hcut : ∃ h e found, RegionCut s h e found
  · obtain ⟨h, e, found, hregion⟩ := hcut
    obtain ⟨sized, hstrict, hlenient⟩ := contents_of_regionCut hregion
    refine ⟨?_, .inr ⟨h, e, found, hregion.differ name⟩⟩
    show (contents true s).2.close.2 = (contents false s).2.close.2
    rw [hstrict, hlenient]
  · have hsame := contents_strict_eq_lenient hcut
    have hrun : run name true s = run name false s := by rw [run, run, hsame]
    exact ⟨congrArg Prod.snd hrun, .inl ⟨hcut, congrArg Prod.fst hrun⟩⟩

/-- One byte of slack is missing after the level of this stream. -/
theorem differ_on_missing_slack :
    let content : Bytes := Header.pack ⟨5, 1, 1, 0x04, 1⟩ (List.replicate 4 0)
      (List.replicate 114 0) ++ [10, 20, 30, 40]
    let s := Stream.ofBytes content
    let level : Level := ⟨1, 1, 4, [10, 20, 30, 40]⟩
    Differ none s ⟨5, 1, 1, 0x04, 1⟩ Encoding.raw [level] ∧
      (run none true s).1.answer = .error (.unreadable
        (.format (.shortRead "TXB pixel data" 5 4)) none) ∧
      (run none true s).2 = (run none false s).2 := by
  intro content s level
  have hlenient : (run none false s).1.answer =
      .ok ⟨⟨5, 1, 1, 0x04, 1⟩, ⟨Encoding.raw.layout, [level]⟩, []⟩ := by decide +kernel
  have hstrict : (run none true s).1.answer = .error (.unreadable
      (.format (.shortRead "TXB pixel data" 5 4)) none) := by decide +kernel
  obtain ⟨hstream, ⟨-, hsame⟩ | ⟨h, e, found, hdiffer⟩⟩ := strict_lenient_differ_only_on_cut none s
  · rw [hsame, hlenient] at hstrict
    cases hstrict
  · have hfirst : (opening s).1 = .ok (⟨5, 1, 1, 0x04, 1⟩, Encoding.raw) := by decide +kernel
    have hvalue := (hdiffer.answers rfl).2.symm.trans hlenient
    obtain ⟨hopening, -, -, -, -, -⟩ := hdiffer.cut
    rw [hopening] at hfirst
    cases hfirst
    cases hvalue
    exact ⟨hdiffer, hstrict, hstream⟩

end Decode

end MipTexture
