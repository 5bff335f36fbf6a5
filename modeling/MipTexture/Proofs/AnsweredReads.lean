import MipTexture.Proofs.SoundReads
import MipTexture.Proofs.StreamFrame

/-!
# What an answer tells

An operation on a stream whose calls may go wrong answers or fails. When it answers, the answer and
the new position are those that the content gives, whatever faults were met on the way: a read may
have asked the device for another size, and still gave the right number of bytes.

Main statements: `readExact_eq_ok`, `seek_eq_ok`, `size_eq_ok`.
-/

namespace MipTexture

namespace Reading

theorem bind_eq_ok {α β : Type} {first : Reading α} {second : α → Reading β} {s later : Stream}
    {b : β} (hrun : (first >>= second) s = (.ok b, later)) :
    ∃ a mid, first s = (.ok a, mid) ∧ second a mid = (.ok b, later) := by
  rcases hfirst : first s with ⟨answer, mid⟩
  cases answer with
  | error e =>
    rw [bind_error hfirst] at hrun
    cases hrun
  | ok a =>
    rw [bind_ok hfirst] at hrun
    exact ⟨a, mid, rfl, hrun⟩

theorem blaming_eq_ok {α : Type} {what : String} {op : Reading α} {s later : Stream} {a : α}
    (hrun : blaming what op s = (.ok a, later)) : op s = (.ok a, later) := by
  rcases hop : op s with ⟨answer, after⟩
  rw [blaming, hop] at hrun
  cases answer with
  | error e => cases e <;> cases hrun
  | ok found =>
    cases hrun
    rfl

end Reading

namespace Stream

section

variable {s later : Stream}

theorem deliver_eq_ok {size : Int} {given : Option Bytes}
    (hrun : deliver size s = (.ok given, later)) :
    given = some (s.available size) ∧
      later.position = s.position + (s.available size).length := by
  unfold deliver at hrun
  split at hrun
  · split at hrun
    · cases hrun
      exact ⟨rfl, rfl⟩
    · cases hrun
  · cases hrun

/-- The device may have asked for another size than it was asked for. -/
theorem read_eq_ok {size : Int} {data : Bytes} (hrun : read size s = (.ok (some data), later)) :
    ∃ asked, data = s.available asked ∧ later.position = s.position + data.length := by
  have hdeliver {asked : Int}
      (hgiven : deliver asked (s.record (.read size)) = (.ok (some data), later)) :
      ∃ asked, data = s.available asked ∧ later.position = s.position + data.length := by
    obtain ⟨hdata, hposition⟩ := deliver_eq_ok hgiven
    have hsame : data = s.available asked := Option.some.inj hdata
    refine ⟨asked, hsame, ?_⟩
    rw [hsame]
    exact hposition
  unfold read at hrun
  split at hrun
  · cases hrun
  · cases hrun
  · exact hdeliver hrun
  · exact hdeliver hrun

/-- Bytes of the right number are the right bytes, whatever size they were given for. -/
theorem available_eq_slice {asked : Int} {n : Nat} (hpos : 0 < n)
    (hlength : (s.available asked).length = n) :
    s.available asked = s.content.slice s.position n ∧
      s.position + n ≤ s.content.length := by
  have hdrop := List.length_drop (i := s.position) (l := s.content)
  unfold available at hlength ⊢
  split at hlength
  · rename_i hall
    rw [if_pos hall]
    refine ⟨(List.take_of_length_le (Nat.le_of_eq hlength)).symm, ?_⟩
    omega
  · rename_i hsome
    rw [if_neg hsome]
    rw [Bytes.length_slice] at hlength
    refine ⟨?_, by omega⟩
    rw [Bytes.slice, Bytes.slice, List.take_eq_take_iff, hdrop]
    omega

theorem readExact_eq_ok {size : Int} {what : String} {data : Bytes}
    (hrun : readExact size what s = (.ok data, later)) :
    ∃ n : Nat, size = n ∧ data = s.content.slice s.position n ∧
      later.position = s.position + n ∧ (n = 0 ∨ s.position + n ≤ s.content.length) := by
  have hsize := length_readExact hrun
  obtain ⟨n, hn⟩ : ∃ n : Nat, size = n := ⟨data.length, hsize.symm⟩
  subst hn
  have hlength : data.length = n := Int.ofNat_inj.mp hsize
  refine ⟨n, rfl, ?_⟩
  by_cases hzero : n = 0
  · subst hzero
    cases hrun
    exact ⟨(Bytes.slice_zero _ _).symm, rfl, Or.inl rfl⟩
  · rw [readExact_of_ne_zero hzero] at hrun
    rcases hread : read n s with ⟨answer, after⟩
    rw [Reading.blaming, hread] at hrun
    cases answer with
    | error e => cases e <;> cases hrun
    | ok given =>
      have hexact : exactly n what (given.getD []) = .ok data := (Prod.mk.inj hrun).1
      have hafter : after = later := (Prod.mk.inj hrun).2
      have hgiven := ((exactly_eq_ok_iff _ _ _ _).mp hexact).1
      subst hafter
      cases given with
      | none =>
        rw [← hgiven] at hlength
        exact absurd hlength.symm hzero
      | some found =>
        have hfound : found = data := hgiven
        subst hfound
        obtain ⟨asked, hdata, hposition⟩ := read_eq_ok hread
        rw [hdata] at hlength
        obtain ⟨hslice, hend⟩ := available_eq_slice (Nat.pos_of_ne_zero hzero) hlength
        refine ⟨hdata.trans hslice, ?_, Or.inr hend⟩
        rw [hposition, hdata, hlength]

theorem seek_eq_ok {position : Int} (hrun : seek position s = (.ok (), later)) :
    ∃ n : Nat, position = n ∧ Addressable s.content n ∧ later.position = n := by
  unfold seek at hrun
  split at hrun
  · cases hrun
  · unfold jump at hrun
    split at hrun
    · rename_i hword
      split at hrun
      · split at hrun
        · cases hrun
        · rename_i hnonneg
          obtain ⟨n, hn⟩ := Int.eq_ofNat_of_zero_le (Int.not_lt.mp hnonneg)
          subst hn
          cases hrun
          exact ⟨n, rfl, hword, rfl⟩
      · cases hrun
    · cases hrun

theorem seekEnd_eq_ok {n : Nat} (hrun : (seekEnd s).1 = .ok n) : n = s.content.length := by
  unfold seekEnd at hrun
  split at hrun
  · cases hrun
  · split at hrun
    · exact (Except.ok.inj hrun).symm
    · cases hrun

theorem tell_eq_ok {n : Nat} (hrun : tell s = (.ok n, later)) :
    n = s.position ∧ later.position = s.position := by
  unfold tell at hrun
  split at hrun
  · cases hrun
  · split at hrun
    · cases hrun
      exact ⟨rfl, rfl⟩
    · cases hrun

theorem calls_of_size {n : Nat} (hsize : size s = (.ok n, later)) :
    ∃ q told atEnd, tell s = (.ok q, told) ∧ seekEnd told = (.ok n, atEnd) ∧
      seek q atEnd = (.ok (), later) := by
  rw [size_eq_bind] at hsize
  obtain ⟨q, told, htell, hrest⟩ := Reading.bind_eq_ok hsize
  unfold endAndBack at hrest
  rcases hend : seekEnd told with ⟨answer, atEnd⟩
  rw [hend] at hrest
  rcases hback : seek q atEnd with ⟨returned, back⟩
  rw [hback] at hrest
  cases returned with
  | error e => cases hrest
  | ok _ =>
    cases hrest
    exact ⟨q, told, atEnd, htell, hend, hback⟩

theorem size_eq_ok {n : Nat} (hrun : size s = (.ok n, later)) :
    n = s.content.length ∧ later.position = s.position := by
  obtain ⟨q, told, atEnd, htell, hend, hback⟩ := calls_of_size hrun
  have htold := keeps_tell s
  rw [htell] at htold
  obtain ⟨hq, -⟩ := tell_eq_ok htell
  obtain ⟨p, hp, -, hlater⟩ := seek_eq_ok hback
  have hlength := seekEnd_eq_ok (congrArg Prod.fst hend)
  rw [htold.content] at hlength
  exact ⟨hlength, by omega⟩

end

end Stream

end MipTexture
