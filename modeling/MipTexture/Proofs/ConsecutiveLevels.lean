import Mathlib.Data.Nat.Find
import Mathlib.Order.Bounds.Defs
import MipTexture.Proofs.SoundDecode

/-!
# Levels read one after another

Levels are read from where the stream stands, each where the one before it ended. They are all there
when the content holds their total, or when there is nothing to read at all. Otherwise the first level
with bytes that the content does not hold is named, with what is left of it, and the rest of the
content is gone. Levels without bytes ask for nothing, so they are there also past the end.

Main statement: `levels_consecutive_or_short`.
-/

namespace MipTexture.Decode

open MipChain (total)

/-! ### The first level that is not all there -/

/-- The content holds the planned levels from a position on. -/
def Holds (content : Bytes) (p : Nat) (plans : List LevelPlan) : Prop :=
  total plans = 0 ∨ p + total plans ≤ content.length

instance (content : Bytes) (p : Nat) (plans : List LevelPlan) : Decidable (Holds content p plans) :=
  inferInstanceAs (Decidable (_ ∨ _))

/-- Level `j` has bytes, and the content ends before it does. -/
def ShortAt (content : Bytes) (p : Nat) (plans : List LevelPlan) (j : Nat) : Prop :=
  ∃ plan, plans[j]? = some plan ∧ 0 < plan.size ∧
    content.length < p + total (plans.take j) + plan.size

section

variable {content : Bytes} {p : Nat} {plans : List LevelPlan}

theorem holds_take_of_not_shortAt (hsizes : ∀ plan ∈ plans, 0 ≤ plan.size) {j : Nat}
    (hfull : ∀ i < j, ¬ShortAt content p plans i) : Holds content p (plans.take j) := by
  induction j with
  | zero => exact Or.inl rfl
  | succ j ih =>
    have hbefore := ih fun i hi => hfull i (Nat.lt_succ_of_lt hi)
    cases hplan : plans[j]? with
    | none =>
      rw [List.take_add_one, hplan, Option.toList_none, List.append_nil]
      exact hbefore
    | some plan =>
      have htotal := MipChain.total_take_succ hplan
      have hsize := hsizes plan (List.mem_of_getElem? hplan)
      by_cases hempty : plan.size = 0
      · rw [Holds, htotal, hempty, Int.add_zero]
        exact hbefore
      · have hend : ¬content.length < p + total (plans.take j) + plan.size :=
          fun hshort => hfull j (Nat.lt_succ_self j) ⟨plan, hplan, by omega, hshort⟩
        exact Or.inr (by omega)

theorem exists_isLeast_shortAt (hsizes : ∀ plan ∈ plans, 0 ≤ plan.size)
    (hshort : ¬Holds content p plans) : ∃ j, IsLeast {i | ShortAt content p plans i} j := by
  classical
  have hexists : ∃ j, ShortAt content p plans j := by
    by_contra hnone
    have hall : Holds content p (plans.take plans.length) :=
      holds_take_of_not_shortAt hsizes fun i _ hi => hnone ⟨i, hi⟩
    rw [List.take_length] at hall
    exact hshort hall
  exact ⟨Nat.find hexists, Nat.find_spec hexists, fun i hi => Nat.find_min' hexists hi⟩

/-! ### Levels that are all there -/

/-- The levels are the planned ones, with the bytes of the content one after another. -/
structure Consecutive (content : Bytes) (p : Nat) (plans : List LevelPlan)
    (found : List Level) : Prop where
  planned : found.map Level.plan = plans
  data : ∀ j level, found[j]? = some level →
    level.data = content.slice (p + (total (plans.take j)).toNat) level.size.toNat
  joined : (found.map Level.data).flatten = content.slice p (total plans).toNat

theorem consecutive_cut (hsizes : ∀ plan ∈ plans, 0 ≤ plan.size) :
    Consecutive content p plans (cut content p plans) where
  planned := map_plan_cut content p plans
  data := by
    intro j level hlevel
    rw [getElem?_cut content p hsizes j] at hlevel
    obtain ⟨plan, -, rfl⟩ := Option.map_eq_some_iff.mp hlevel
    rfl
  joined := flatten_cut content p hsizes

/-! ### Reading them -/

variable {s : Stream}

theorem levels_of_holds (hs : s.SoundAt content p) (hsizes : ∀ plan ∈ plans, 0 ≤ plan.size)
    (hholds : Holds content p plans) :
    ∃ later, levels plans s = (.ok (cut content p plans), later) ∧
      later.SoundAt content (p + (total plans).toNat) :=
  levelsFrom_of_fits hs 0 hsizes hholds

theorem levels_of_isLeast (hs : s.SoundAt content p)
    (hsizes : ∀ plan ∈ plans, 0 ≤ plan.size ∧ plan.size < 2 ^ 32) {j : Nat}
    (hleast : IsLeast {i | ShortAt content p plans i} j) :
    ∃ plan later, plans[j]? = some plan ∧
      levels plans s = (.error (.format (.shortRead (levelName j plan) plan.size
        (max ((content.length : Int) - p - total (plans.take j)) 0))), later) ∧
      later.SoundAt content (max p content.length) := by
  obtain ⟨⟨plan, hplan, hpos, hshort⟩, hfirst⟩ := hleast
  have hnonneg : ∀ other ∈ plans, 0 ≤ other.size := fun other hother => (hsizes other hother).1
  have hword := (hsizes plan (List.mem_of_getElem? hplan)).2
  have hbefore : Holds content p (plans.take j) :=
    holds_take_of_not_shortAt hnonneg fun i hi hearly => Nat.not_le.mpr hi (hfirst hearly)
  have htotal := MipChain.total_take_nonneg hnonneg j
  obtain ⟨hlt, hget⟩ := List.getElem?_eq_some_iff.mp hplan
  have hsplit : plans.take j ++ plan :: plans.drop (j + 1) = plans := by
    rw [← hget, List.getElem_cons_drop, List.take_append_drop]
  obtain ⟨later, hrun, hlater⟩ := levelsFrom_of_short hs 0 (plans.drop (j + 1))
    (fun other hother => hnonneg other (List.mem_of_mem_take hother)) hbefore hpos (by omega)
    hshort
  have hnumber : 0 + (plans.take j).length = j := by
    rw [List.length_take]
    omega
  have hleft : ((content.length - (p + (total (plans.take j)).toNat) : Nat) : Int) =
      max ((content.length : Int) - p - total (plans.take j)) 0 := by omega
  -- Bytes were taken before this level only if the content held them.
  have hposition : max (p + (total (plans.take j)).toNat) content.length =
      max p content.length := by
    unfold Holds at hbefore
    omega
  rw [hsplit, hnumber, hleft] at hrun
  rw [hposition] at hlater
  exact ⟨plan, later, hplan, hrun, hlater⟩

/-- From wherever a sound stream stands, the levels are read exactly when the content holds their
total or there is nothing to read, and then they are consecutive slices. Otherwise the first short
level is named and the stream stands at its end, or where it stood when that is further. -/
theorem levels_consecutive_or_short (hs : s.SoundAt content p)
    (hsizes : ∀ plan ∈ plans, 0 ≤ plan.size ∧ plan.size < 2 ^ 32) :
    ((∃ found, (levels plans s).1 = .ok found) ↔
      total plans = 0 ∨ p + total plans ≤ content.length) ∧
    (∀ found, (levels plans s).1 = .ok found → Consecutive content p plans found ∧
      (levels plans s).2.SoundAt content (p + (total plans).toNat)) ∧
    ∀ e, (levels plans s).1 = .error e →
      ∃ j plan, IsLeast {i | ShortAt content p plans i} j ∧ plans[j]? = some plan ∧
        e = .format (.shortRead (levelName j plan) plan.size
          (max ((content.length : Int) - p - total (plans.take j)) 0)) ∧
        (levels plans s).2.SoundAt content (max p content.length) := by
  have hnonneg : ∀ plan ∈ plans, 0 ≤ plan.size := fun plan hplan => (hsizes plan hplan).1
  by_cases hholds : Holds content p plans
  · obtain ⟨later, hrun, hlater⟩ := levels_of_holds hs hnonneg hholds
    rw [hrun]
    refine ⟨⟨fun _ => hholds, fun _ => ⟨_, rfl⟩⟩, ?_, nofun⟩
    intro found hfound
    cases hfound
    exact ⟨consecutive_cut hnonneg, hlater⟩
  · obtain ⟨j, hleast⟩ := exists_isLeast_shortAt hnonneg hholds
    obtain ⟨plan, later, hplan, hrun, hlater⟩ := levels_of_isLeast hs hsizes hleast
    rw [hrun]
    refine ⟨⟨nofun, fun hfits => absurd hfits hholds⟩, nofun, ?_⟩
    intro e he
    cases he
    exact ⟨j, plan, hleast, hplan, rfl, hlater⟩

end

/-- Levels without bytes are there past the end too, and no short level is found before one that has
bytes. Of two short levels the earlier one is named. -/
theorem levels_past_end_and_short :
    let content : Bytes := [10, 20, 30, 40, 50]
    let standing (p : Nat) (h : Addressable content p) : Stream :=
      (Stream.ofBytes content).moveTo p h
    let past := standing 7 (by decide)
    let early := standing 1 (by decide)
    let none : List LevelPlan := [⟨4, 4, 0⟩, ⟨2, 2, 0⟩]
    let short : List LevelPlan := [⟨2, 2, 3⟩, ⟨1, 1, 0⟩, ⟨5, 7, 4⟩, ⟨1, 1, 9⟩]
    Consecutive content 7 none [⟨4, 4, 0, []⟩, ⟨2, 2, 0, []⟩] ∧
      (levels none past).1 = .ok [⟨4, 4, 0, []⟩, ⟨2, 2, 0, []⟩] ∧
      IsLeast {i | ShortAt content 1 short i} 2 ∧
      (levels short early).1 = .error (.format (.shortRead "mip level 2 (5x7)" 4 1)) ∧
      (levels short early).2.position = 5 := by
  intro content standing past early none short
  have hpast : past.SoundAt content 7 := (Stream.soundAt_ofBytes content).moveTo _
  have hearly : early.SoundAt content 1 := (Stream.soundAt_ofBytes content).moveTo _
  have hfound : (levels none past).1 = .ok [⟨4, 4, 0, []⟩, ⟨2, 2, 0, []⟩] := by decide +kernel
  have hfailed : (levels short early).1 =
      .error (.format (.shortRead "mip level 2 (5x7)" 4 1)) := by decide +kernel
  have hnone : ∀ plan ∈ none, 0 ≤ plan.size ∧ plan.size < 2 ^ 32 := by decide
  have hshort : ∀ plan ∈ short, 0 ≤ plan.size ∧ plan.size < 2 ^ 32 := by decide
  obtain ⟨-, hread, -⟩ := levels_consecutive_or_short hpast hnone
  obtain ⟨-, -, hnamed⟩ := levels_consecutive_or_short hearly hshort
  obtain ⟨j, plan, hleast, hplan, he, hend⟩ := hnamed _ hfailed
  simp only [FormatError.shortRead, Error.format.injEq, FormatError.truncated.injEq,
    Option.some.injEq] at he
  obtain ⟨-, hsize, -⟩ := he
  have hj : j = 2 := by
    rcases j with _ | _ | _ | _ | j
    · cases hplan
      cases hsize
    · cases hplan
      cases hsize
    · rfl
    · cases hplan
      cases hsize
    · cases hplan
  subst hj
  exact ⟨(hread _ hfound).1, hfound, hleast, hfailed, hend.position⟩

end MipTexture.Decode
