import Mathlib.Data.Nat.Size
import MipTexture.Proofs.ChainForm

/-!
# The length of a mip chain

That a level is not square and has a side below four pixels is not monotone in the level: sides 5 and 4
come to 2 and 2 and go on, sides 15 and 16 come to 3 and 4 and stop. But halved sides that are equal once
stay equal, so the first level with a side below four pixels decides: there the chain stops, or it goes on
until nothing is left of the sides. Both levels are known from the numbers of bits of the sides, and the
sides then limit the chain together with the number of levels and the data.

Main statements: `isLeast_sideLimit` for the sides alone, and `length_plan` for the whole chain.
-/

namespace MipTexture.MipChain

/-! ### Shifts and numbers of bits -/

theorem shiftRight_lt_two_pow_iff (n i k : Nat) : n >>> i < 2 ^ k ↔ n.size ≤ k + i := by
  rw [Nat.shiftRight_eq_div_pow, Nat.div_lt_iff_lt_mul (Nat.two_pow_pos i), Nat.size_le, ← Nat.pow_add]

theorem shiftRight_lt_four_iff (n i : Nat) : n >>> i < 4 ↔ n.size ≤ 2 + i :=
  shiftRight_lt_two_pow_iff n i 2

theorem shiftRight_eq_zero_iff (n i : Nat) : n >>> i = 0 ↔ n.size ≤ i := by
  have hone := shiftRight_lt_two_pow_iff n i 0
  rw [Nat.pow_zero, Nat.zero_add, Nat.lt_one_iff] at hone
  exact hone

theorem shiftRight_le_one_iff (n i : Nat) : n >>> i ≤ 1 ↔ n.size ≤ 1 + i := by
  have htwo := shiftRight_lt_two_pow_iff n i 1
  omega

theorem shiftRight_eq_of_le {m n i j : Nat} (hij : i ≤ j) (heq : m >>> i = n >>> i) :
    m >>> j = n >>> j := by
  have hsplit : j = i + (j - i) := (Nat.add_sub_cancel' hij).symm
  rw [hsplit, Nat.shiftRight_add, Nat.shiftRight_add, heq]

namespace Cursor

/-! ### The limit that the sides set -/

/-- The first level with a side below four pixels. -/
def firstSmall (c : Cursor) : Nat := (min c.width c.height).size - 2

/-- The number of levels that the sides allow. Sides that are equal at the first small level are equal
at all later ones. -/
def sideLimit (c : Cursor) : Nat :=
  if c.width >>> c.firstSmall = c.height >>> c.firstSmall then max 1 c.width.size else c.firstSmall

variable (c : Cursor)

theorem size_min : (min c.width c.height).size = min c.width.size c.height.size := by
  rcases Nat.le_total c.width c.height with hle | hle
  · rw [Nat.min_eq_left hle, Nat.min_eq_left (Nat.size_le_size hle)]
  · rw [Nat.min_eq_right hle, Nat.min_eq_right (Nat.size_le_size hle)]

theorem small_iff (i : Nat) :
    (c.width >>> i < 4 ∨ c.height >>> i < 4) ↔ c.firstSmall ≤ i := by
  rw [shiftRight_lt_four_iff, shiftRight_lt_four_iff, firstSmall, size_min]
  omega

theorem isLeast_firstSmall :
    IsLeast {i | min (c.width >>> i) (c.height >>> i) < 4} c.firstSmall := by
  have hmin (i : Nat) : min (c.width >>> i) (c.height >>> i) < 4 ↔ c.firstSmall ≤ i := by
    rw [← small_iff]
    omega
  exact ⟨(hmin _).mpr (Nat.le_refl _), fun i hi => (hmin i).mp hi⟩

theorem nonSquareAt_iff (i : Nat) :
    c.NonSquareAt i ↔ c.firstSmall ≤ i ∧ c.width >>> i ≠ c.height >>> i := by
  rw [NonSquareAt, small_iff]

theorem doneAt_iff (i : Nat) : c.DoneAt i ↔ max 1 (max c.width.size c.height.size) ≤ i := by
  rw [DoneAt, shiftRight_eq_zero_iff, shiftRight_eq_zero_iff]
  omega

theorem size_height_le_of_equal {i : Nat} (heq : c.width >>> i = c.height >>> i)
    (hi : i ≤ max 1 c.width.size) : c.height.size ≤ max 1 c.width.size := by
  have hlater := shiftRight_eq_of_le hi heq
  rw [← shiftRight_eq_zero_iff, ← hlater, shiftRight_eq_zero_iff]
  exact Nat.le_max_right _ _

theorem firstSmall_le : c.firstSmall ≤ c.width.size - 2 := by
  rw [firstSmall, size_min]
  omega

/-- The sides alone end the chain at their limit and not before. -/
theorem isLeast_sideLimit : IsLeast {i | c.DoneAt i ∨ c.NonSquareAt i} c.sideLimit := by
  have hsmall := c.firstSmall_le
  -- Sides that are equal at the first small level have ended together; others stop right there.
  by_cases heq : c.width >>> c.firstSmall = c.height >>> c.firstSmall
  · have hlimit : c.sideLimit = max 1 c.width.size := if_pos heq
    have hheight := c.size_height_le_of_equal heq (by omega)
    rw [hlimit]
    constructor
    · exact Or.inl ((c.doneAt_iff _).mpr (by omega))
    · rintro i (hdone | hnonsquare)
      · have hle := (c.doneAt_iff i).mp hdone
        omega
      · obtain ⟨hle, hne⟩ := (c.nonSquareAt_iff i).mp hnonsquare
        exact absurd (shiftRight_eq_of_le hle heq) hne
  · have hlimit : c.sideLimit = c.firstSmall := if_neg heq
    rw [hlimit]
    constructor
    · exact Or.inr ((c.nonSquareAt_iff _).mpr ⟨Nat.le_refl _, heq⟩)
    · rintro i (hdone | hnonsquare)
      · have hle := (c.doneAt_iff i).mp hdone
        omega
      · exact ((c.nonSquareAt_iff i).mp hnonsquare).1

theorem sideLimit_le : c.sideLimit ≤ max 1 c.width.size := by
  have hsmall := c.firstSmall_le
  unfold sideLimit
  split <;> omega

/-! ### The limit that the data sets -/

/-- The bytes of the levels before level `k`. -/
def bytesBefore (floor k : Nat) : Nat := ∑ i ∈ Finset.range k, max (c.estimate >>> (2 * i)) floor

theorem bytesBefore_succ (floor k : Nat) :
    c.bytesBefore floor (k + 1) = c.bytesBefore floor k + c.sizeAt floor k :=
  Finset.sum_range_succ _ k

theorem bytesBefore_mono (floor : Nat) {j k : Nat} (hjk : j ≤ k) :
    c.bytesBefore floor j ≤ c.bytesBefore floor k := by
  induction hjk with
  | refl => exact Nat.le_refl _
  | step _ ih => exact ih.trans (by rw [bytesBefore_succ]; exact Nat.le_add_right _ _)

theorem leftAt_eq (floor k : Nat) :
    c.leftAt floor k = (c.remaining : Int) - (c.bytesBefore floor k : Nat) := rfl

theorem leftAt_lt_sizeAt_iff (floor k : Nat) :
    c.leftAt floor k < c.sizeAt floor k ↔ c.remaining < c.bytesBefore floor (k + 1) := by
  rw [leftAt_eq, bytesBefore_succ]
  omega

end Cursor

/-! ### The whole chain -/

namespace Form

variable {floor count : Nat} {c : Cursor} {chain : MipChain}

/-- The chain is as long as the number of levels, the sides and the data together allow. -/
theorem isGreatest_length (h : Form floor count c chain) :
    IsGreatest {k | k ≤ min count c.sideLimit ∧ c.bytesBefore floor k ≤ c.remaining}
      chain.levels.length := by
  have hlimit := c.isLeast_sideLimit
  constructor
  · have hcount : chain.levels.length ≤ count := h.isLeast.2 (Or.inl rfl)
    have hsides : chain.levels.length ≤ c.sideLimit := by
      apply h.isLeast.2
      rcases hlimit.1 with hdone | hnonsquare
      · exact Or.inr (Or.inl hdone)
      · exact Or.inr (Or.inr (Or.inl hnonsquare))
    have hleft := h.leftAt_nonneg (Nat.le_refl _)
    rw [Cursor.leftAt_eq] at hleft
    exact ⟨Nat.le_min.mpr ⟨hcount, hsides⟩, by omega⟩
  · rintro k ⟨hk, hbytes⟩
    by_contra hlonger
    rcases h.ends with hcount | hdone | hnonsquare | hshort
    · omega
    · have hle := hlimit.2 (Or.inl hdone)
      omega
    · have hle := hlimit.2 (Or.inr hnonsquare)
      omega
    · have hmore := (c.leftAt_lt_sizeAt_iff floor _).mp hshort
      have hmono : c.bytesBefore floor (chain.levels.length + 1) ≤ c.bytesBefore floor k :=
        c.bytesBefore_mono floor (Nat.not_le.mp hlonger)
      omega

/-- A single pixel is the last level that equal sides allow. -/
theorem exists_single_pixel_iff (h : Form floor count c chain) :
    (∃ plan ∈ chain.levels, plan.width = 1 ∧ plan.height = 1) ↔
      c.width >>> c.firstSmall = c.height >>> c.firstSmall ∧ c.sideLimit ≤ count ∧
        c.bytesBefore floor c.sideLimit ≤ c.remaining := by
  have hgreatest := h.isGreatest_length
  have hsmall := c.firstSmall_le
  constructor
  · rintro ⟨plan, hplan, hwidth, hheight⟩
    obtain ⟨i, hi, rfl⟩ := h.exists_levelAt hplan
    simp only [Cursor.levelAt] at hwidth hheight
    obtain ⟨hle, hbytes⟩ := hgreatest.1
    have hsquare : c.width >>> i = c.height >>> i := by
      by_contra hne
      exact h.goesOn i hi (Or.inr (Or.inr (Or.inl ⟨by omega, hne⟩)))
    have hpast : c.firstSmall ≤ i := (c.small_iff i).mp (by omega)
    have hequal : c.width >>> c.firstSmall = c.height >>> c.firstSmall := by
      by_contra hne
      have hlimit : c.sideLimit = c.firstSmall := if_neg hne
      omega
    have hlimit : c.sideLimit = max 1 c.width.size := if_pos hequal
    have hsize : c.width.size ≤ 1 + i := (shiftRight_le_one_iff _ i).mp (by omega)
    have hall : chain.levels.length = c.sideLimit := by omega
    rw [← hall]
    exact ⟨hequal, by omega, hbytes⟩
  · rintro ⟨hequal, hcount, hbytes⟩
    have hlimit : c.sideLimit = max 1 c.width.size := if_pos hequal
    have hlength : c.sideLimit ≤ chain.levels.length :=
      hgreatest.2 ⟨Nat.le_min.mpr ⟨hcount, Nat.le_refl _⟩, hbytes⟩
    have hlast : c.sideLimit - 1 < chain.levels.length := by omega
    have hwidth : c.width >>> (c.sideLimit - 1) ≤ 1 :=
      (shiftRight_le_one_iff _ _).mpr (by omega)
    have hheight : c.height >>> (c.sideLimit - 1) ≤ 1 := by
      rw [← shiftRight_eq_of_le (show c.firstSmall ≤ c.sideLimit - 1 by omega) hequal]
      exact hwidth
    refine ⟨c.levelAt floor (c.sideLimit - 1), ?_, ?_, ?_⟩
    · rw [h.levels]
      exact List.mem_map_of_mem (List.mem_range.mpr hlast)
    · simp only [Cursor.levelAt]
      omega
    · simp only [Cursor.levelAt]
      omega

end Form

/-- The length of the chain of a request, from the numbers of bits of its sides. No count makes it
longer than 16 levels. It comes down to a single pixel exactly when its sides are equal at the first
level where one of them is below four pixels, and count and data are enough for all levels from there
on. -/
theorem length_plan (width height dataSize levelCount levelSize minSize : Int) :
    let c : Cursor :=
      ⟨word 16 width, word 16 height, word 32 levelSize, word 32 dataSize⟩
    let floor := word 32 minSize
    let count := word 8 levelCount
    let levels := (plan width height dataSize levelCount levelSize minSize).levels
    IsGreatest {k | k ≤ min count c.sideLimit ∧ c.bytesBefore floor k ≤ c.remaining}
        levels.length ∧
      levels.length ≤ 16 ∧
      IsLeast {i | min (c.width >>> i) (c.height >>> i) < 4} c.firstSmall ∧
      ((∃ plan ∈ levels, plan.width = 1 ∧ plan.height = 1) ↔
        c.width >>> c.firstSmall = c.height >>> c.firstSmall ∧ c.sideLimit ≤ count ∧
          c.bytesBefore floor c.sideLimit ≤ c.remaining) ∧
      (c.width = 0 → c.height = 0 → levels.length ≤ 1) := by
  intro c floor count levels
  have hform : Form floor count c (plan width height dataSize levelCount levelSize minSize) :=
    planFrom_form floor count c
  have hgreatest := hform.isGreatest_length
  have hlength : levels.length ≤ max 1 c.width.size :=
    (hgreatest.1.1.trans (Nat.min_le_right _ _)).trans c.sideLimit_le
  refine ⟨hgreatest, ?_, c.isLeast_firstSmall, hform.exists_single_pixel_iff, ?_⟩
  · have hbits : c.width.size ≤ 16 := Nat.size_le.mpr (word_lt 16 width)
    omega
  · intro hwidth _
    rw [hwidth, Nat.size_zero] at hlength
    exact hlength

/-- With sides 5 and 4 the second level is a square and the third a single pixel. With sides 15 and 16
the third would have sides 3 and 4, so there are two. A texture without pixels has one level. -/
theorem length_plan_of_uneven_sides :
    (∃ level ∈ (plan 5 4 10000 9 80 4).levels, level.width = 1 ∧ level.height = 1) ∧
      ¬(∃ level ∈ (plan 15 16 10000 9 960 4).levels, level.width = 1 ∧ level.height = 1) ∧
      (plan 0 0 10000 9 0 4).levels.length ≤ 1 := by
  obtain ⟨-, -, -, hpixel, -⟩ := length_plan 5 4 10000 9 80 4
  obtain ⟨-, -, -, hnone, -⟩ := length_plan 15 16 10000 9 960 4
  obtain ⟨-, -, -, -, hempty⟩ := length_plan 0 0 10000 9 0 4
  exact ⟨hpixel.mpr (by decide), fun hlevel => absurd (hnone.mp hlevel).1 (by decide),
    hempty rfl rfl⟩

end MipTexture.MipChain
