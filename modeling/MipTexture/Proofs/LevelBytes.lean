import MipTexture.Proofs.ExactChain

/-!
# The bytes of a level against its sides

The sides of a level are shifts of the sides of the first one, and its bytes are a quotient of the
first area. The area of a level, multiplied out again, is at most the first area, and it is above it
when both sides are made longer by one. This bounds the bytes of a level from both sides.

Main statements: `le_quotient`, `quotient_lt`, and `plannedAt_of_getElem?` for the levels of a header
that was read.
-/

namespace MipTexture.MipChain

/-! ### Shifted sides -/

section

variable (w h i : Nat)

theorem four_pow_eq : 4 ^ i = 2 ^ i * 2 ^ i := by
  rw [← Nat.mul_pow]

theorem shifted_area_le : w >>> i * h >>> i * 4 ^ i ≤ w * h := by
  have hw : w >>> i * 2 ^ i ≤ w := by
    rw [Nat.shiftRight_eq_div_pow]
    exact Nat.div_mul_le_self w (2 ^ i)
  have hh : h >>> i * 2 ^ i ≤ h := by
    rw [Nat.shiftRight_eq_div_pow]
    exact Nat.div_mul_le_self h (2 ^ i)
  calc w >>> i * h >>> i * 4 ^ i
      = w >>> i * 2 ^ i * (h >>> i * 2 ^ i) := by rw [four_pow_eq, Nat.mul_mul_mul_comm]
    _ ≤ w * h := Nat.mul_le_mul hw hh

theorem area_lt_shifted : w * h < (w >>> i + 1) * (h >>> i + 1) * 4 ^ i := by
  have hlonger (n : Nat) : n < (n >>> i + 1) * 2 ^ i := by
    rw [Nat.shiftRight_eq_div_pow]
    exact (Nat.div_lt_iff_lt_mul (Nat.two_pow_pos i)).mp (Nat.lt_succ_self _)
  calc w * h
      < (w >>> i + 1) * 2 ^ i * ((h >>> i + 1) * 2 ^ i) := Nat.mul_lt_mul'' (hlonger w) (hlonger h)
    _ = (w >>> i + 1) * (h >>> i + 1) * 4 ^ i := by rw [four_pow_eq, Nat.mul_mul_mul_comm]

end

/-! ### Quotients of the area -/

section

variable {w h i num den k : Nat}

theorem le_quotient (hden : 0 < den) (hk : k * den ≤ w >>> i * h >>> i * num) :
    k ≤ w * h * num / (den * 4 ^ i) := by
  rw [Nat.le_div_iff_mul_le (Nat.mul_pos hden (Nat.pow_pos (by decide)))]
  calc k * (den * 4 ^ i)
      = k * den * 4 ^ i := (Nat.mul_assoc _ _ _).symm
    _ ≤ w >>> i * h >>> i * num * 4 ^ i := Nat.mul_le_mul_right _ hk
    _ = w >>> i * h >>> i * 4 ^ i * num := Nat.mul_right_comm _ _ _
    _ ≤ w * h * num := Nat.mul_le_mul_right _ (shifted_area_le w h i)

theorem quotient_lt (hden : 0 < den) (hnum : 0 < num)
    (hk : (w >>> i + 1) * (h >>> i + 1) * num ≤ k * den) :
    w * h * num / (den * 4 ^ i) < k := by
  rw [Nat.div_lt_iff_lt_mul (Nat.mul_pos hden (Nat.pow_pos (by decide)))]
  calc w * h * num
      < (w >>> i + 1) * (h >>> i + 1) * 4 ^ i * num :=
        Nat.mul_lt_mul_of_pos_right (area_lt_shifted w h i) hnum
    _ = (w >>> i + 1) * (h >>> i + 1) * num * 4 ^ i := Nat.mul_right_comm _ _ _
    _ ≤ k * den * 4 ^ i := Nat.mul_le_mul_right _ hk
    _ = k * (den * 4 ^ i) := Nat.mul_assoc _ _ _

end

/-! ### The levels of a header -/

/-- What level `i` of the chain of a header has to be. A level with a side below four pixels is a
square. -/
structure PlannedAt (h : Header) (e : Encoding) (i : Nat) (plan : LevelPlan) : Prop where
  width : plan.width = (max (h.width.toNat >>> i) 1 : Nat)
  height : plan.height = (max (h.height.toNat >>> i) 1 : Nat)
  square : h.width.toNat >>> i < 4 ∨ h.height.toNat >>> i < 4 →
    h.width.toNat >>> i = h.height.toNat >>> i
  size : h.width.toNat * h.height.toNat * e.density.num < 2 ^ 32 →
    plan.size = (max (h.width.toNat * h.height.toNat * e.density.num / (e.density.den * 4 ^ i))
      e.minSize : Nat)

theorem plannedAt_of_getElem? {h : Header} (hfits : h.Fits) {e : Encoding}
    (he : e ∈ Encoding.supported) {i : Nat} {plan : LevelPlan}
    (hplan : (ofHeader h e).levels[i]? = some plan) : PlannedAt h e i plan := by
  rw [ofHeader_eq_planFrom hfits he] at hplan
  have hform := planFrom_form e.minSize h.levelCount.toNat
    ⟨h.width.toNat, h.height.toNat, e.levelSize h.width h.height, h.dataSize.toNat⟩
  obtain ⟨hlt, -⟩ := List.getElem?_eq_some_iff.mp hplan
  have hgoesOn := hform.goesOn i hlt
  rw [hform.levels, List.getElem?_map, List.getElem?_range hlt] at hplan
  have hlevel := (Option.some.inj hplan).symm
  refine ⟨?_, ?_, ?_, ?_⟩
  · rw [hlevel]
    simp only [Cursor.levelAt]
    omega
  · rw [hlevel]
    simp only [Cursor.levelAt]
    omega
  · intro hside
    by_contra hdiffers
    exact hgoesOn (.inr (.inr (.inl ⟨hside, hdiffers⟩)))
  · intro hword
    have hestimate := e.levelSize_eq _ _ hword
    rw [Int.toNat_of_nonneg hfits.width.1, Int.toNat_of_nonneg hfits.height.1] at hestimate
    have hshift : e.levelSize h.width h.height >>> (2 * i) =
        h.width.toNat * h.height.toNat * e.density.num / (e.density.den * 4 ^ i) := by
      rw [hestimate, Nat.shiftRight_eq_div_pow, Nat.pow_mul, Nat.div_div_eq_div_mul]
    rw [hlevel]
    simp only [Cursor.levelAt, Cursor.sizeAt, hshift]

end MipTexture.MipChain
