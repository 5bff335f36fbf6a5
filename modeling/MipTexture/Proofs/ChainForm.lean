import Mathlib.Algebra.BigOperators.Group.Finset.Basic
import Mathlib.Order.Bounds.Defs
import MipTexture.Log

/-!
# The closed form of a mip chain

The planner carries running sides, a running estimate and the bytes that are left. This module says
what these are at every level in terms of the start alone: sides by shifts, the estimate by double
shifts with a floor, the bytes left by a sum. The chain is then the list of these levels up to the
first level at which one of four conditions holds, and its note follows from which one it is.

Main statements: `planFrom_form` for a run of the planner from any cursor, and for the six integers
of a request `plan_closed_form`.
-/

namespace MipTexture.MipChain

namespace Cursor

/-! ### Levels by their number -/

/-- The size of level `i`: the estimate of the first level, quartered `i` times, with the floor. -/
def sizeAt (floor : Nat) (c : Cursor) (i : Nat) : Nat := max (c.estimate >>> (2 * i)) floor

/-- The bytes that the levels before level `i` leave, below zero when they take too many. -/
def leftAt (floor : Nat) (c : Cursor) (i : Nat) : Int :=
  (c.remaining : Int) - ((∑ j ∈ Finset.range i, c.sizeAt floor j : Nat) : Int)

def levelAt (floor : Nat) (c : Cursor) (i : Nat) : LevelPlan where
  width := max (c.width >>> i) 1
  height := max (c.height >>> i) 1
  size := c.sizeAt floor i

/-! ### The four ends of a chain -/

def DoneAt (c : Cursor) (i : Nat) : Prop := 0 < i ∧ c.width >>> i = 0 ∧ c.height >>> i = 0

def NonSquareAt (c : Cursor) (i : Nat) : Prop :=
  (c.width >>> i < 4 ∨ c.height >>> i < 4) ∧ c.width >>> i ≠ c.height >>> i

/-- There is no level `i`, for one of the four reasons. -/
def StopsAt (floor count : Nat) (c : Cursor) (i : Nat) : Prop :=
  i = count ∨ c.DoneAt i ∨ c.NonSquareAt i ∨ c.leftAt floor i < c.sizeAt floor i

instance (c : Cursor) (i : Nat) : Decidable (c.DoneAt i) := inferInstanceAs (Decidable (_ ∧ _))

instance (c : Cursor) (i : Nat) : Decidable (c.NonSquareAt i) := inferInstanceAs (Decidable (_ ∧ _))

instance (floor count : Nat) (c : Cursor) (i : Nat) : Decidable (c.StopsAt floor count i) :=
  inferInstanceAs (Decidable (_ ∨ _))

/-- The reason that is kept for the end at level `i`. The first two ends are regular. -/
def stopAt (floor count : Nat) (c : Cursor) (i : Nat) : Option ChainStop :=
  if i = count ∨ c.DoneAt i then none
  else if c.NonSquareAt i then some (.nonSquare (c.width >>> i) (c.height >>> i))
  else some (.exhausted (c.leftAt floor i).toNat (c.sizeAt floor i))

theorem sizeAt_le_sizeAt (floor : Nat) (c : Cursor) {i j : Nat} (hij : i ≤ j) :
    c.sizeAt floor j ≤ c.sizeAt floor i := by
  have hpow : 2 ^ (2 * i) ≤ 2 ^ (2 * j) := Nat.pow_le_pow_right (by decide) (by omega)
  have hshift : c.estimate >>> (2 * j) ≤ c.estimate >>> (2 * i) := by
    rw [Nat.shiftRight_eq_div_pow, Nat.shiftRight_eq_div_pow]
    exact Nat.div_le_div_left hpow (Nat.two_pow_pos _)
  unfold sizeAt
  omega

theorem sizeAt_zero (floor : Nat) (c : Cursor) : c.sizeAt floor 0 = c.size floor := by
  simp only [sizeAt, Nat.mul_zero, Nat.shiftRight_zero, size]

theorem leftAt_zero (floor : Nat) (c : Cursor) : c.leftAt floor 0 = c.remaining := by
  simp only [leftAt, Finset.range_zero, Finset.sum_empty]
  omega

theorem leftAt_succ (floor : Nat) (c : Cursor) (i : Nat) :
    c.leftAt floor (i + 1) = c.leftAt floor i - c.sizeAt floor i := by
  simp only [leftAt, Finset.sum_range_succ]
  omega

theorem levelAt_zero (floor : Nat) (c : Cursor) : c.levelAt floor 0 = c.level floor := by
  simp only [levelAt, level, sizeAt_zero, Nat.shiftRight_zero]

theorem nonSquareAt_zero (c : Cursor) : c.NonSquareAt 0 ↔ c.NonSquareBelowBlock := Iff.rfl

/-! ### One step of the planner

Level `i` from the cursor after a level is level `i + 1` from the cursor before it. -/

theorem sizeAt_next (floor : Nat) (c : Cursor) (i : Nat) :
    (c.next floor).sizeAt floor i = c.sizeAt floor (i + 1) := by
  have hquarter : c.estimate / 4 = c.estimate >>> 2 := by
    rw [Nat.shiftRight_eq_div_pow]
  have htwice : 2 * (i + 1) = 2 + 2 * i := by omega
  simp only [sizeAt, next, hquarter, htwice, Nat.shiftRight_add]

theorem leftAt_next (floor : Nat) (c : Cursor) (i : Nat) (hfits : c.size floor ≤ c.remaining) :
    (c.next floor).leftAt floor i = c.leftAt floor (i + 1) := by
  have hrest : ((c.next floor).remaining : Int) = c.remaining - c.size floor := by
    simp only [next]
    omega
  simp only [leftAt, hrest, sizeAt_next, Finset.sum_range_succ', sizeAt_zero]
  omega

theorem levelAt_next (floor : Nat) (c : Cursor) (i : Nat) :
    (c.next floor).levelAt floor i = c.levelAt floor (i + 1) := by
  simp only [levelAt, sizeAt_next, Nat.shiftRight_succ_inside]
  rfl

theorem nonSquareAt_next (floor : Nat) (c : Cursor) (i : Nat) :
    (c.next floor).NonSquareAt i ↔ c.NonSquareAt (i + 1) := by
  simp only [NonSquareAt, next, Nat.shiftRight_succ_inside]

theorem doneAt_one (floor : Nat) (c : Cursor) : c.DoneAt 1 ↔ (c.next floor).Done := by
  simp only [DoneAt, Done, next, Nat.shiftRight_one]
  omega

/-- The first level is never refused for having no pixels, so the shift by one level needs that the
next cursor is not done. -/
theorem doneAt_next (floor : Nat) (c : Cursor) (i : Nat) (hmore : ¬(c.next floor).Done) :
    (c.next floor).DoneAt i ↔ c.DoneAt (i + 1) := by
  cases i with
  | zero =>
    rw [Nat.zero_add, doneAt_one floor c]
    simp only [DoneAt, Nat.lt_irrefl, false_and, false_iff]
    exact hmore
  | succ i =>
    simp only [DoneAt, next, Nat.shiftRight_succ_inside, Nat.zero_lt_succ, true_and]

theorem stopsAt_next (floor count : Nat) (c : Cursor) (i : Nat)
    (hfits : c.size floor ≤ c.remaining) (hmore : ¬(c.next floor).Done) :
    (c.next floor).StopsAt floor count i ↔ c.StopsAt floor (count + 1) (i + 1) := by
  simp only [StopsAt, doneAt_next floor c i hmore, nonSquareAt_next, leftAt_next floor c i hfits,
    sizeAt_next, Nat.add_right_cancel_iff]

theorem stopAt_next (floor count : Nat) (c : Cursor) (i : Nat)
    (hfits : c.size floor ≤ c.remaining) (hmore : ¬(c.next floor).Done) :
    (c.next floor).stopAt floor count i = c.stopAt floor (count + 1) (i + 1) := by
  have hwidth : (c.next floor).width >>> i = c.width >>> (i + 1) :=
    (Nat.shiftRight_succ_inside c.width i).symm
  have hheight : (c.next floor).height >>> i = c.height >>> (i + 1) :=
    (Nat.shiftRight_succ_inside c.height i).symm
  simp only [stopAt, doneAt_next floor c i hmore, nonSquareAt_next, leftAt_next floor c i hfits,
    sizeAt_next, hwidth, hheight, Nat.add_right_cancel_iff]

end Cursor

/-! ### A run of the planner -/

/-- What a chain from a cursor on has to be: all levels before the first one that is not there, and
the reason why that one is not there. -/
structure Form (floor count : Nat) (c : Cursor) (chain : MipChain) : Prop where
  levels : chain.levels = (List.range chain.levels.length).map (c.levelAt floor)
  goesOn : ∀ i < chain.levels.length, ¬c.StopsAt floor count i
  ends : c.StopsAt floor count chain.levels.length
  stop : chain.stop = c.stopAt floor count chain.levels.length

theorem form_ended {floor count : Nat} {c : Cursor} {stop : Option ChainStop}
    (hends : c.StopsAt floor count 0) (hstop : stop = c.stopAt floor count 0) :
    Form floor count c (ended stop) where
  levels := rfl
  goesOn := fun i hi => absurd hi (Nat.not_lt_zero i)
  ends := hends
  stop := hstop

theorem not_stopsAt_zero {floor count : Nat} {c : Cursor} (hsquare : ¬c.NonSquareBelowBlock)
    (hfits : c.size floor ≤ c.remaining) : ¬c.StopsAt floor (count + 1) 0 := by
  rintro (hcount | hdone | hnonsquare | hleft)
  · omega
  · exact Nat.lt_irrefl 0 hdone.1
  · exact hsquare hnonsquare
  · rw [Cursor.leftAt_zero, Cursor.sizeAt_zero] at hleft
    omega

theorem form_last {floor count : Nat} {c : Cursor} (hsquare : ¬c.NonSquareBelowBlock)
    (hfits : c.size floor ≤ c.remaining) (hdone : (c.next floor).Done) :
    Form floor (count + 1) c (cons (c.level floor) (ended none)) where
  levels := by
    show [c.level floor] = [c.levelAt floor 0]
    rw [Cursor.levelAt_zero]
  goesOn := by
    intro i hi
    have hzero : i = 0 := Nat.lt_one_iff.mp hi
    subst hzero
    exact not_stopsAt_zero hsquare hfits
  ends := Or.inr (Or.inl ((c.doneAt_one floor).mpr hdone))
  stop := (if_pos (Or.inr ((c.doneAt_one floor).mpr hdone))).symm

theorem form_cons {floor count : Nat} {c : Cursor} {chain : MipChain}
    (hsquare : ¬c.NonSquareBelowBlock) (hfits : c.size floor ≤ c.remaining)
    (hmore : ¬(c.next floor).Done) (hrest : Form floor count (c.next floor) chain) :
    Form floor (count + 1) c (cons (c.level floor) chain) where
  levels := by
    have hshift : (List.range chain.levels.length).map ((c.next floor).levelAt floor) =
        (List.range chain.levels.length).map fun i => c.levelAt floor (i + 1) :=
      List.map_congr_left fun i _ => c.levelAt_next floor i
    simp only [cons, List.length_cons, List.range_succ_eq_map, List.map_cons, List.map_map,
      Cursor.levelAt_zero]
    rw [hrest.levels, List.length_map, List.length_range, hshift]
    rfl
  goesOn := by
    intro i hi
    cases i with
    | zero => exact not_stopsAt_zero hsquare hfits
    | succ i =>
      have hlt : i < chain.levels.length := Nat.lt_of_succ_lt_succ hi
      intro hstops
      exact hrest.goesOn i hlt ((c.stopsAt_next floor count i hfits hmore).mpr hstops)
  ends := (c.stopsAt_next floor count _ hfits hmore).mp hrest.ends
  stop := hrest.stop.trans (c.stopAt_next floor count _ hfits hmore)

theorem planFrom_form (floor count : Nat) (c : Cursor) :
    Form floor count c (planFrom floor count c) := by
  induction count generalizing c with
  | zero => exact form_ended (Or.inl rfl) (if_pos (Or.inl rfl)).symm
  | succ count ih =>
    have hregular : ¬(0 = count + 1 ∨ c.DoneAt 0) := by
      rintro (hcount | hdone)
      · omega
      · exact Nat.lt_irrefl 0 hdone.1
    unfold planFrom
    split
    · rename_i hnonsquare
      refine form_ended (Or.inr (Or.inr (Or.inl hnonsquare))) ?_
      rw [Cursor.stopAt, if_neg hregular, if_pos (c.nonSquareAt_zero.mpr hnonsquare)]
      rfl
    · rename_i hsquare
      split
      · rename_i hshort
        have hleft : c.leftAt floor 0 < c.sizeAt floor 0 := by
          rw [Cursor.leftAt_zero, Cursor.sizeAt_zero]
          omega
        refine form_ended (Or.inr (Or.inr (Or.inr hleft))) ?_
        rw [Cursor.stopAt, if_neg hregular, if_neg (mt c.nonSquareAt_zero.mp hsquare),
          Cursor.leftAt_zero, Cursor.sizeAt_zero, Int.toNat_natCast]
      · rename_i hshort
        have hfits : c.size floor ≤ c.remaining := Nat.not_lt.mp hshort
        split
        · rename_i hdone
          exact form_last hsquare hfits hdone
        · rename_i hmore
          exact form_cons hsquare hfits hmore (ih (c.next floor))

namespace Form

variable {floor count : Nat} {c : Cursor} {chain : MipChain}

theorem isLeast (h : Form floor count c chain) :
    IsLeast {i | c.StopsAt floor count i} chain.levels.length := by
  refine ⟨h.ends, ?_⟩
  intro i hi
  by_contra hlt
  exact h.goesOn i (Nat.not_le.mp hlt) hi

/-- No level of a chain takes more than the levels before it left. -/
theorem leftAt_nonneg (h : Form floor count c chain) {i : Nat} (hi : i ≤ chain.levels.length) :
    0 ≤ c.leftAt floor i := by
  cases i with
  | zero =>
    rw [Cursor.leftAt_zero]
    exact Int.natCast_nonneg _
  | succ i =>
    have hgoesOn := h.goesOn i hi
    have henough : ¬c.leftAt floor i < c.sizeAt floor i := by
      intro hleft
      exact hgoesOn (Or.inr (Or.inr (Or.inr hleft)))
    rw [Cursor.leftAt_succ]
    omega

theorem pairwise_size (h : Form floor count c chain) :
    chain.levels.Pairwise fun larger smaller => smaller.size ≤ larger.size := by
  rw [h.levels, List.pairwise_map]
  refine List.pairwise_lt_range.imp ?_
  intro i j hij
  exact Int.ofNat_le.mpr (c.sizeAt_le_sizeAt floor (Nat.le_of_lt hij))

theorem exists_levelAt (h : Form floor count c chain) {plan : LevelPlan}
    (hplan : plan ∈ chain.levels) : ∃ i < chain.levels.length, plan = c.levelAt floor i := by
  rw [h.levels] at hplan
  obtain ⟨i, hi, rfl⟩ := List.mem_map.mp hplan
  exact ⟨i, List.mem_range.mp hi, rfl⟩

theorem size_bounds (h : Form floor count c chain) {plan : LevelPlan}
    (hplan : plan ∈ chain.levels) :
    (floor : Int) ≤ plan.size ∧ plan.size ≤ (max c.estimate floor : Nat) := by
  obtain ⟨i, -, rfl⟩ := h.exists_levelAt hplan
  have hshift : c.estimate >>> (2 * i) ≤ c.estimate := Nat.shiftRight_le _ _
  simp only [Cursor.levelAt, Cursor.sizeAt]
  omega

theorem notes_eq (h : Form floor count c chain) :
    chain.notes = ((c.stopAt floor count chain.levels.length).map
      (Note.chainEnded chain.levels.length)).toList := by
  rw [notes, h.stop]

end Form

/-! ### The chain of a request -/

/-- The chain ends at the least level at which there is a reason to end, its levels are those before
it, and only the two irregular reasons leave a note, with a line for it: sides that differ come before a
lack of bytes. -/
theorem plan_closed_form (width height dataSize levelCount levelSize minSize : Int) :
    let c : Cursor :=
      ⟨word 16 width, word 16 height, word 32 levelSize, word 32 dataSize⟩
    let floor := word 32 minSize
    let count := word 8 levelCount
    let chain := plan width height dataSize levelCount levelSize minSize
    ∃ k, IsLeast {i | c.StopsAt floor count i} k ∧
      chain.levels = (List.range k).map (c.levelAt floor) ∧
      chain.notes =
        (if k = count ∨ c.DoneAt k then []
        else if c.NonSquareAt k then
          [.chainEnded k (.nonSquare (c.width >>> k) (c.height >>> k))]
        else [.chainEnded k (.exhausted (c.leftAt floor k).toNat (c.sizeAt floor k))]) ∧
      chain.notes.map Note.line =
        (if k = count ∨ c.DoneAt k then []
        else if c.NonSquareAt k then
          ["DEBUG: " ++ ("mip chain stops at " ++ toString k ++ " levels: non-square level " ++
            toString (c.width >>> k) ++ "x" ++ toString (c.height >>> k) ++ " below block size")]
        else
          ["DEBUG: " ++ ("mip chain stops at " ++ toString k ++ " levels: data size exhausted (" ++
            toString (c.leftAt floor k).toNat ++ " < " ++ toString (c.sizeAt floor k) ++ ")")]) ∧
      chain.notes.map Note.severity = List.replicate chain.notes.length .debug ∧
      0 ≤ c.leftAt floor k ∧
      chain.levels.Pairwise (fun larger smaller => smaller.size ≤ larger.size) ∧
      total chain.levels ≤ word 32 dataSize := by
  intro c floor count chain
  have hform : Form floor count c chain := planFrom_form floor count c
  refine ⟨chain.levels.length, hform.isLeast, hform.levels, ?_, ?_, ?_,
    hform.leftAt_nonneg (Nat.le_refl _), hform.pairwise_size, total_planFrom_le floor count c⟩
  · rw [hform.notes_eq, Cursor.stopAt]
    split
    · rfl
    · split <;> rfl
  · rw [hform.notes_eq, Cursor.stopAt]
    split
    · rfl
    · split
      · exact congrArg (fun line => [line]) (Note.line_nonSquare _ _ _)
      · exact congrArg (fun line => [line]) (Note.line_exhausted _ _ _)
  · rw [hform.notes_eq]
    cases c.stopAt floor count chain.levels.length <;> rfl

example : plan 15 16 10000 9 960 4 =
    ⟨[⟨15, 16, 960⟩, ⟨7, 8, 240⟩], some (.nonSquare 3 4)⟩ := by decide

/-! ### The chain of a header -/

theorem ofHeader_form (h : Header) (e : Encoding) :
    Form (word 32 e.minSize) (word 8 h.levelCount)
      ⟨word 16 h.width, word 16 h.height, word 32 (e.levelSize h.width h.height),
        word 32 h.dataSize⟩ (ofHeader h e) :=
  planFrom_form _ _ _

theorem word_eq_toNat {bits : Nat} {n : Int} (h : 0 ≤ n) (hlt : n < 2 ^ bits) :
    word bits n = n.toNat := by
  have hword := word_of_lt h hlt
  omega

theorem ofHeader_eq_planFrom {h : Header} (hfits : h.Fits) {e : Encoding}
    (he : e ∈ Encoding.supported) :
    ofHeader h e = planFrom e.minSize h.levelCount.toNat
      ⟨h.width.toNat, h.height.toNat, e.levelSize h.width h.height, h.dataSize.toNat⟩ := by
  obtain ⟨hsize, hwidth, hheight, -, hcount⟩ := hfits
  have hestimate := e.levelSize_lt h.width h.height
  have hfloor : (e.minSize : Int) < 2 ^ 32 := by
    simp only [Encoding.supported, List.mem_cons, List.not_mem_nil, or_false] at he
    rcases he with rfl | rfl | rfl <;> decide
  rw [ofHeader, plan, word_eq_toNat hsize.1 hsize.2, word_eq_toNat hwidth.1 hwidth.2,
    word_eq_toNat hheight.1 hheight.2, word_eq_toNat hcount.1 hcount.2,
    word_eq_toNat (Int.natCast_nonneg e.minSize) hfloor,
    word_eq_toNat (Int.natCast_nonneg (e.levelSize h.width h.height)) (by omega)]
  rfl

theorem size_ofHeader {h : Header} {e : Encoding} (he : e ∈ Encoding.supported)
    {plan : LevelPlan} (hplan : plan ∈ (ofHeader h e).levels) :
    0 < plan.size ∧ plan.size < 2 ^ 32 := by
  have hbounds := (ofHeader_form h e).size_bounds hplan
  have hestimate := word_lt 32 (e.levelSize h.width h.height)
  have hfloor : 0 < word 32 e.minSize ∧ word 32 e.minSize < 2 ^ 32 := by
    simp only [Encoding.supported, List.mem_cons, List.not_mem_nil, or_false] at he
    rcases he with rfl | rfl | rfl <;> decide
  simp only at hbounds
  omega

theorem total_ofHeader_le {h : Header} (hfits : h.Fits) (e : Encoding) :
    total (ofHeader h e).levels ≤ h.dataSize := by
  have hword := word_of_lt hfits.dataSize.1 hfits.dataSize.2
  have hle := total_planFrom_le (word 32 e.minSize) (word 8 h.levelCount)
    ⟨word 16 h.width, word 16 h.height, word 32 (e.levelSize h.width h.height),
      word 32 h.dataSize⟩
  simp only [hword] at hle
  exact hle

end MipTexture.MipChain
