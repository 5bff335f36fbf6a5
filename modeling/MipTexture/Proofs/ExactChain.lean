import MipTexture.Proofs.ChainForm

/-!
# Chains in unbounded numbers

The estimate of a level is made of words: a product modulo `2 ^ 32` that is divided and then quartered
from level to level. A planner without words takes one quotient of the area for each level instead.
The two agree as long as the product is a word. This fails for pixels in four bytes from an area of
`2 ^ 30` on, and there the declared data never holds the first level.

Main statement: `exact_levels_unless_wrapped`.
-/

namespace MipTexture.MipChain

/-! ### The planner without words -/

/-- The bytes of level `i` of a texture with this area, rounded down once. -/
def exactSize (e : Encoding) (area : Int) (i : Nat) : Int :=
  max (area * e.density.num / (e.density.den * 4 ^ i : Nat)) e.minSize

/-- At most `count` levels from level `i` on, with the bytes that are left for them. -/
def exactFrom (e : Encoding) (area : Int) : Nat → Nat → Int → Int → Int → List LevelPlan
  | 0, _, _, _, _ => []
  | count + 1, i, width, height, left =>
    if (width < 4 ∨ height < 4) ∧ width ≠ height then []
    else if left < exactSize e area i then []
    else
      ⟨max width 1, max height 1, exactSize e area i⟩ ::
        if width / 2 < 1 ∧ height / 2 < 1 then []
        else exactFrom e area count (i + 1) (width / 2) (height / 2) (left - exactSize e area i)

def exactLevels (e : Encoding) (h : Header) : List LevelPlan :=
  exactFrom e (h.width * h.height) h.levelCount.toNat 0 h.width h.height h.dataSize

theorem exactSize_natCast (e : Encoding) (area i : Nat) :
    exactSize e area i = (max (area * e.density.num / (e.density.den * 4 ^ i)) e.minSize : Nat) := by
  rw [exactSize, ← Int.natCast_mul, ← Int.natCast_ediv]
  omega

theorem div_four_pow_succ (n den i : Nat) : n / (den * 4 ^ (i + 1)) = n / (den * 4 ^ i) / 4 := by
  rw [Nat.pow_succ, ← Nat.mul_assoc, Nat.div_div_eq_div_mul]

/-- A planner whose estimate is the exact quotient at one level keeps it exact at all later ones. -/
theorem levels_planFrom_eq_exactFrom (e : Encoding) (area count i : Nat) (c : Cursor)
    (hestimate : c.estimate = area * e.density.num / (e.density.den * 4 ^ i)) :
    (planFrom e.minSize count c).levels =
      exactFrom e area count i c.width c.height c.remaining := by
  -- The estimate is quartered from level to level, so it stays the quotient for the next one.
  induction count generalizing i c with
  | zero => rfl
  | succ count ih =>
    have hsize : exactSize e area i = c.size e.minSize := by
      rw [exactSize_natCast, Cursor.size, hestimate]
    have hsquare : c.NonSquareBelowBlock ↔
        ((c.width : Int) < 4 ∨ (c.height : Int) < 4) ∧ (c.width : Int) ≠ c.height := by
      unfold Cursor.NonSquareBelowBlock
      omega
    have hshort : c.remaining < c.size e.minSize ↔
        (c.remaining : Int) < exactSize e area i := by omega
    have hdone : (c.next e.minSize).Done ↔
        (c.width : Int) / 2 < 1 ∧ (c.height : Int) / 2 < 1 := by
      simp only [Cursor.Done, Cursor.next]
      omega
    have hlevel : c.level e.minSize =
        ⟨max (c.width : Int) 1, max (c.height : Int) 1, exactSize e area i⟩ := by
      rw [hsize]
      rfl
    have hnext : (c.next e.minSize).estimate =
        area * e.density.num / (e.density.den * 4 ^ (i + 1)) := by
      rw [div_four_pow_succ, ← hestimate]
      rfl
    unfold planFrom exactFrom
    simp only [← hsquare, ← hshort, ← hdone]
    split
    · rfl
    · split
      · rfl
      · rename_i hfits
        have hleft : ((c.next e.minSize).remaining : Int) =
            c.remaining - exactSize e area i := by
          simp only [Cursor.next]
          omega
        have hrest := ih (i + 1) (c.next e.minSize) hnext
        rw [hleft] at hrest
        split
        · rw [cons, hlevel]
          rfl
        · rw [cons, hlevel, hrest]
          rfl

/-! ### A product that is a word -/

theorem natCast_area {h : Header} (hfits : h.Fits) :
    ((h.width.toNat * h.height.toNat : Nat) : Int) = h.width * h.height := by
  rw [Int.natCast_mul, Int.toNat_of_nonneg hfits.width.1, Int.toNat_of_nonneg hfits.height.1]

theorem area_lt {h : Header} (hfits : h.Fits) : h.width.toNat * h.height.toNat < 2 ^ 32 := by
  obtain ⟨-, hwidth, hheight, -, -⟩ := hfits
  have hbound : h.width.toNat * h.height.toNat ≤ (2 ^ 16 - 1) * (2 ^ 16 - 1) :=
    Nat.mul_le_mul (by omega) (by omega)
  omega

theorem sides_pos_of_area {h : Header} (hfits : h.Fits) (harea : 0 < h.width * h.height) :
    0 < h.width ∧ 0 < h.height := by
  obtain ⟨-, hwidth, hheight, -, -⟩ := hfits
  have hcolumns : h.width ≠ 0 := by
    intro hzero
    rw [hzero, Int.zero_mul] at harea
    exact Int.lt_irrefl 0 harea
  have hrows : h.height ≠ 0 := by
    intro hzero
    rw [hzero, Int.mul_zero] at harea
    exact Int.lt_irrefl 0 harea
  omega

theorem levels_eq_exactLevels {h : Header} (hfits : h.Fits) {e : Encoding}
    (he : e ∈ Encoding.supported)
    (hword : h.width.toNat * h.height.toNat * e.density.num < 2 ^ 32) :
    (ofHeader h e).levels = exactLevels e h := by
  have hwidth := Int.toNat_of_nonneg hfits.width.1
  have hheight := Int.toNat_of_nonneg hfits.height.1
  have hsize := Int.toNat_of_nonneg hfits.dataSize.1
  have hestimate := e.levelSize_eq _ _ hword
  rw [hwidth, hheight] at hestimate
  rw [ofHeader_eq_planFrom hfits he, exactLevels, ← natCast_area hfits,
    levels_planFrom_eq_exactFrom e (h.width.toNat * h.height.toNat) _ 0 _ (by simpa using hestimate),
    hwidth, hheight, hsize]

/-! ### An area whose product is no word -/

theorem exactSize_raw_zero (area : Int) : exactSize Encoding.raw area 0 = max (area * 4) 4 := by
  show max (area * 4 / 1) 4 = max (area * 4) 4
  rw [Int.ediv_one]

theorem exactFrom_of_short (e : Encoding) {area left : Int} {i : Nat}
    (hshort : left < exactSize e area i) (count : Nat) (width height : Int) :
    exactFrom e area count i width height left = [] := by
  cases count with
  | zero => rfl
  | succ count =>
    rw [exactFrom, if_pos hshort]
    split <;> rfl

theorem head?_planFrom {floor count : Nat} {c : Cursor} {first : LevelPlan}
    (hfirst : first ∈ (planFrom floor count c).levels.head?) : first = c.level floor := by
  have hform := planFrom_form floor count c
  rw [hform.levels] at hfirst
  cases hlength : (planFrom floor count c).levels.length with
  | zero =>
    rw [hlength] at hfirst
    cases hfirst
  | succ n =>
    rw [hlength, List.range_succ_eq_map, List.map_cons, List.head?_cons] at hfirst
    rw [← c.levelAt_zero floor]
    exact (Option.some.inj hfirst).symm

theorem raw_of_ofCode {code : Int} {e : Encoding} (hcode : Encoding.ofCode code = some e)
    (hraw : code = 0x04) : e = Encoding.raw := by
  subst hraw
  exact (Option.some.inj hcode).symm

theorem exactLevels_of_wrapped {h : Header} (hlarge : 2 ^ 30 ≤ h.width * h.height)
    (hsize : h.dataSize < 2 ^ 32) : exactLevels Encoding.raw h = [] := by
  refine exactFrom_of_short Encoding.raw ?_ _ _ _
  rw [exactSize_raw_zero]
  omega

/-- The first level has the sides of the header, and its size is a word, which the bytes of all its
pixels are not. -/
theorem first_of_wrapped {h : Header} (hfits : h.Fits) (hlarge : 2 ^ 30 ≤ h.width * h.height)
    {first : LevelPlan} (hfirst : first ∈ (ofHeader h Encoding.raw).levels.head?) :
    first.width = h.width ∧ first.height = h.height ∧ first.size < 4 * h.width * h.height := by
  rw [ofHeader_eq_planFrom hfits (by decide)] at hfirst
  obtain ⟨hwidth, hheight⟩ := sides_pos_of_area hfits (by omega)
  have hword := Encoding.raw.levelSize_lt h.width h.height
  have hlevel := head?_planFrom hfirst
  have hcolumns : first.width = max (h.width.toNat : Int) 1 := by rw [hlevel]; rfl
  have hrows : first.height = max (h.height.toNat : Int) 1 := by rw [hlevel]; rfl
  have hsize : first.size = max (Encoding.raw.levelSize h.width h.height) 4 := by rw [hlevel]; rfl
  refine ⟨by omega, by omega, ?_⟩
  rw [hsize, Int.mul_assoc]
  omega

/-- Planning by words and by exact quotients gives the same levels, unless pixels in four bytes have
an area of `2 ^ 30` or more. Then there should be no levels at all, and a first level that is planned
by words is too small for its own sides. -/
theorem exact_levels_unless_wrapped {data : Bytes} {h : Header} {e : Encoding}
    (hread : Header.ofBytes data = some h) (hcode : Encoding.ofCode h.encoding = some e) :
    (h.encoding = 0x0A ∨ h.encoding = 0x0C ∨ h.width * h.height < 2 ^ 30 →
      (ofHeader h e).levels = exactLevels e h) ∧
    (h.encoding = 0x04 → 2 ^ 30 ≤ h.width * h.height →
      (∀ dataSize < 2 ^ 32, exactLevels e { h with dataSize } = []) ∧
      ((ofHeader h e).levels ≠ exactLevels e h ↔ (ofHeader h e).levels ≠ []) ∧
      ∀ first ∈ (ofHeader h e).levels.head?, first.width = h.width ∧ first.height = h.height ∧
        first.size < 4 * h.width * h.height) := by
  have hfits := Header.fits_of_ofBytes hread
  obtain ⟨he, hbyte⟩ := Encoding.mem_supported_of_ofCode hcode
  refine ⟨?_, ?_⟩
  · intro hwhich
    have harea := natCast_area hfits
    have hlt := area_lt hfits
    have hnum : e.density.num = 1 ∨ e.density.num = 4 ∧ h.encoding = 0x04 := by
      rw [← hbyte]
      simp only [Encoding.supported, List.mem_cons, List.not_mem_nil, or_false] at he
      rcases he with rfl | rfl | rfl <;> decide
    refine levels_eq_exactLevels hfits he ?_
    rcases hnum with hone | ⟨hfour, hraw⟩
    · rw [hone]
      omega
    · rw [hfour]
      omega
  · intro hraw hlarge
    have hsame := raw_of_ofCode hcode hraw
    subst hsame
    have hempty := exactLevels_of_wrapped hlarge hfits.dataSize.2
    refine ⟨?_, by rw [hempty], fun first => first_of_wrapped hfits hlarge⟩
    intro dataSize hsize
    exact exactLevels_of_wrapped (h := { h with dataSize }) hlarge hsize

/-- An area of `2 ^ 30` pixels: their bytes are no word, and four bytes are planned for them. The
same sides in blocks are planned exactly. -/
theorem wrapped_first_level :
    let h (encoding : Int) : Header := ⟨4, 2 ^ 15, 2 ^ 15, encoding, 1⟩
    let data (encoding : Int) : Bytes := (h encoding).pack (List.replicate 4 0) (List.replicate 114 0)
    Header.ofBytes (data 0x04) = some (h 0x04) ∧
      (ofHeader (h 0x04) Encoding.raw).levels = [⟨2 ^ 15, 2 ^ 15, 4⟩] ∧
      exactLevels Encoding.raw (h 0x04) = [] ∧ (4 : Int) < 4 * 2 ^ 15 * 2 ^ 15 ∧
      (ofHeader (h 0x0A) Encoding.dxt1).levels = exactLevels Encoding.dxt1 (h 0x0A) := by
  intro h data
  have hraw : Header.ofBytes (data 0x04) = some (h 0x04) := by decide +kernel
  have hblocks : Header.ofBytes (data 0x0A) = some (h 0x0A) := by decide +kernel
  have hlevels : (ofHeader (h 0x04) Encoding.raw).levels = [⟨2 ^ 15, 2 ^ 15, 4⟩] := by
    decide +kernel
  obtain ⟨hnone, -, hfirst⟩ :=
    (exact_levels_unless_wrapped hraw (e := Encoding.raw) rfl).2 rfl (by decide)
  have hsize := hfirst ⟨2 ^ 15, 2 ^ 15, 4⟩ (by rw [hlevels]; rfl)
  refine ⟨hraw, hlevels, hnone 4 (by decide), hsize.2.2, ?_⟩
  exact (exact_levels_unless_wrapped hblocks (e := Encoding.dxt1) rfl).1 (.inl rfl)

end MipTexture.MipChain
