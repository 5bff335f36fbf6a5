import MipTexture.Encoding

/-!
# Mip chains

A file has no table of its levels, so the sizes of all levels are derived again from the first one:
each level halves the sides and quarters the estimated size, and no level is smaller than a floor. The
chain ends before a level that is not square and has a side below four pixels, before a level that the
declared data cannot hold, and after a level whose sides both come to nothing.

All numbers are taken as unsigned words first: sides of 16 bits, sizes of 32 bits, a count of 8 bits.

Main statements: the sizes of a chain fit into the data (`total_planFrom_le`).
-/

namespace MipTexture

structure LevelPlan where
  width : Int
  height : Int
  size : Int
  deriving Repr, DecidableEq

/-- The reason to end a chain early, with the numbers that were found. The sides are those that the
halving gave and may be zero. -/
inductive ChainStop where
  | nonSquare (width height : Nat)
  | exhausted (remaining size : Nat)
  deriving Repr, DecidableEq

/-- The levels of a texture, and why there are no more when the chain ended early. -/
structure MipChain where
  levels : List LevelPlan
  stop : Option ChainStop
  deriving Repr, DecidableEq

namespace MipChain

/-- What the planner knows before a level: the sides, the estimated size and the bytes that are
left. -/
structure Cursor where
  width : Nat
  height : Nat
  estimate : Nat
  remaining : Nat
  deriving Repr, DecidableEq

namespace Cursor

def NonSquareBelowBlock (c : Cursor) : Prop :=
  (c.width < 4 ∨ c.height < 4) ∧ c.width ≠ c.height

instance (c : Cursor) : Decidable c.NonSquareBelowBlock :=
  inferInstanceAs (Decidable (_ ∧ _))

def size (floor : Nat) (c : Cursor) : Nat := max c.estimate floor

/-- The level itself. A side that came to nothing counts as one pixel. -/
def level (floor : Nat) (c : Cursor) : LevelPlan where
  width := max c.width 1
  height := max c.height 1
  size := c.size floor

def next (floor : Nat) (c : Cursor) : Cursor where
  width := c.width / 2
  height := c.height / 2
  estimate := c.estimate / 4
  remaining := c.remaining - c.size floor

def Done (c : Cursor) : Prop := c.width < 1 ∧ c.height < 1

instance (c : Cursor) : Decidable c.Done :=
  inferInstanceAs (Decidable (_ ∧ _))

end Cursor

def ended (stop : Option ChainStop) : MipChain := ⟨[], stop⟩

def cons (level : LevelPlan) (chain : MipChain) : MipChain := ⟨level :: chain.levels, chain.stop⟩

/-- The chain of at most `count` levels from a cursor on. -/
def planFrom (floor : Nat) : Nat → Cursor → MipChain
  | 0, _ => ended none
  | count + 1, c =>
    if c.NonSquareBelowBlock then ended (some (.nonSquare c.width c.height))
    else if c.remaining < c.size floor then ended (some (.exhausted c.remaining (c.size floor)))
    else if (c.next floor).Done then cons (c.level floor) (ended none)
    else cons (c.level floor) (planFrom floor count (c.next floor))

def word (bits : Nat) (n : Int) : Nat := (n % 2 ^ bits).toNat

/-- The chain of a texture. `levelSize` estimates the first level. -/
def plan (width height dataSize levelCount levelSize minSize : Int) : MipChain :=
  planFrom (word 32 minSize) (word 8 levelCount)
    ⟨word 16 width, word 16 height, word 32 levelSize, word 32 dataSize⟩

def ofHeader (h : Header) (e : Encoding) : MipChain :=
  plan h.width h.height h.dataSize h.levelCount (e.levelSize h.width h.height) e.minSize

def total (levels : List LevelPlan) : Int := (levels.map LevelPlan.size).sum

theorem word_lt (bits : Nat) (n : Int) : word bits n < 2 ^ bits := by
  have hpos : (0 : Int) < 2 ^ bits := Int.pow_pos (by decide)
  have hlt := Int.emod_lt_of_pos n hpos
  have hnonneg := Int.emod_nonneg n (Int.ne_of_gt hpos)
  have hcast : ((2 ^ bits : Nat) : Int) = 2 ^ bits := by simp only [Int.natCast_pow]; rfl
  unfold word
  omega

theorem word_of_lt {bits : Nat} {n : Int} (h : 0 ≤ n) (hlt : n < 2 ^ bits) :
    (word bits n : Int) = n := by
  unfold word
  rw [Int.emod_eq_of_lt h hlt, Int.toNat_of_nonneg h]

theorem total_planFrom_le (floor count : Nat) (c : Cursor) :
    total (planFrom floor count c).levels ≤ c.remaining := by
  induction count generalizing c with
  | zero =>
    simp only [planFrom, ended, total, List.map_nil, List.sum_nil]
    omega
  | succ count ih =>
    have hrest := ih (c.next floor)
    simp only [Cursor.next] at hrest
    unfold planFrom
    split
    · simp only [ended, total, List.map_nil, List.sum_nil]
      omega
    · split
      · simp only [ended, total, List.map_nil, List.sum_nil]
        omega
      · split
        · simp only [cons, ended, total, List.map_cons, List.map_nil, List.sum_cons, List.sum_nil,
            Cursor.level]
          omega
        · simp only [total] at hrest
          simp only [cons, total, List.map_cons, List.sum_cons, Cursor.level, Cursor.next]
          omega

end MipChain

end MipTexture
