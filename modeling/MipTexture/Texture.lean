import MipTexture.Log

/-!
# Textures

A texture is what its pixels are and a list of levels, the largest first. Its own size is that of the
first level.
-/

namespace MipTexture

/-- A level of a texture. `size` is the number of bytes that was planned for it. -/
structure Level where
  width : Int
  height : Int
  size : Int
  data : Bytes
  deriving Repr, DecidableEq

namespace Level

def ofPlan (plan : LevelPlan) (data : Bytes) : Level := ⟨plan.width, plan.height, plan.size, data⟩

def plan (level : Level) : LevelPlan := ⟨level.width, level.height, level.size⟩

theorem plan_ofPlan (p : LevelPlan) (data : Bytes) : (ofPlan p data).plan = p := rfl

end Level

structure Texture where
  layout : Layout
  levels : List Level
  deriving Repr, DecidableEq

namespace Texture

/-- The width of the first level, or zero without levels. -/
def width (t : Texture) : Int := (t.levels.head?.map Level.width).getD 0

def height (t : Texture) : Int := (t.levels.head?.map Level.height).getD 0

def dataSize (t : Texture) : Int := (t.levels.map Level.size).sum

def level (t : Texture) (n : Int) : Except Error Level :=
  if n < 0 then .error (.noLevel n t.levels.length)
  else
    match t.levels[n.toNat]? with
    | some found => .ok found
    | none => .error (.noLevel n t.levels.length)

theorem level_eq_ok_iff (t : Texture) (n : Nat) (found : Level) :
    t.level n = .ok found ↔ t.levels[n]? = some found := by
  have hnonneg : ¬(n : Int) < 0 := by omega
  unfold level
  rw [if_neg hnonneg, Int.toNat_natCast]
  split
  · rename_i other hother
    simp [hother]
  · rename_i hnone
    simp [hnone]

end Texture

/-- What a file holds: its header, its texture and the text information after the declared pixel
data. -/
structure Decoded where
  header : Header
  texture : Texture
  txi : Bytes
  deriving Repr, DecidableEq

namespace Decoded

def hasTxi (d : Decoded) : Bool := !d.txi.isEmpty

/-- A fresh view of the text information, when there is any. -/
def txiView (d : Decoded) : Option Bytes := if d.hasTxi then some d.txi else none

end Decoded

end MipTexture
