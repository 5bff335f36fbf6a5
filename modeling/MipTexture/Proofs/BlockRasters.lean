import Mathlib.Tactic.Ring
import MipTexture.Proofs.DecodedLevels
import MipTexture.Proofs.PlainImaging

/-!
# Rasters of blocks

A raster of blocks needs a whole block for each 4x4 square that it touches, while the planner counts
bytes by pixels. The planned bytes are enough when the blocks meet the sides exactly, and for a level
that lies in one block. They are not enough when blocks stand out over both sides, since then even
sides that are longer by one pixel fill no more than these blocks.

Main statement: `raster_of_blocks`, for the levels of anything that was decoded and any imaging library
that reads blocks.
-/

namespace MipTexture

open Raster (blocksAlong)

namespace Raster

theorem blocksAlong_of_dvd {side : Nat} (h : 4 ∣ side) : 4 * blocksAlong side = side := by
  unfold blocksAlong
  omega

theorem lt_blocksAlong_of_not_dvd {side : Nat} (h : ¬4 ∣ side) : side < 4 * blocksAlong side := by
  unfold blocksAlong
  omega

theorem le_blocksAlong (side : Nat) : side ≤ 4 * blocksAlong side := by
  unfold blocksAlong
  omega

theorem blocksAlong_of_lt {side : Nat} (hpos : 0 < side) (h : side < 4) : blocksAlong side = 1 := by
  unfold blocksAlong
  omega

end Raster

/-! ### Encodings in blocks -/

theorem BlockKind.size_pos (kind : BlockKind) : 0 < kind.size := by
  cases kind <;> decide

/-- The pixels are stored in blocks. The density is that of whole blocks, and one block is the
floor. -/
structure Encoding.StoresBlocks (e : Encoding) (kind : BlockKind) : Prop where
  variant : e.layout.storage.blockVariant = some kind.variant
  floor : e.minSize = kind.size
  density : 16 * e.density.num = kind.size * e.density.den
  num : e.density.num = 1
  den : 0 < e.density.den

namespace Encoding

theorem storesBlocks_dxt1 : dxt1.StoresBlocks .dxt1 := ⟨rfl, rfl, rfl, rfl, by decide⟩

theorem storesBlocks_dxt5 : dxt5.StoresBlocks .dxt5 := ⟨rfl, rfl, rfl, rfl, by decide⟩

theorem exists_storesBlocks {code : Int} {e : Encoding} (hcode : ofCode code = some e)
    (hblocks : code = 0x0A ∨ code = 0x0C) : ∃ kind, e.StoresBlocks kind := by
  rcases hblocks with rfl | rfl
  · cases hcode
    exact ⟨_, storesBlocks_dxt1⟩
  · cases hcode
    exact ⟨_, storesBlocks_dxt5⟩

end Encoding

/-! ### Planned bytes and needed bytes -/

namespace MipChain

section

variable {e : Encoding} {kind : BlockKind} {w h i columns rows : Nat}

theorem blocks_mul_den (hblocks : e.StoresBlocks kind) (a b : Nat) :
    a * b * kind.size * e.density.den = 4 * a * (4 * b) * e.density.num := by
  have hdensity := hblocks.density
  calc a * b * kind.size * e.density.den
      = a * b * (kind.size * e.density.den) := by ring
    _ = a * b * (16 * e.density.num) := by rw [hdensity]
    _ = 4 * a * (4 * b) * e.density.num := by ring

theorem blocks_le_size (hblocks : e.StoresBlocks kind) (hcolumns : columns = max (w >>> i) 1)
    (hrows : rows = max (h >>> i) 1)
    (hsides : (4 ∣ columns ∧ 4 ∣ rows) ∨ (columns < 4 ∧ rows < 4)) :
    blocksAlong columns * blocksAlong rows * kind.size ≤
      max (w * h * e.density.num / (e.density.den * 4 ^ i)) e.minSize := by
  rcases hsides with ⟨hwide, hhigh⟩ | ⟨hnarrow, hlow⟩
  · have hw : columns = w >>> i := by omega
    have hh : rows = h >>> i := by omega
    refine Nat.le_trans (le_quotient hblocks.den ?_) (Nat.le_max_left _ _)
    rw [blocks_mul_den hblocks, Raster.blocksAlong_of_dvd hwide, Raster.blocksAlong_of_dvd hhigh,
      hw, hh]
  · rw [Raster.blocksAlong_of_lt (by omega) hnarrow, Raster.blocksAlong_of_lt (by omega) hlow,
      Nat.mul_one, Nat.one_mul, hblocks.floor]
    exact Nat.le_max_right _ _

theorem floor_lt_blocks (hblocks : e.StoresBlocks kind) (hwide : 4 ≤ columns) (hhigh : 4 ≤ rows)
    (hless : columns * rows < 4 * blocksAlong columns * (4 * blocksAlong rows)) :
    e.minSize < blocksAlong columns * blocksAlong rows * kind.size := by
  have harea : 4 * 4 ≤ columns * rows := Nat.mul_le_mul hwide hhigh
  have hmany : 1 < blocksAlong columns * blocksAlong rows := by
    rw [Nat.mul_mul_mul_comm] at hless
    omega
  rw [hblocks.floor]
  exact (Nat.lt_mul_iff_one_lt_left kind.size_pos).mpr hmany

theorem size_lt_blocks (hblocks : e.StoresBlocks kind) (hcolumns : columns = max (w >>> i) 1)
    (hrows : rows = max (h >>> i) 1) (hsquare : w >>> i < 4 ∨ h >>> i < 4 → w >>> i = h >>> i)
    (hwide : ¬4 ∣ columns) (hhigh : ¬4 ∣ rows) (hlarge : ¬(columns < 4 ∧ rows < 4)) :
    max (w * h * e.density.num / (e.density.den * 4 ^ i)) e.minSize <
      blocksAlong columns * blocksAlong rows * kind.size := by
  -- With one side below a block the level is a square, and then both are below it.
  have hw : columns = w >>> i ∧ 4 ≤ columns := by omega
  have hh : rows = h >>> i ∧ 4 ≤ rows := by omega
  have hacross := Raster.lt_blocksAlong_of_not_dvd hwide
  have hdown := Raster.lt_blocksAlong_of_not_dvd hhigh
  have hfloor := floor_lt_blocks hblocks hw.2 hh.2 (Nat.mul_lt_mul'' hacross hdown)
  refine Nat.max_lt.mpr ⟨quotient_lt hblocks.den ?_ ?_, hfloor⟩
  · rw [hblocks.num]
    decide
  · rw [blocks_mul_den hblocks, ← hw.1, ← hh.1]
    exact Nat.mul_le_mul_right _ (Nat.mul_le_mul hacross hdown)

/-- Nothing was lost yet by shifting the sides of the first level, so it is enough that blocks stand
out over one side. -/
theorem first_size_lt_blocks (hblocks : e.StoresBlocks kind) (hcolumns : columns = max w 1)
    (hrows : rows = max h 1) (hsquare : w < 4 ∨ h < 4 → w = h) (hone : ¬(4 ∣ columns ↔ 4 ∣ rows)) :
    max (w * h * e.density.num / (e.density.den * 4 ^ 0)) e.minSize <
      blocksAlong columns * blocksAlong rows * kind.size := by
  have hw : columns = w ∧ 4 ≤ columns := by omega
  have hh : rows = h ∧ 4 ≤ rows := by omega
  have hacross := Raster.le_blocksAlong columns
  have hdown := Raster.le_blocksAlong rows
  have hless : columns * rows < 4 * blocksAlong columns * (4 * blocksAlong rows) := by
    by_cases hwide : 4 ∣ columns
    · have hhigh : ¬4 ∣ rows := by omega
      exact Nat.mul_lt_mul_of_le_of_lt hacross (Raster.lt_blocksAlong_of_not_dvd hhigh) (by omega)
    · exact Nat.mul_lt_mul_of_lt_of_le (Raster.lt_blocksAlong_of_not_dvd hwide) hdown (by omega)
  refine Nat.max_lt.mpr ⟨?_, floor_lt_blocks hblocks hw.2 hh.2 hless⟩
  rw [Nat.pow_zero, Nat.mul_one]
  refine Nat.div_lt_of_lt_mul ?_
  rw [Nat.mul_comm e.density.den, blocks_mul_den hblocks, ← hw.1, ← hh.1, hblocks.num]
  omega

end

end MipChain

namespace Decode

/-- What the imaging library is asked for a level in blocks, and that its sides are such that it can
answer. -/
theorem raster_eq_read_of_blocks {d : Decoded} (hd : d.Canonical) {i : Nat} {level : Level}
    (hlevel : d.texture.levels[i]? = some level) {e : Encoding} {kind : BlockKind}
    (hlayout : d.texture.layout = e.layout) (hblocks : e.StoresBlocks kind)
    (hplanned : MipChain.PlannedAt d.header e i level.plan) {columns rows : Nat}
    (hcolumns : columns = max (d.header.width.toNat >>> i) 1)
    (hrows : rows = max (d.header.height.toNat >>> i) 1) (lib : Imaging) :
    Raster.IsSide columns ∧ Raster.IsSide rows ∧
      d.texture.raster (some lib) i = lib.read (.blocks kind.variant) columns rows level.data := by
  have hwidth := MipChain.isSide_shifted i hd.fits.width
  have hheight := MipChain.isSide_shifted i hd.fits.height
  rw [← hcolumns] at hwidth
  rw [← hrows] at hheight
  refine ⟨hwidth, hheight, ?_⟩
  rw [Texture.raster_of_getElem? hlevel, hlayout, Level.raster_of_variant hblocks.variant]
  rw [hcolumns, hrows, ← hplanned.width, ← hplanned.height]
  rfl

/-- The planned bytes of a level in blocks make a raster when its sides are whole numbers of blocks or
both lie in one block. They do not when neither side is a whole number of blocks, and for the first
level neither when only one is. No other error stands in the way of a level. -/
theorem raster_of_blocks {lib : Imaging} (hlib : lib.ReadsBlocks) {name : Option String}
    {strict : Bool} {s : Stream} {d : Decoded} (hrun : (run name strict s).1.answer = .ok d)
    (hcode : d.header.encoding = 0x0A ∨ d.header.encoding = 0x0C) {i : Nat} {level : Level}
    (hlevel : d.texture.levels[i]? = some level) :
    let missing : Error := .refused (.other "not enough image data")
    ((4 ∣ level.width ∧ 4 ∣ level.height) ∨ (level.width < 4 ∧ level.height < 4) →
      ∃ r, d.texture.raster (some lib) i = .ok r ∧ (r.width : Int) = level.width ∧
        (r.height : Int) = level.height) ∧
    (¬4 ∣ level.width → ¬4 ∣ level.height → ¬(level.width < 4 ∧ level.height < 4) →
      d.texture.raster (some lib) i = .error missing) ∧
    (i = 0 → ¬(4 ∣ level.width ↔ 4 ∣ level.height) →
      d.texture.raster (some lib) i = .error missing) ∧
    (∀ e, d.texture.raster (some lib) i = .error e → e = missing) := by
  intro missing
  have hd := canonical_of_run hrun
  obtain ⟨e, he, hlayout, hplanned⟩ := hd.plannedAt hlevel
  obtain ⟨kind, hblocks⟩ := Encoding.exists_storesBlocks he hcode
  obtain ⟨columns, hcolumns⟩ : ∃ n, n = max (d.header.width.toNat >>> i) 1 := ⟨_, rfl⟩
  obtain ⟨rows, hrows⟩ : ∃ n, n = max (d.header.height.toNat >>> i) 1 := ⟨_, rfl⟩
  have hwidth : level.width = columns := hcolumns ▸ hplanned.width
  have hheight : level.height = rows := hrows ▸ hplanned.height
  have hlength := hd.length_data hlevel hplanned (by
    rw [hblocks.num, Nat.mul_one]
    exact MipChain.area_lt hd.fits)
  obtain ⟨hacross, hdown, hraster⟩ :=
    raster_eq_read_of_blocks hd hlevel hlayout hblocks hplanned hcolumns hrows lib
  have hwhole : (4 ∣ level.width ↔ 4 ∣ columns) ∧ (4 ∣ level.height ↔ 4 ∣ rows) := by
    rw [hwidth, hheight]
    omega
  rw [hwhole.1, hwhole.2, hraster]
  refine ⟨?_, ?_, ?_, ?_⟩
  · intro hsides
    have henough := MipChain.blocks_le_size hblocks hcolumns hrows (by omega)
    obtain ⟨r, hr, hrwidth, hrheight⟩ := hlib.enough kind hacross hdown (hlength ▸ henough)
    exact ⟨r, hr, by rw [hrwidth, hwidth], by rw [hrheight, hheight]⟩
  · intro hwide hhigh hlarge
    have hshort := MipChain.size_lt_blocks hblocks hcolumns hrows hplanned.square hwide hhigh
      (by omega)
    exact hlib.missing kind hacross hdown (hlength ▸ hshort)
  · rintro rfl hone
    have hsquare := hplanned.square
    rw [Nat.shiftRight_zero] at hcolumns hrows
    rw [Nat.shiftRight_zero, Nat.shiftRight_zero] at hsquare
    have hshort := MipChain.first_size_lt_blocks hblocks hcolumns hrows hsquare hone
    exact hlib.missing kind hacross hdown (hlength ▸ hshort)
  · intro e herror
    rcases Nat.lt_or_ge level.data.length
      (blocksAlong columns * blocksAlong rows * kind.size) with hshort | henough
    · rw [hlib.missing kind hacross hdown hshort] at herror
      exact (Except.error.inj herror).symm
    · obtain ⟨r, hr, -⟩ := hlib.enough kind hacross hdown henough
      rw [hr] at herror
      cases herror

/-- Blocks stand out over both sides of the first square here, but not over its second level, and over
one side of the wider texture. -/
theorem rasters_of_uneven_sides :
    let header (width : Int) : Header := ⟨26, width, 6, 0x0A, 2⟩
    let file (width : Int) : Bytes :=
      (header width).pack (List.replicate 4 0) (List.replicate 114 0) ++ List.replicate 26 1
    let square : Decoded := ⟨header 6, ⟨Encoding.dxt1.layout,
      [⟨6, 6, 18, List.replicate 18 1⟩, ⟨3, 3, 8, List.replicate 8 1⟩]⟩, []⟩
    let wide : Decoded := ⟨header 8, ⟨Encoding.dxt1.layout, [⟨8, 6, 24, List.replicate 24 1⟩]⟩, []⟩
    let missing : Error := .refused (.other "not enough image data")
    (run none true (.ofBytes (file 6))).1.answer = .ok square ∧
      square.texture.raster (some .plain) 0 = .error missing ∧
      (∃ r, square.texture.raster (some .plain) 1 = .ok r ∧ (r.width : Int) = 3 ∧
        (r.height : Int) = 3) ∧
      (run none true (.ofBytes (file 8))).1.answer = .ok wide ∧
      wide.texture.raster (some .plain) 0 = .error missing := by
  intro header file square wide missing
  have hsquare : (run none true (.ofBytes (file 6))).1.answer = .ok square := by decide +kernel
  have hwide : (run none true (.ofBytes (file 8))).1.answer = .ok wide := by decide +kernel
  have hlib := Imaging.readsBlocks_plain
  obtain ⟨-, hmissing, -, -⟩ := raster_of_blocks hlib hsquare (.inl rfl) (i := 0) rfl
  obtain ⟨r, hr, hcolumns, hrows⟩ :=
    (raster_of_blocks hlib hsquare (.inl rfl) (i := 1) rfl).1 (.inr (by decide))
  obtain ⟨-, -, hone, -⟩ := raster_of_blocks hlib hwide (.inl rfl) (i := 0) rfl
  exact ⟨hsquare, hmissing (by decide) (by decide) (by decide), ⟨r, hr, hcolumns, hrows⟩, hwide,
    hone rfl (by decide)⟩

end Decode

end MipTexture
