import MipTexture.Imaging
import MipTexture.Proofs.BoundaryModes
import MipTexture.Proofs.FaultyDecode
import MipTexture.Proofs.LevelBytes
import MipTexture.Proofs.Reports
import MipTexture.Proofs.WrittenFile

/-!
# Levels that were decoded

Whatever stream a value was decoded from, its levels are the ones that its header plans, with all
their data. The imaging library is asked for the raster of a level with these sides and bytes.

Main statements: `canonical_of_run`, and `Level.rawRaster_eq_ite` and `Level.raster_of_variant` for the
two forms of pixels.
-/

namespace MipTexture

namespace Decode

theorem full_of_levelsFrom {number : Nat} {plans : List LevelPlan} {s later : Stream}
    {found : List Level} (hrun : levelsFrom number plans s = (.ok found, later)) :
    ∀ level ∈ found, (level.data.length : Int) = level.size := by
  induction plans generalizing s number found with
  | nil =>
    cases hrun
    simp
  | cons plan rest ih =>
    obtain ⟨data, mid, hread, hothers⟩ := Reading.bind_eq_ok hrun
    obtain ⟨others, last, hlevels, hlast⟩ := Reading.bind_eq_ok hothers
    cases hlast
    intro level hlevel
    rcases List.mem_cons.mp hlevel with rfl | hlater
    · exact Stream.length_readExact hread
    · exact ih hlevels level hlater

/-- Faults and the place where a stream stands decide whether there is a value, not what kind of
value it is. -/
theorem canonical_of_run {name : Option String} {strict : Bool} {s : Stream} {d : Decoded}
    (hrun : (run name strict s).1.answer = .ok d) : d.Canonical := by
  have hcontents := contents_of_run_ok hrun
  rw [answer_contents] at hcontents
  rcases hwhole : wholeFile strict s with ⟨answer, later⟩
  rw [hwhole] at hcontents
  cases answer with
  | error e => cases hcontents
  | ok value =>
    obtain ⟨⟨h, e⟩, mid, hopening, hbody⟩ := Reading.bind_eq_ok hwhole
    obtain ⟨found, filled, hlevels, htxi⟩ := Reading.bind_eq_ok hbody
    obtain ⟨⟨rest, note⟩, last, -, hlast⟩ := Reading.bind_eq_ok htxi
    obtain ⟨-, hfits, hlookup⟩ := opening_eq_ok hopening
    have hcode := (Encoding.lookup_eq_ok_iff h e).mp hlookup
    cases hlast
    cases hcontents
    exact ⟨hfits, ⟨e, hcode, rfl, map_plan_of_levelsFrom hlevels⟩, full_of_levelsFrom hlevels⟩

end Decode

namespace Decoded

theorem Canonical.plannedAt {d : Decoded} (hd : d.Canonical) {i : Nat} {level : Level}
    (hlevel : d.texture.levels[i]? = some level) :
    ∃ e, Encoding.ofCode d.header.encoding = some e ∧ d.texture.layout = e.layout ∧
      MipChain.PlannedAt d.header e i level.plan := by
  obtain ⟨e, hcode, hlayout, hplans⟩ := hd.planned
  have hplan : (MipChain.ofHeader d.header e).levels[i]? = some level.plan := by
    rw [← hplans, List.getElem?_map, hlevel]
    rfl
  have he := (Encoding.mem_supported_of_ofCode hcode).1
  exact ⟨e, hcode, hlayout, MipChain.plannedAt_of_getElem? hd.fits he hplan⟩

theorem Canonical.length_data {d : Decoded} (hd : d.Canonical) {i : Nat} {level : Level}
    (hlevel : d.texture.levels[i]? = some level) {e : Encoding}
    (hplanned : MipChain.PlannedAt d.header e i level.plan)
    (hword : d.header.width.toNat * d.header.height.toNat * e.density.num < 2 ^ 32) :
    level.data.length = max (d.header.width.toNat * d.header.height.toNat * e.density.num /
      (e.density.den * 4 ^ i)) e.minSize := by
  have hfull := hd.full level (List.mem_of_getElem? hlevel)
  exact Int.ofNat_inj.mp (hfull.trans (hplanned.size hword))

end Decoded

/-! ### Levels as rasters -/

theorem MipChain.isSide_shifted (i : Nat) {side : Int} (hside : 0 ≤ side ∧ side < 2 ^ 16) :
    Raster.IsSide (max (side.toNat >>> i) 1) := by
  have hle := Nat.shiftRight_le side.toNat i
  constructor <;> omega

theorem Bytes.before_natCast (data : Bytes) (stop : Nat) : data.before stop = data.take stop := by
  rw [before, if_neg (by omega), Int.toNat_natCast]

theorem Texture.raster_of_getElem? {t : Texture} {i : Nat} {level : Level}
    (hlevel : t.levels[i]? = some level) (lib : Option Imaging) :
    t.raster lib i = level.raster lib (.stored t.layout.storage) := by
  have hfound := (t.level_eq_ok_iff i level).mpr hlevel
  rw [raster, hfound]
  rfl

namespace Level

theorem raster_of_variant {storage : Storage} {variant : Nat}
    (h : storage.blockVariant = some variant) (level : Level) (lib : Imaging) :
    level.raster (some lib) (.stored storage) =
      lib.read (.blocks variant) level.width level.height level.data := by
  simp only [raster, h, blockRaster]

theorem rawRaster_eq_ite {level : Level} {columns rows : Nat} (hcolumns : level.width = columns)
    (hrows : level.height = rows) (lib : Imaging) :
    level.rawRaster lib =
      if level.data.length < columns * rows * 4 then .error (.refused .pixelsMissing)
      else lib.read (.raw .bgra) columns rows (level.data.take (columns * rows * 4)) := by
  have hneeded : level.width * level.height * 4 = (columns * rows * 4 : Nat) := by
    rw [hcolumns, hrows, Int.natCast_mul, Int.natCast_mul]
    rfl
  unfold rawRaster
  rw [hneeded]
  simp only [Int.ofNat_lt, Bytes.before_natCast, hcolumns, hrows]

end Level

end MipTexture
