import MipTexture.Proofs.DecodedLevels
import MipTexture.Proofs.PlainImaging

/-!
# Rasters of pixels in four bytes

The planned bytes of a level hold all its pixels: the quotient of the first area is never below the
area of the level, and a level without any area is a single pixel, which is the floor. So each pixel
of each level stands at a known offset of the file. The exception is a first area whose bytes are no
word.

Main statement: `raster_of_raw`, for any imaging library that reads pixels in four bytes.
-/

namespace MipTexture

/-! ### Pixels in a file -/

namespace Pixel.StoredAt

variable {p : Pixel} {part data : Bytes} {start offset : Nat}

/-- Where each byte of a part stands in the whole, there stand the bytes of a pixel of the part. -/
theorem of_part (hpart : ∀ {i : Nat} {byte : UInt8}, part[i]? = some byte →
    data[start + i]? = some byte) (hp : p.StoredAt part offset) :
    p.StoredAt data (start + offset) :=
  ⟨hpart hp.blue, hpart hp.green, hpart hp.red, hpart hp.alpha⟩

theorem of_take {count : Nat} (hp : p.StoredAt (data.take count) offset) :
    p.StoredAt data offset := by
  rw [← Nat.zero_add offset]
  refine hp.of_part fun {i byte} hbyte => ?_
  rw [List.getElem?_take] at hbyte
  split at hbyte
  · rw [Nat.zero_add]
    exact hbyte
  · cases hbyte

theorem of_slice {count : Nat} (hp : p.StoredAt (data.slice start count) offset) :
    p.StoredAt data (start + offset) := by
  refine of_take hp |>.of_part fun {i byte} hbyte => ?_
  rw [List.getElem?_drop] at hbyte
  exact hbyte

end Pixel.StoredAt

namespace Decode

theorem slice_of_level {name : Option String} {strict : Bool} {data : Bytes} {d : Decoded}
    (hanswer : (bytes name strict data).answer = .ok d) {i : Nat} {level : Level}
    (hlevel : d.texture.levels[i]? = some level) :
    level.data = data.slice (Header.size + ((d.texture.levels.take i).map Level.size).sum.toNat)
      level.size.toNat := by
  obtain ⟨h, e, hreadable, rfl⟩ := answer_eq_ok_iff.mp hanswer
  rw [sum_size_eq_total, List.map_take, valueIn, map_plan_cut]
  exact (slice_cut_level hreadable.encoding hreadable.levels hlevel).1

end Decode

/-! ### Planned bytes and needed bytes -/

namespace MipChain

theorem raw_pixels_le_size {w h i columns rows : Nat} (hcolumns : columns = max (w >>> i) 1)
    (hrows : rows = max (h >>> i) 1)
    (hsquare : w >>> i < 4 ∨ h >>> i < 4 → w >>> i = h >>> i) :
    columns * rows * 4 ≤ max (w * h * 4 / (1 * 4 ^ i)) 4 := by
  -- A side that was shifted out takes the other one with it.
  have hsides : (columns = 1 ∧ rows = 1) ∨ (columns = w >>> i ∧ rows = h >>> i) := by
    generalize w >>> i = across at hcolumns hsquare ⊢
    generalize h >>> i = down at hrows hsquare ⊢
    omega
  rcases hsides with ⟨hw, hh⟩ | ⟨hw, hh⟩
  · rw [hw, hh]
    exact Nat.le_max_right _ _
  · refine Nat.le_trans (le_quotient (by decide) ?_) (Nat.le_max_left _ _)
    rw [hw, hh, Nat.mul_one]

end MipChain

namespace Decode

section

variable {lib : Imaging} {d : Decoded} {level : Level}

theorem raster_eq_ite_of_raw (lib : Imaging) (hlayout : d.texture.layout = Encoding.raw.layout) {i : Nat}
    (hlevel : d.texture.levels[i]? = some level) {columns rows : Nat}
    (hcolumns : level.width = columns) (hrows : level.height = rows) :
    d.texture.raster (some lib) i =
      if level.data.length < columns * rows * 4 then .error (.refused .pixelsMissing)
      else lib.read (.raw .bgra) columns rows (level.data.take (columns * rows * 4)) := by
  rw [Texture.raster_of_getElem? hlevel, hlayout]
  exact Level.rawRaster_eq_ite hcolumns hrows lib

/-- What the imaging library makes of a level in four bytes that are all planned. -/
theorem raster_of_planned_pixels (hlib : lib.ReadsRaw) (hd : d.Canonical)
    (hcode : d.header.encoding = 0x04) (harea : d.header.width * d.header.height < 2 ^ 30) {i : Nat}
    (hlevel : d.texture.levels[i]? = some level) :
    ∃ r, d.texture.raster (some lib) i = .ok r ∧
      r.width = max (d.header.width.toNat >>> i) 1 ∧
      r.height = max (d.header.height.toNat >>> i) 1 ∧
      ∀ x < r.width, ∀ y < r.height, ∃ p, r.pixel? x y = some p ∧
        p.StoredAt level.data (4 * (y * r.width + x)) := by
  obtain ⟨e, he, hlayout, hplanned⟩ := hd.plannedAt hlevel
  have hraw := MipChain.raw_of_ofCode he hcode
  subst hraw
  have hproduct := MipChain.natCast_area hd.fits
  have hlength := hd.length_data hlevel hplanned
    (show d.header.width.toNat * d.header.height.toNat * 4 < 2 ^ 32 by omega)
  have hneeded := MipChain.raw_pixels_le_size rfl rfl hplanned.square
  have henough := hneeded.trans_eq hlength.symm
  have hraster := raster_eq_ite_of_raw lib hlayout hlevel hplanned.width hplanned.height
  rw [if_neg (Nat.not_lt.mpr henough)] at hraster
  obtain ⟨r, hr, hcolumns, hrows, hpixels⟩ :=
    hlib.pixels (MipChain.isSide_shifted i hd.fits.width)
      (MipChain.isSide_shifted i hd.fits.height) (List.length_take_of_le henough)
  refine ⟨r, hraster.trans hr, hcolumns, hrows, ?_⟩
  rw [hcolumns, hrows]
  intro x hx y hy
  obtain ⟨p, hpixel, hstored⟩ := hpixels x hx y hy
  exact ⟨p, hpixel, hstored.of_take⟩

theorem raster_of_wrapped (hd : d.Canonical) (hcode : d.header.encoding = 0x04)
    (hlarge : 2 ^ 30 ≤ d.header.width * d.header.height)
    (hlevel : d.texture.levels[0]? = some level) :
    d.texture.raster (some lib) 0 = .error (.refused .pixelsMissing) := by
  obtain ⟨e, he, hlayout, hplans⟩ := hd.planned
  have hraw := MipChain.raw_of_ofCode he hcode
  subst hraw
  have hfirst : level.plan ∈ (MipChain.ofHeader d.header Encoding.raw).levels.head? := by
    rw [← hplans, List.head?_map, List.head?_eq_getElem?, hlevel]
    rfl
  obtain ⟨hwidth, hheight, hsize⟩ := MipChain.first_of_wrapped hd.fits hlarge hfirst
  have hbytes : (level.data.length : Int) < 4 * d.header.width * d.header.height :=
    (hd.full level (List.mem_of_getElem? hlevel)).trans_lt hsize
  have hproduct := MipChain.natCast_area hd.fits
  have hshort : level.data.length < d.header.width.toNat * d.header.height.toNat * 4 := by
    rw [Int.mul_assoc] at hbytes
    omega
  obtain ⟨-, hwide, hhigh, -, -⟩ := hd.fits
  have hraster := raster_eq_ite_of_raw lib hlayout hlevel
    (hwidth.trans (Int.toNat_of_nonneg hwide.1).symm)
    (hheight.trans (Int.toNat_of_nonneg hhigh.1).symm)
  rw [if_pos hshort] at hraster
  exact hraster

end

/-- Every level of pixels in four bytes makes a raster, and each of its pixels is in the file where
the sizes of the levels before it and the pixels before it end. From an area of `2 ^ 30` on the first
level makes none, whenever there is one. -/
theorem raster_of_raw {lib : Imaging} (hlib : lib.ReadsRaw) {name : Option String} {strict : Bool}
    {data : Bytes} {d : Decoded} (hanswer : (bytes name strict data).answer = .ok d)
    (hcode : d.header.encoding = 0x04) :
    let missing : Error := .refused .pixelsMissing
    (d.header.width * d.header.height < 2 ^ 30 →
      ∀ i < d.texture.levels.length, ∃ r, d.texture.raster (some lib) i = .ok r ∧
        r.width = max (d.header.width.toNat >>> i) 1 ∧
        r.height = max (d.header.height.toNat >>> i) 1 ∧
        ∀ x < r.width, ∀ y < r.height, ∃ p, r.pixel? x y = some p ∧
          p.StoredAt data (Header.size + ((d.texture.levels.take i).map Level.size).sum.toNat +
            4 * (y * r.width + x))) ∧
    (2 ^ 30 ≤ d.header.width * d.header.height → d.texture.levels ≠ [] →
      d.texture.raster (some lib) 0 = .error missing) ∧
    missing.message = "pixel buffer size mismatch" := by
  intro missing
  have hd := canonical_of_run hanswer
  refine ⟨?_, ?_, rfl⟩
  · intro harea i hi
    have hlevel := List.getElem?_eq_getElem hi
    obtain ⟨r, hr, hcolumns, hrows, hpixels⟩ :=
      raster_of_planned_pixels hlib hd hcode harea hlevel
    refine ⟨r, hr, hcolumns, hrows, ?_⟩
    intro x hx y hy
    obtain ⟨p, hpixel, hstored⟩ := hpixels x hx y hy
    rw [slice_of_level hanswer hlevel] at hstored
    exact ⟨p, hpixel, hstored.of_slice⟩
  · intro hlarge hlevels
    obtain ⟨first, hfirst⟩ := Option.ne_none_iff_exists'.mp
      (mt List.head?_eq_none_iff.mp hlevels)
    rw [List.head?_eq_getElem?] at hfirst
    exact raster_of_wrapped hd hcode hlarge hfirst

/-- A quarter of the bytes of the first level is more than the second level needs here, so the bytes
after its pixels are in no raster. In the other file four bytes are planned for the first level. -/
theorem raster_of_larger_quarter :
    let file (header : Header) (pixels : Bytes) : Bytes :=
      header.pack (List.replicate 4 0) (List.replicate 114 0) ++ pixels
    let odd : Bytes := file ⟨125, 5, 5, 0x04, 2⟩ ((List.range 125).map UInt8.ofNat)
    let large : Bytes := file ⟨4, 2 ^ 15, 2 ^ 15, 0x04, 1⟩ [1, 2, 3, 4]
    let d : Decoded := ⟨⟨125, 5, 5, 0x04, 2⟩, ⟨Encoding.raw.layout,
      [⟨5, 5, 100, odd.slice 128 100⟩, ⟨2, 2, 25, odd.slice 228 25⟩]⟩, []⟩
    let wrapped : Decoded := ⟨⟨4, 2 ^ 15, 2 ^ 15, 0x04, 1⟩, ⟨Encoding.raw.layout,
      [⟨2 ^ 15, 2 ^ 15, 4, [1, 2, 3, 4]⟩]⟩, []⟩
    (bytes none true odd).answer = .ok d ∧
      (∃ r, d.texture.raster (some .plain) 1 = .ok r ∧ r.width = 2 ∧ r.height = 2 ∧
        ∃ p, r.pixel? 1 1 = some p ∧ p.StoredAt odd 240) ∧
      (bytes none true large).answer = .ok wrapped ∧
      wrapped.texture.raster (some .plain) 0 = .error (.refused .pixelsMissing) := by
  intro file odd large d wrapped
  have hodd : (bytes none true odd).answer = .ok d := by decide +kernel
  have hlarge : (bytes none true large).answer = .ok wrapped := by decide +kernel
  have hlib := Imaging.readsRaw_plain
  obtain ⟨r, hr, hwidth, hheight, hpixels⟩ :=
    (raster_of_raw hlib hodd rfl).1 (by decide) 1 (by decide)
  have hcolumns : r.width = 2 := hwidth.trans (by decide)
  have hrows : r.height = 2 := hheight.trans (by decide)
  rw [hcolumns, hrows] at hpixels
  obtain ⟨p, hpixel, hstored⟩ := hpixels 1 (by decide) 1 (by decide)
  have hoffset : Header.size + ((d.texture.levels.take 1).map Level.size).sum.toNat +
      4 * (1 * 2 + 1) = 240 := by decide
  rw [hoffset] at hstored
  exact ⟨hodd, ⟨r, hr, hcolumns, hrows, p, hpixel, hstored⟩, hlarge,
    (raster_of_raw hlib hlarge rfl).2.1 (by decide) (List.cons_ne_nil _ _)⟩

end Decode

end MipTexture
