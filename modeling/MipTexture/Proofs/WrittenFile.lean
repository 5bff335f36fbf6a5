import MipTexture.Proofs.Partition

/-!
# Writing a file

A decoded value can be written again: its header, the data of its levels one after another, bytes up
to the declared end, and its text information. A value is canonical when its header fits its fields,
its levels are the ones that the header plans, and each has as much data as its size says. Nothing
else is asked of it: the sizes of a chain never exceed the declared size, so there is always room for
the levels.

Main statement: `strict_image_iff_canonical`. The canonical values are exactly what decoding with a
strict boundary gives, and each is read from all the files that write it.
-/

namespace MipTexture

open MipChain (total)

/-! ### Header bytes -/

theorem Header.pack_of_ofBytes {data : Bytes} {h : Header} (hread : Header.ofBytes data = some h) :
    h.pack (data.slice 4 4) (data.slice 14 114) = data.take Header.size := by
  have hlong := Header.size_le_of_ofBytes hread
  have hsize : Header.size = 128 := rfl
  have hfield (start count : Nat) (hend : start + count ≤ 128) :
      Bytes.ofNat count (data.slice start count).value = data.slice start count := by
    have hlength : (data.slice start count).length = count := by
      rw [Bytes.length_slice]
      omega
    have hwritten := Bytes.ofNat_value (data.slice start count)
    rw [hlength] at hwritten
    exact hwritten
  rw [Decode.fields_of_ofBytes hread]
  simp only [pack, Int.toNat_natCast, hfield 0 4 (by omega), hfield 8 2 (by omega),
    hfield 10 2 (by omega), hfield 12 1 (by omega), hfield 13 1 (by omega)]
  rw [Bytes.slice_append_slice data 0 4 4, Bytes.slice_append_slice data 0 8 2,
    Bytes.slice_append_slice data 0 10 2, Bytes.slice_append_slice data 0 12 1,
    Bytes.slice_append_slice data 0 13 1, Bytes.slice_append_slice data 0 14 114]
  rfl

namespace Decoded

structure Canonical (d : Decoded) : Prop where
  fits : d.header.Fits
  planned : ∃ e, Encoding.ofCode d.header.encoding = some e ∧ d.texture.layout = e.layout ∧
    d.texture.levels.map Level.plan = (MipChain.ofHeader d.header e).levels
  full : ∀ level ∈ d.texture.levels, (level.data.length : Int) = level.size

/-- The file of a value. `gap` and `tail` fill the bytes of the header that carry no meaning, and
`slack` stands between the last level and the declared end. -/
def file (d : Decoded) (gap tail slack : Bytes) : Bytes :=
  d.header.pack gap tail ++ ((d.texture.levels.map Level.data).flatten ++ (slack ++ d.txi))

/-- The bytes that are left to choose have the number that the header leaves for them. -/
structure Fills (d : Decoded) (gap tail slack : Bytes) : Prop where
  gap : gap.length = 4
  tail : tail.length = 114
  slack : (slack.length : Int) = d.header.dataSize - d.texture.dataSize

theorem dataSize_eq_total {d : Decoded} {e : Encoding}
    (hlevels : d.texture.levels.map Level.plan = (MipChain.ofHeader d.header e).levels) :
    d.texture.dataSize = total (MipChain.ofHeader d.header e).levels := by
  rw [Texture.dataSize, Decode.sum_size_eq_total, hlevels]

theorem length_flatten_data {levels : List Level}
    (hfull : ∀ level ∈ levels, (level.data.length : Int) = level.size) :
    ((levels.map Level.data).flatten.length : Int) = (levels.map Level.size).sum := by
  induction levels with
  | nil => rfl
  | cons level rest ih =>
    have hlevel := hfull level List.mem_cons_self
    have hrest := ih fun other hother => hfull other (List.mem_cons_of_mem _ hother)
    simp only [List.map_cons, List.flatten_cons, List.sum_cons, List.length_append]
    omega

namespace Canonical

variable {d : Decoded}

theorem dataSize_nonneg (hd : d.Canonical) : 0 ≤ d.texture.dataSize := by
  have hlength := length_flatten_data hd.full
  rw [Texture.dataSize]
  omega

theorem dataSize_le (hd : d.Canonical) : d.texture.dataSize ≤ d.header.dataSize := by
  obtain ⟨e, -, -, hlevels⟩ := hd.planned
  rw [dataSize_eq_total hlevels]
  exact MipChain.total_ofHeader_le hd.fits e

theorem exists_fills (hd : d.Canonical) : ∃ gap tail slack, d.Fills gap tail slack := by
  have hroom := hd.dataSize_le
  refine ⟨List.replicate 4 0, List.replicate 114 0,
    List.replicate (d.header.dataSize - d.texture.dataSize).toNat 0, rfl, rfl, ?_⟩
  rw [List.length_replicate]
  omega

end Canonical

end Decoded

namespace Decode

/-! ### Decoding what was written -/

theorem cut_flatten (before after : Bytes) {levels : List Level}
    (hfull : ∀ level ∈ levels, (level.data.length : Int) = level.size) :
    cut (before ++ ((levels.map Level.data).flatten ++ after)) before.length
      (levels.map Level.plan) = levels := by
  -- The data of a level that was cut belongs to what stands before the rest.
  induction levels generalizing before with
  | nil => rfl
  | cons level rest ih =>
    have hsize : level.plan.size.toNat = level.data.length := by
      have hlevel := hfull level List.mem_cons_self
      show level.size.toNat = level.data.length
      omega
    have hrest := ih (before ++ level.data)
      fun other hother => hfull other (List.mem_cons_of_mem _ hother)
    rw [List.length_append, List.append_assoc] at hrest
    rw [List.map_cons, List.map_cons, List.flatten_cons, List.append_assoc, cut, hsize,
      Bytes.slice_append, hrest]
    rfl

section

variable {d : Decoded} {gap tail slack : Bytes}

theorem length_file (hd : d.Canonical) (hfills : d.Fills gap tail slack) :
    ((d.file gap tail slack).length : Int) = d.header.dataEnd + d.txi.length := by
  have hpack := Header.length_pack d.header gap tail hfills.gap hfills.tail
  have hlevels := Decoded.length_flatten_data hd.full
  have hslack := hfills.slack
  rw [Texture.dataSize] at hslack
  simp only [Decoded.file, List.length_append, Header.dataEnd]
  omega

theorem ofBytes_file (hd : d.Canonical) (hfills : d.Fills gap tail slack) :
    Header.ofBytes (d.file gap tail slack) = some d.header :=
  Header.ofBytes_pack hd.fits hfills.gap hfills.tail _

theorem drop_file (hd : d.Canonical) (hfills : d.Fills gap tail slack) :
    (d.file gap tail slack).drop d.header.dataEnd.toNat = d.txi := by
  have hlength := length_file hd hfills
  have hnonneg := hd.fits.dataSize.1
  have hsplit : d.file gap tail slack = (d.header.pack gap tail ++
      ((d.texture.levels.map Level.data).flatten ++ slack)) ++ d.txi := by
    simp only [Decoded.file, List.append_assoc]
  rw [hsplit] at hlength ⊢
  refine List.drop_left' ?_
  rw [List.length_append] at hlength
  unfold Header.dataEnd at hlength ⊢
  omega

theorem answer_file (name : Option String) (hd : d.Canonical) (hfills : d.Fills gap tail slack) :
    (bytes name true (d.file gap tail slack)).answer = .ok d := by
  obtain ⟨e, hcode, hlayout, hlevels⟩ := hd.planned
  have hend := length_file hd hfills
  have hroom := hd.dataSize_le
  have hreadable : Readable true (d.file gap tail slack) d.header e := by
    refine ⟨ofBytes_file hd hfills, (Encoding.lookup_eq_ok_iff _ _).mpr hcode, ?_, ?_⟩
    · rw [← Decoded.dataSize_eq_total hlevels]
      unfold Header.dataEnd at hend
      omega
    · intro _
      omega
  have hcut : cut (d.file gap tail slack) Header.size (MipChain.ofHeader d.header e).levels =
      d.texture.levels := by
    rw [← hlevels, ← Header.length_pack d.header gap tail hfills.gap hfills.tail]
    exact cut_flatten _ _ hd.full
  rw [hreadable.answer name, hcut, drop_file hd hfills, ← hlayout]

end

/-! ### What was decoded can be written -/

/-- What a file with this header and this encoding holds. -/
def valueIn (data : Bytes) (h : Header) (e : Encoding) : Decoded :=
  ⟨h, ⟨e.layout, cut data Header.size (MipChain.ofHeader h e).levels⟩, data.drop h.dataEnd.toNat⟩

theorem answer_eq_ok_iff {name : Option String} {strict : Bool} {data : Bytes} {d : Decoded} :
    (bytes name strict data).answer = .ok d ↔
      ∃ h e, Readable strict data h e ∧ valueIn data h e = d := by
  constructor
  · intro hanswer
    rcases defect_or_readable strict data with ⟨cause, hdefect⟩ | ⟨h, e, hreadable⟩
    · rw [answer_of_defect hdefect name] at hanswer
      cases hanswer
    · rw [hreadable.answer name] at hanswer
      exact ⟨h, e, hreadable, Except.ok.inj hanswer⟩
  · rintro ⟨h, e, hreadable, rfl⟩
    exact hreadable.answer name

section

variable {data : Bytes} {h : Header} {e : Encoding}

theorem Readable.canonical (hreadable : Readable true data h e) : (valueIn data h e).Canonical := by
  have hpartition : Partition data (valueIn data h e) := hreadable.partition
  refine ⟨Header.fits_of_ofBytes hreadable.header, hpartition.planned, ?_⟩
  intro level hlevel
  obtain ⟨i, hi⟩ := List.mem_iff_getElem?.mp hlevel
  exact (hpartition.levels i level hi).2

theorem Readable.exists_eq_file (hreadable : Readable true data h e) :
    ∃ gap tail slack, (valueIn data h e).Fills gap tail slack ∧
      data = (valueIn data h e).file gap tail slack := by
  have hpartition : Partition data (valueIn data h e) := hreadable.partition
  have hnonneg := hreadable.canonical.dataSize_nonneg
  have hroom : (valueIn data h e).texture.dataSize ≤ h.dataSize :=
    hreadable.canonical.dataSize_le
  have hlong := Header.size_le_of_ofBytes hreadable.header
  have hend : Header.size + h.dataSize ≤ data.length := hreadable.region rfl
  have hsize : Header.size = 128 := rfl
  have hslack := Bytes.length_slice data (Header.size + (valueIn data h e).texture.dataSize.toNat)
    (h.dataSize - (valueIn data h e).texture.dataSize).toNat
  refine ⟨data.slice 4 4, data.slice 14 114,
    data.slice (Header.size + (valueIn data h e).texture.dataSize.toNat)
      (h.dataSize - (valueIn data h e).texture.dataSize).toNat, ⟨?_, ?_, ?_⟩, ?_⟩
  · rw [Bytes.length_slice]
    omega
  · rw [Bytes.length_slice]
    omega
  · show ((data.slice _ _).length : Int) = h.dataSize - (valueIn data h e).texture.dataSize
    omega
  · show data = h.pack (data.slice 4 4) (data.slice 14 114) ++ _
    rw [Header.pack_of_ofBytes hreadable.header]
    exact hpartition.whole

end

/-- Decoding with a strict boundary gives the canonical values and no others. Each is read from the
files that write it, with any bytes where none is asked for, and from nothing else. -/
theorem strict_image_iff_canonical (name : Option String) (d : Decoded) :
    ((∃ data, (bytes name true data).answer = .ok d) ↔ d.Canonical) ∧
    (d.Canonical → d.texture.dataSize ≤ d.header.dataSize ∧
      ∀ data, (bytes name true data).answer = .ok d ↔
        ∃ gap tail slack, d.Fills gap tail slack ∧ data = d.file gap tail slack) := by
  refine ⟨⟨?_, ?_⟩, ?_⟩
  · rintro ⟨data, hanswer⟩
    obtain ⟨h, e, hreadable, rfl⟩ := answer_eq_ok_iff.mp hanswer
    exact hreadable.canonical
  · intro hd
    obtain ⟨gap, tail, slack, hfills⟩ := hd.exists_fills
    exact ⟨d.file gap tail slack, answer_file name hd hfills⟩
  · intro hd
    refine ⟨hd.dataSize_le, fun data => ⟨?_, ?_⟩⟩
    · intro hanswer
      obtain ⟨h, e, hreadable, rfl⟩ := answer_eq_ok_iff.mp hanswer
      exact hreadable.exists_eq_file
    · rintro ⟨gap, tail, slack, hfills, rfl⟩
      exact answer_file name hd hfills

/-- Two levels with three bytes of slack after them and no text information. -/
theorem canonical_two_levels :
    let d : Decoded := ⟨⟨23, 2, 2, 0x04, 9⟩, ⟨Encoding.raw.layout,
      [⟨2, 2, 16, List.replicate 16 1⟩, ⟨1, 1, 4, [10, 20, 30, 40]⟩]⟩, []⟩
    d.Canonical ∧ (∃ data, (bytes none true data).answer = .ok d) ∧
      (bytes none true (d.file [1, 2, 3, 4] (List.replicate 114 5) [7, 8, 9])).answer = .ok d := by
  intro d
  have hd : d.Canonical :=
    ⟨⟨by decide, by decide, by decide, by decide, by decide⟩,
      ⟨Encoding.raw, rfl, rfl, by decide +kernel⟩, by decide⟩
  refine ⟨hd, (strict_image_iff_canonical none d).1.mpr hd, ?_⟩
  exact (((strict_image_iff_canonical none d).2 hd).2 _).mpr
    ⟨_, _, _, ⟨rfl, rfl, by decide⟩, rfl⟩

end Decode

end MipTexture
