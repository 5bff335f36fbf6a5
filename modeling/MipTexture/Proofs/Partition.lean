import MipTexture.Proofs.Defect

/-!
# How a file is divided

With a strict boundary a file that decodes is divided without loss: its header, the data of its
levels one after another, bytes that belong to no level up to the declared end, and the text
information from there on.

Main statement: `strict_bytes_partition`, which also says exactly which files decode.
-/

namespace MipTexture.Decode

open MipChain (total)

/-- What was decoded accounts for every byte of the file, in order. The numbers of the header are
little-endian fields; each level starts where the sizes before it end; and the text information
starts at the declared end, wherever the last level ended. -/
structure Partition (data : Bytes) (decoded : Decoded) : Prop where
  dataSize : decoded.header.dataSize = (data.slice 0 4).value
  width : decoded.header.width = (data.slice 8 2).value
  height : decoded.header.height = (data.slice 10 2).value
  encoding : decoded.header.encoding = (data.slice 12 1).value
  levelCount : decoded.header.levelCount = (data.slice 13 1).value
  planned : ∃ e, Encoding.ofCode decoded.header.encoding = some e ∧
    decoded.texture.layout = e.layout ∧
    decoded.texture.levels.map Level.plan = (MipChain.ofHeader decoded.header e).levels
  levels : ∀ i level, decoded.texture.levels[i]? = some level →
    level.data = data.slice
      (Header.size + ((decoded.texture.levels.take i).map Level.size).sum.toNat)
      level.size.toNat ∧
    (level.data.length : Int) = level.size
  fits : decoded.texture.dataSize ≤ decoded.header.dataSize
  txi : decoded.txi = data.drop (Header.size + (data.slice 0 4).value)
  whole : data = data.take Header.size ++
    ((decoded.texture.levels.map Level.data).flatten ++
      (data.slice (Header.size + decoded.texture.dataSize.toNat)
        (decoded.header.dataSize - decoded.texture.dataSize).toNat ++ decoded.txi))

theorem sum_size_eq_total (levels : List Level) :
    (levels.map Level.size).sum = total (levels.map Level.plan) := by
  rw [total, List.map_map]
  rfl

theorem fields_of_ofBytes {data : Bytes} {h : Header} (hread : Header.ofBytes data = some h) :
    h = ⟨(data.slice 0 4).value, (data.slice 8 2).value, (data.slice 10 2).value,
      (data.slice 12 1).value, (data.slice 13 1).value⟩ := by
  have hlong := Nat.not_lt.mpr (Header.size_le_of_ofBytes hread)
  rw [Header.ofBytes, if_neg hlong] at hread
  exact (Option.some.inj hread).symm

theorem dataEnd_of_ofBytes {data : Bytes} {h : Header} (hread : Header.ofBytes data = some h) :
    h.dataEnd = (Header.size + (data.slice 0 4).value : Nat) := by
  have hdataSize : h.dataSize = (data.slice 0 4).value :=
    congrArg Header.dataSize (fields_of_ofBytes hread)
  rw [Header.dataEnd, hdataSize, Int.natCast_add]

theorem take_slice_drop (data : Bytes) (start count : Nat) :
    data.take start ++ (data.slice start count ++ data.drop (start + count)) = data := by
  have hrest : data.slice start count ++ data.drop (start + count) = data.drop start := by
    rw [Bytes.slice, ← List.drop_drop, List.take_append_drop]
  rw [hrest, List.take_append_drop]

section

variable {data : Bytes} {h : Header} {e : Encoding}

theorem slice_cut_level (hlookup : Encoding.lookup h = .ok e)
    (hfits : Header.size + total (MipChain.ofHeader h e).levels ≤ data.length) {i : Nat}
    {level : Level} (hlevel : (cut data Header.size (MipChain.ofHeader h e).levels)[i]? =
      some level) :
    level.data = data.slice
      (Header.size + (total ((MipChain.ofHeader h e).levels.take i)).toNat)
      level.size.toNat ∧
    (level.data.length : Int) = level.size := by
  have hsizes := size_nonneg_of_lookup hlookup
  rw [getElem?_cut data Header.size hsizes i] at hlevel
  obtain ⟨plan, hplan, rfl⟩ := Option.map_eq_some_iff.mp hlevel
  have hbefore := MipChain.total_take_nonneg hsizes i
  have hplanned := hsizes plan (List.mem_of_getElem? hplan)
  have hend := MipChain.total_take_succ hplan
  have hle := MipChain.total_take_le hsizes (i + 1)
  have hlength := Bytes.length_slice data
    (Header.size + (total ((MipChain.ofHeader h e).levels.take i)).toNat) plan.size.toNat
  refine ⟨rfl, ?_⟩
  show ((data.slice _ plan.size.toNat).length : Int) = plan.size
  omega

theorem Readable.partition (hreadable : Readable true data h e) :
    Partition data ⟨h, ⟨e.layout, cut data Header.size (MipChain.ofHeader h e).levels⟩,
      data.drop h.dataEnd.toNat⟩ := by
  obtain ⟨hread, hlookup, hfits, hregion⟩ := hreadable
  have hend : h.dataEnd ≤ data.length := hregion rfl
  have hheader := Header.fits_of_ofBytes hread
  have hsizes := size_nonneg_of_lookup hlookup
  have hfields := fields_of_ofBytes hread
  have hnonneg := MipChain.total_nonneg hsizes
  have htotal := MipChain.total_ofHeader_le hheader e
  have hsum (levels : List Level) (i : Nat) :
      ((levels.take i).map Level.size).sum = total ((levels.map Level.plan).take i) := by
    rw [sum_size_eq_total, List.map_take]
  have hdataSize : Texture.dataSize
      ⟨e.layout, cut data Header.size (MipChain.ofHeader h e).levels⟩ =
        total (MipChain.ofHeader h e).levels := by
    rw [Texture.dataSize, sum_size_eq_total, map_plan_cut]
  have hboundary : h.dataEnd.toNat = Header.size + (data.slice 0 4).value := by
    rw [dataEnd_of_ofBytes hread, Int.toNat_natCast]
  refine ⟨congrArg Header.dataSize hfields, congrArg Header.width hfields,
    congrArg Header.height hfields, congrArg Header.encoding hfields,
    congrArg Header.levelCount hfields,
    ⟨e, (Encoding.lookup_eq_ok_iff h e).mp hlookup, rfl, map_plan_cut _ _ _⟩, ?_, ?_, ?_, ?_⟩
  · intro i level hlevel
    rw [hsum, map_plan_cut]
    exact slice_cut_level hlookup hfits hlevel
  · rw [hdataSize]
    exact htotal
  · rw [hboundary]
  · -- The slack closes the gap between the last level and the declared end.
    have hgap : h.dataEnd.toNat = Header.size + (total (MipChain.ofHeader h e).levels).toNat +
        (h.dataSize - total (MipChain.ofHeader h e).levels).toNat := by
      unfold Header.dataEnd
      omega
    have hslack := take_slice_drop (data.drop Header.size)
      (total (MipChain.ofHeader h e).levels).toNat
      (h.dataSize - total (MipChain.ofHeader h e).levels).toNat
    have hsplit := List.take_append_drop Header.size data
    rw [hdataSize, flatten_cut data Header.size hsizes, hgap]
    rw [Bytes.slice, List.drop_drop, List.drop_drop, ← Nat.add_assoc] at hslack
    rw [← hslack] at hsplit
    exact hsplit.symm

theorem exists_ofCode_iff (byte : UInt8) :
    (∃ e, Encoding.ofCode byte.toNat = some e) ↔ byte ∈ ([0x04, 0x0A, 0x0C] : Bytes) := by
  have hmem : byte ∈ ([0x04, 0x0A, 0x0C] : Bytes) ↔
      byte.toNat = 0x04 ∨ byte.toNat = 0x0A ∨ byte.toNat = 0x0C := by
    simp only [List.mem_cons, List.not_mem_nil, or_false, ← UInt8.toNat_inj]
    rfl
  rw [hmem, ← Option.ne_none_iff_exists', ne_eq, Encoding.ofCode_eq_none_iff]
  omega

theorem readable_iff : (∃ h e, Readable true data h e) ↔
    Header.size ≤ data.length ∧
      (∃ byte ∈ ([0x04, 0x0A, 0x0C] : Bytes), data[12]? = some byte) ∧
      Header.size + (data.slice 0 4).value ≤ data.length := by
  constructor
  · rintro ⟨h, e, hread, hlookup, -, hregion⟩
    have hend : h.dataEnd ≤ data.length := hregion rfl
    rw [dataEnd_of_ofBytes hread] at hend
    obtain ⟨byte, hbyte, hencoding⟩ := Header.encoding_of_ofBytes hread
    have hcode := (Encoding.lookup_eq_ok_iff h e).mp hlookup
    rw [hencoding] at hcode
    exact ⟨Header.size_le_of_ofBytes hread, ⟨byte, (exists_ofCode_iff byte).mp ⟨e, hcode⟩, hbyte⟩,
      Int.ofNat_le.mp hend⟩
  · rintro ⟨hlong, ⟨byte, hmem, hbyte⟩, hend⟩
    obtain ⟨e, hcode⟩ := (exists_ofCode_iff byte).mpr hmem
    cases hread : Header.ofBytes data with
    | none =>
      have hshort := (Header.ofBytes_eq_none_iff data).mp hread
      omega
    | some h =>
      rw [← encoding_eq_of_byte hread hbyte] at hcode
      have hdataEnd : h.dataEnd ≤ data.length := by
        rw [dataEnd_of_ofBytes hread]
        exact Int.ofNat_le.mpr hend
      have htotal := MipChain.total_ofHeader_le (Header.fits_of_ofBytes hread) e
      refine ⟨h, e, hread, (Encoding.lookup_eq_ok_iff h e).mpr hcode, ?_, fun _ => hdataEnd⟩
      unfold Header.dataEnd at hdataEnd
      omega

end

/-- With a strict boundary a file decodes exactly when it has a header of a supported encoding and
the whole declared region, and then what was decoded accounts for all its bytes. -/
theorem strict_bytes_partition (name : Option String) (data : Bytes) :
    ((∃ decoded, (bytes name true data).answer = .ok decoded) ↔
      Header.size ≤ data.length ∧
        (∃ byte ∈ ([0x04, 0x0A, 0x0C] : Bytes), data[12]? = some byte) ∧
        Header.size + (data.slice 0 4).value ≤ data.length) ∧
    ∀ decoded, (bytes name true data).answer = .ok decoded → Partition data decoded := by
  have hreadable : ∀ decoded, (bytes name true data).answer = .ok decoded →
      ∃ h e, Readable true data h e := by
    intro decoded hanswer
    rcases defect_or_readable true data with ⟨cause, hdefect⟩ | hreadable
    · rw [answer_of_defect hdefect name] at hanswer
      cases hanswer
    · exact hreadable
  constructor
  · rw [← readable_iff]
    constructor
    · rintro ⟨decoded, hanswer⟩
      exact hreadable decoded hanswer
    · rintro ⟨h, e, hfile⟩
      exact ⟨_, hfile.answer name⟩
  · intro decoded hanswer
    obtain ⟨h, e, hfile⟩ := hreadable decoded hanswer
    rw [hfile.answer name] at hanswer
    rw [← Except.ok.inj hanswer]
    exact hfile.partition

/-- The second level of this file would need eight bytes where three are left: they are in no level
and not in the text information. -/
theorem partition_with_slack :
    let data : Bytes := Header.pack ⟨35, 8, 8, 0x0A, 2⟩ (List.replicate 4 0)
      (List.replicate 114 0) ++ (List.replicate 32 1 ++ [7, 8, 9] ++ [65, 10])
    ∃ decoded, (bytes none true data).answer = .ok decoded ∧ Partition data decoded ∧
      decoded.texture.levels = [⟨8, 8, 32, List.replicate 32 1⟩] ∧ decoded.txi = [65, 10] := by
  intro data
  obtain ⟨decoded, hanswer⟩ := (strict_bytes_partition none data).1.mpr
    ⟨by decide +kernel, ⟨0x0A, by decide +kernel, by decide +kernel⟩, by decide +kernel⟩
  have hvalue : (bytes none true data).answer = .ok ⟨⟨35, 8, 8, 0x0A, 2⟩,
      ⟨Encoding.dxt1.layout, [⟨8, 8, 32, List.replicate 32 1⟩]⟩, [65, 10]⟩ := by
    decide +kernel
  have hdecoded := Except.ok.inj (hanswer.symm.trans hvalue)
  refine ⟨decoded, hanswer, (strict_bytes_partition none data).2 decoded hanswer, ?_, ?_⟩
  · rw [hdecoded]
  · rw [hdecoded]

end MipTexture.Decode
