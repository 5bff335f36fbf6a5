import MipTexture.Proofs.WrittenFile

/-!
# Which bytes are read

Decoding looks at the five fields of the header, at the bytes of the planned levels and at the text
information. Where the levels end follows from the header alone, so files with the same header are
looked at in the same places.

Main statement: `strict_eq_iff_agree`. Two files that decode with a strict boundary give the same
value exactly when they agree in these places, and then they also leave the same log.
-/

namespace MipTexture

namespace Bytes

/-! ### Agreement on some offsets -/

/-- An offset past the end of one string has to be past the end of the other one too. -/
def AgreeOn (seen : Nat → Prop) (a b : Bytes) : Prop := ∀ i, seen i → a[i]? = b[i]?

section

variable {seen other : Nat → Prop} {a b : Bytes}

theorem AgreeOn.mono (h : AgreeOn seen a b) (hsub : ∀ i, other i → seen i) : AgreeOn other a b :=
  fun i hi => h i (hsub i hi)

theorem agreeOn_set {i : Nat} {byte : UInt8} (hi : i < a.length) :
    AgreeOn seen a (a.set i byte) ↔ (seen i → a[i]? = some byte) := by
  constructor
  · intro hagree hseen
    rw [hagree i hseen, List.getElem?_set_self hi]
  · intro hsame j hj
    by_cases heq : i = j
    · subst heq
      rw [hsame hj, List.getElem?_set_self hi]
    · rw [List.getElem?_set_ne heq]

theorem drop_eq_drop_iff (start : Nat) :
    a.drop start = b.drop start ↔ AgreeOn (fun i => start ≤ i) a b := by
  constructor
  · intro h i hi
    have hat : (a.drop start)[i - start]? = (b.drop start)[i - start]? := by rw [h]
    rw [List.getElem?_drop, List.getElem?_drop, Nat.add_sub_cancel' hi] at hat
    exact hat
  · intro h
    apply List.ext_getElem?
    intro i
    rw [List.getElem?_drop, List.getElem?_drop]
    exact h (start + i) (Nat.le_add_right _ _)

theorem slice_eq_slice_iff (start count : Nat) :
    a.slice start count = b.slice start count ↔
      AgreeOn (fun i => start ≤ i ∧ i < start + count) a b := by
  constructor
  · intro h i hi
    have hin : i - start < count := by omega
    have hat : (a.slice start count)[i - start]? = (b.slice start count)[i - start]? := by rw [h]
    rw [slice, slice, List.getElem?_take_of_lt hin, List.getElem?_take_of_lt hin,
      List.getElem?_drop, List.getElem?_drop, Nat.add_sub_cancel' hi.1] at hat
    exact hat
  · intro h
    apply List.ext_getElem?
    intro i
    by_cases hin : i < count
    · rw [slice, slice, List.getElem?_take_of_lt hin, List.getElem?_take_of_lt hin,
        List.getElem?_drop, List.getElem?_drop]
      exact h (start + i) ⟨by omega, by omega⟩
    · rw [slice, slice, List.getElem?_take_eq_none (Nat.not_lt.mp hin),
        List.getElem?_take_eq_none (Nat.not_lt.mp hin)]

theorem eq_of_value_eq (hlength : a.length = b.length) (hvalue : value a = value b) : a = b := by
  rw [← ofNat_value a, hlength, hvalue, ofNat_value b]

end

end Bytes

open Bytes (AgreeOn)

open MipChain (total)

/-! ### The header -/

namespace Header

/-- The offsets of the five fields. -/
def InField (i : Nat) : Prop := i < 4 ∨ 8 ≤ i ∧ i < 14

theorem ofBytes_eq_ofBytes_iff {a b : Bytes} (ha : size ≤ a.length) (hb : size ≤ b.length) :
    ofBytes a = ofBytes b ↔ AgreeOn InField a b := by
  have hsize : size = 128 := rfl
  rw [ofBytes, ofBytes, if_neg (Nat.not_lt.mpr ha), if_neg (Nat.not_lt.mpr hb)]
  constructor
  · intro h
    simp only [Option.some.injEq, mk.injEq, Int.natCast_inj] at h
    obtain ⟨hsizes, hwidths, hheights, hcodes, hcounts⟩ := h
    -- A field has the same length in both files, so its number says its bytes.
    have hfield {start count : Nat} (hend : start + count ≤ 128)
        (hvalue : (a.slice start count).value = (b.slice start count).value) :
        AgreeOn (fun i => start ≤ i ∧ i < start + count) a b := by
      refine (Bytes.slice_eq_slice_iff start count).mp (Bytes.eq_of_value_eq ?_ hvalue)
      rw [Bytes.length_slice, Bytes.length_slice]
      omega
    intro i hi
    have hplace : (0 ≤ i ∧ i < 0 + 4) ∨ (8 ≤ i ∧ i < 8 + 2) ∨ (10 ≤ i ∧ i < 10 + 2) ∨
        (12 ≤ i ∧ i < 12 + 1) ∨ (13 ≤ i ∧ i < 13 + 1) := by
      unfold InField at hi
      omega
    rcases hplace with hin | hin | hin | hin | hin
    · exact hfield (by decide) hsizes i hin
    · exact hfield (by decide) hwidths i hin
    · exact hfield (by decide) hheights i hin
    · exact hfield (by decide) hcodes i hin
    · exact hfield (by decide) hcounts i hin
  · intro h
    have hfield (start count : Nat) (hin : ∀ i, start ≤ i ∧ i < start + count → InField i) :
        a.slice start count = b.slice start count :=
      (Bytes.slice_eq_slice_iff start count).mpr (h.mono hin)
    unfold InField at hfield
    rw [hfield 0 4 (by omega), hfield 8 2 (by omega), hfield 10 2 (by omega),
      hfield 12 1 (by omega), hfield 13 1 (by omega)]

end Header

namespace Decode

/-! ### The levels -/

theorem cut_eq_cut_iff {a b : Bytes} (start : Nat) {plans : List LevelPlan}
    (hsizes : ∀ plan ∈ plans, 0 ≤ plan.size) :
    cut a start plans = cut b start plans ↔
      AgreeOn (fun i => start ≤ i ∧ i < start + (total plans).toNat) a b := by
  constructor
  · intro h
    rw [← Bytes.slice_eq_slice_iff, ← flatten_cut a start hsizes, ← flatten_cut b start hsizes, h]
  · intro h
    induction plans generalizing start with
    | nil => rfl
    | cons plan rest ih =>
      have hrest : ∀ other ∈ rest, 0 ≤ other.size :=
        fun other hother => hsizes other (List.mem_cons_of_mem _ hother)
      have hplan := hsizes plan List.mem_cons_self
      have htotal := MipChain.total_nonneg hrest
      rw [MipChain.total_cons] at h
      have hfirst : a.slice start plan.size.toNat = b.slice start plan.size.toNat :=
        (Bytes.slice_eq_slice_iff _ _).mpr (h.mono (by omega))
      have hothers := ih (start + plan.size.toNat) hrest (h.mono (by omega))
      rw [cut, cut, hfirst, hothers]

/-! ### The whole file -/

/-- The offsets that decoding looks at in a file with this header and this encoding. -/
def Observed (h : Header) (e : Encoding) (i : Nat) : Prop :=
  Header.InField i ∨
    (Header.size ≤ i ∧ (i : Int) < Header.size + total (MipChain.ofHeader h e).levels) ∨
    h.dataEnd ≤ i

section

variable {a b : Bytes} {h k : Header} {e f : Encoding}

theorem Readable.encoding_eq (ha : Readable true a h e) (hb : Readable true b h f) : e = f := by
  have hsame := ha.encoding.symm.trans hb.encoding
  exact Except.ok.inj hsame

theorem Readable.ofBytes_eq_iff (ha : Readable true a h e) (hb : Readable true b k f) :
    AgreeOn Header.InField a b ↔ h = k := by
  rw [← Header.ofBytes_eq_ofBytes_iff (Header.size_le_of_ofBytes ha.header)
    (Header.size_le_of_ofBytes hb.header), ha.header, hb.header, Option.some_inj]

theorem agreeOn_observed_iff (ha : Readable true a h e) :
    AgreeOn (Observed h e) a b ↔ AgreeOn Header.InField a b ∧
      cut a Header.size (MipChain.ofHeader h e).levels =
        cut b Header.size (MipChain.ofHeader h e).levels ∧
      a.drop h.dataEnd.toNat = b.drop h.dataEnd.toNat := by
  have hsizes := size_nonneg_of_lookup ha.encoding
  have htotal := MipChain.total_nonneg hsizes
  rw [cut_eq_cut_iff _ hsizes, Bytes.drop_eq_drop_iff]
  constructor
  · intro hagree
    refine ⟨hagree.mono fun i hi => .inl hi, hagree.mono ?_, hagree.mono ?_⟩
    · intro i hi
      exact .inr (.inl (by omega))
    · intro i hi
      exact .inr (.inr (by omega))
  · rintro ⟨hfields, hlevels, htxi⟩ i (hi | hi | hi)
    · exact hfields i hi
    · exact hlevels i (by omega)
    · exact htxi i (by omega)

theorem valueIn_eq_valueIn_iff (ha : Readable true a h e) (hb : Readable true b k f) :
    valueIn a h e = valueIn b k f ↔ AgreeOn (Observed h e) a b := by
  rw [agreeOn_observed_iff ha, ha.ofBytes_eq_iff hb]
  constructor
  · intro hvalue
    have hheader : h = k := congrArg Decoded.header hvalue
    subst hheader
    -- The encoding is no part of the value, but the code in the header says it.
    have hencoding := ha.encoding_eq hb
    subst hencoding
    exact ⟨rfl, congrArg (fun d => d.texture.levels) hvalue, congrArg Decoded.txi hvalue⟩
  · rintro ⟨rfl, hlevels, htxi⟩
    have hencoding := ha.encoding_eq hb
    subst hencoding
    rw [valueIn, valueIn, hlevels, htxi]

theorem Readable.log (ha : Readable true a h e) (name : Option String) :
    (bytes name true a).log = .header h :: (MipChain.ofHeader h e).notes ++
      [.txiRead (a.length - h.dataEnd.toNat)] := by
  rw [bytes_eq, contents_of_complete (Stream.soundAt_ofBytes a) ha.header ha.encoding
    (ha.region rfl)]

theorem length_eq_of_agree (ha : Readable true a h e) (hb : Readable true b h e)
    (hagree : AgreeOn (Observed h e) a b) : a.length = b.length := by
  have htxi := congrArg List.length ((agreeOn_observed_iff ha).mp hagree).2.2
  have hfirst : h.dataEnd ≤ a.length := ha.region rfl
  have hsecond : h.dataEnd ≤ b.length := hb.region rfl
  rw [List.length_drop, List.length_drop] at htxi
  omega

theorem Readable.of_agree (ha : Readable true a h e) (hlength : a.length = b.length)
    (hagree : AgreeOn (Observed h e) a b) : Readable true b h e := by
  have hlong := Header.size_le_of_ofBytes ha.header
  have hfields := ((agreeOn_observed_iff ha).mp hagree).1
  rw [← Header.ofBytes_eq_ofBytes_iff hlong (hlength ▸ hlong), ha.header] at hfields
  refine ⟨hfields.symm, ha.encoding, ?_, ?_⟩
  · rw [← hlength]
    exact ha.levels
  · rw [← hlength]
    exact ha.region

end

/-- Files that decode give the same value exactly when they agree on the header fields, on the
planned levels and from the declared end on; they then have the same length and leave the same log.
A byte of a file can be replaced without a change of the value exactly when it stands elsewhere. -/
theorem strict_eq_iff_agree (name other : Option String) {a b : Bytes} {d d' : Decoded}
    (ha : (bytes name true a).answer = .ok d) (hb : (bytes other true b).answer = .ok d') :
    ∃ e, Encoding.ofCode d.header.encoding = some e ∧
      (d = d' ↔ AgreeOn (Observed d.header e) a b) ∧
      (AgreeOn (Observed d.header e) a b →
        a.length = b.length ∧ (bytes name true a).log = (bytes other true b).log) ∧
      ∀ i < a.length, ∀ byte, (bytes name true (a.set i byte)).answer = .ok d ↔
        (Observed d.header e i → a[i]? = some byte) := by
  obtain ⟨h, e, hfirst, rfl⟩ := answer_eq_ok_iff.mp ha
  obtain ⟨k, f, hsecond, rfl⟩ := answer_eq_ok_iff.mp hb
  refine ⟨e, (Encoding.lookup_eq_ok_iff _ _).mp hfirst.encoding,
    valueIn_eq_valueIn_iff hfirst hsecond, ?_, ?_⟩
  · intro hagree
    have hheader := (hfirst.ofBytes_eq_iff hsecond).mp ((agreeOn_observed_iff hfirst).mp hagree).1
    subst hheader
    have hencoding := hfirst.encoding_eq hsecond
    subst hencoding
    have hlength := length_eq_of_agree hfirst hsecond hagree
    refine ⟨hlength, ?_⟩
    rw [hfirst.log, hsecond.log, hlength]
  · intro i hi byte
    rw [← Bytes.agreeOn_set hi]
    -- That the changed file decodes at all is given one way and follows the other way.
    constructor
    · intro hanswer
      obtain ⟨k', f', hchanged, hvalue⟩ := answer_eq_ok_iff.mp hanswer
      exact (valueIn_eq_valueIn_iff hfirst hchanged).mp hvalue.symm
    · intro hagree
      have hchanged := hfirst.of_agree List.length_set.symm hagree
      rw [hchanged.answer name]
      exact congrArg Except.ok ((valueIn_eq_valueIn_iff hfirst hchanged).mpr hagree).symm

/-- Other bytes in the gaps of the header and after the only level give the same value; another
first byte of the level does not. -/
theorem strict_eq_of_other_slack :
    let d : Decoded :=
      ⟨⟨7, 1, 1, 0x04, 1⟩, ⟨Encoding.raw.layout, [⟨1, 1, 4, [10, 20, 30, 40]⟩]⟩, [65]⟩
    let a := d.file (List.replicate 4 0) (List.replicate 114 0) [7, 8, 9]
    let b := d.file [1, 2, 3, 4] (List.replicate 114 5) [0, 0, 0]
    (bytes none true a).answer = .ok d ∧ (bytes none true b).answer = .ok d ∧ a ≠ b ∧
      AgreeOn (Observed d.header Encoding.raw) a b ∧
      (bytes none true a).log = (bytes none true b).log ∧
      (bytes none true (a.set 128 11)).answer ≠ .ok d := by
  intro d a b
  have ha : (bytes none true a).answer = .ok d := by decide +kernel
  have hb : (bytes none true b).answer = .ok d := by decide +kernel
  obtain ⟨e, hcode, hvalue, hlog, hbyte⟩ := strict_eq_iff_agree none none ha hb
  have he : Encoding.raw = e := Option.some.inj hcode
  subst he
  have hagree := hvalue.mp rfl
  refine ⟨ha, hb, by decide +kernel, hagree, (hlog hagree).2, ?_⟩
  intro hanswer
  have hsame := (hbyte 128 (by decide +kernel) 11).mp hanswer
    (.inr (.inl ⟨by decide, by decide +kernel⟩))
  revert hsame
  decide +kernel

end Decode

end MipTexture
