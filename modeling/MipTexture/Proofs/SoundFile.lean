import MipTexture.Proofs.ChainForm
import MipTexture.Proofs.SoundDecode

/-!
# Decoding a whole file without faults

The parts of a file put together: for each way in which a file can be cut or can name an encoding
that is not supported, what decoding answers and writes down, and the same for a file that is all
there.

Main statements: `contents_of_complete` and `contents_of_lenient` for the files that decode, and
`contents_of_covers` for a file that ends inside a level.
-/

namespace MipTexture.Decode

open MipChain (total)

/-! ### Levels of a supported encoding -/

theorem supported_of_lookup {h : Header} {e : Encoding} (hlookup : Encoding.lookup h = .ok e) :
    e ∈ Encoding.supported :=
  (Encoding.mem_supported_of_ofCode ((Encoding.lookup_eq_ok_iff h e).mp hlookup)).1

theorem size_nonneg_of_lookup {h : Header} {e : Encoding} (hlookup : Encoding.lookup h = .ok e) :
    ∀ plan ∈ (MipChain.ofHeader h e).levels, 0 ≤ plan.size :=
  fun _ hplan => Int.le_of_lt (MipChain.size_ofHeader (supported_of_lookup hlookup) hplan).1

/-! ### Files that are cut or rejected -/

section

variable {s : Stream} {data : Bytes} {strict : Bool} {h : Header} {e : Encoding}

theorem contents_of_short (hs : s.SoundAt data 0) (hshort : data.length < Header.size) :
    (contents strict s).1 =
      ⟨.error (.format (.shortRead "TXB header" Header.size data.length)), []⟩ := by
  obtain ⟨later, hrun, -⟩ := header_of_short hs (by omega)
  have hopening : opening s =
      (.error (.format (.shortRead "TXB header" Header.size (data.length : Int))), later) :=
    Reading.bind_error hrun
  rw [contents, hopening]

theorem contents_of_rejected (hs : s.SoundAt data 0) (hread : Header.ofBytes data = some h)
    {cause : FormatError} (hlookup : Encoding.lookup h = .error cause) :
    (contents strict s).1 = ⟨.error (.format cause), []⟩ := by
  obtain ⟨later, hrun, -⟩ := header_of_ofBytes hs (h := h) hread
  have hanswer : Reading.ofExcept ((Encoding.lookup h).mapError .format) later =
      (.error (.format cause), later) := by
    rw [hlookup]
    rfl
  have hopening : opening s = (.error (.format cause), later) :=
    (Reading.bind_ok hrun).trans (Reading.bind_error hanswer)
  rw [contents, hopening]

theorem opening_of_lookup (hs : s.SoundAt data 0) (hread : Header.ofBytes data = some h)
    (hlookup : Encoding.lookup h = .ok e) :
    ∃ later, opening s = (.ok (h, e), later) ∧ later.SoundAt data Header.size := by
  obtain ⟨later, hrun, hlater⟩ := header_of_ofBytes hs (h := h) hread
  have hanswer : Reading.ofExcept ((Encoding.lookup h).mapError .format) later =
      (.ok e, later) := by
    rw [hlookup]
    rfl
  rw [Nat.zero_add] at hlater
  exact ⟨later, (Reading.bind_ok hrun).trans (Reading.bind_ok hanswer), hlater⟩

theorem contents_of_body_error {mid last : Stream} {cause : Error}
    (hopening : opening s = (.ok (h, e), mid))
    (hbody : body strict h e (MipChain.ofHeader h e) mid = (.error cause, last)) :
    (contents strict s).1 =
      ⟨.error cause, .header h :: (MipChain.ofHeader h e).notes⟩ := by
  rw [contents, hopening]
  dsimp only
  rw [hbody]

theorem contents_of_body_ok {mid last : Stream} {decoded : Decoded} {note : Note}
    (hopening : opening s = (.ok (h, e), mid))
    (hbody : body strict h e (MipChain.ofHeader h e) mid = (.ok (decoded, note), last)) :
    (contents strict s).1 =
      ⟨.ok decoded, .header h :: (MipChain.ofHeader h e).notes ++ [note]⟩ := by
  rw [contents, hopening]
  dsimp only
  rw [hbody]

/-- A file that ends inside a level is cut there: the levels before it are all there. -/
theorem contents_of_covers (hs : s.SoundAt data 0) (hread : Header.ofBytes data = some h)
    (hlookup : Encoding.lookup h = .ok e) {number : Nat} {plan : LevelPlan}
    (hcovers : MipChain.Covers (MipChain.ofHeader h e).levels
      ((data.length : Int) - Header.size) number plan) :
    (contents strict s).1 =
      ⟨.error (.format (.shortRead (levelName number plan) plan.size
          ((data.length : Int) - Header.size -
            total ((MipChain.ofHeader h e).levels.take number)))),
        .header h :: (MipChain.ofHeader h e).notes⟩ := by
  obtain ⟨hplanned, hstarts, hends⟩ := hcovers
  obtain ⟨mid, hopening, hmid⟩ := opening_of_lookup hs hread hlookup
  have hsizes := size_nonneg_of_lookup hlookup
  have hbefore := MipChain.total_take_nonneg hsizes number
  obtain ⟨hlt, hget⟩ := List.getElem?_eq_some_iff.mp hplanned
  have hmem : plan ∈ (MipChain.ofHeader h e).levels := List.mem_of_getElem? hplanned
  have hbounds := MipChain.size_ofHeader (supported_of_lookup hlookup) hmem
  have hsplit : (MipChain.ofHeader h e).levels.take number ++
      plan :: (MipChain.ofHeader h e).levels.drop (number + 1) =
        (MipChain.ofHeader h e).levels := by
    rw [← hget, List.getElem_cons_drop, List.take_append_drop]
  have hfits : Header.size + total ((MipChain.ofHeader h e).levels.take number) ≤
      data.length := by omega
  have hshort : data.length <
      Header.size + total ((MipChain.ofHeader h e).levels.take number) + plan.size := by omega
  obtain ⟨later, hlevels, -⟩ := levelsFrom_of_short hmid 0
    ((MipChain.ofHeader h e).levels.drop (number + 1))
    (fun other hother => hsizes other (List.mem_of_mem_take hother))
    (Or.inr hfits) hbounds.1 (by omega) hshort
  have hnumber : 0 + ((MipChain.ofHeader h e).levels.take number).length = number := by
    rw [List.length_take]
    omega
  have hleft : ((data.length - (Header.size +
      (total ((MipChain.ofHeader h e).levels.take number)).toNat) : Nat) : Int) =
        (data.length : Int) - Header.size -
          total ((MipChain.ofHeader h e).levels.take number) := by omega
  rw [hsplit, hnumber, hleft] at hlevels
  exact contents_of_body_error hopening (Reading.bind_error hlevels)

/-! ### Files whose levels are all there -/

theorem levels_of_fits (hmid : s.SoundAt data Header.size)
    (hlookup : Encoding.lookup h = .ok e)
    (hfits : Header.size + total (MipChain.ofHeader h e).levels ≤ data.length) :
    ∃ later, levels (MipChain.ofHeader h e).levels s =
        (.ok (cut data Header.size (MipChain.ofHeader h e).levels), later) ∧
      later.SoundAt data (Header.size + (total (MipChain.ofHeader h e).levels).toNat) :=
  levelsFrom_of_fits hmid 0 (size_nonneg_of_lookup hlookup) (Or.inr hfits)

theorem contents_of_region (hs : s.SoundAt data 0) (hread : Header.ofBytes data = some h)
    (hlookup : Encoding.lookup h = .ok e)
    (hfits : Header.size + total (MipChain.ofHeader h e).levels ≤ data.length)
    (hshort : (data.length : Int) < h.dataEnd) :
    (contents true s).1 =
      ⟨.error (.format (.shortRead "TXB pixel data" h.dataSize
          ((data.length : Int) - Header.size))),
        .header h :: (MipChain.ofHeader h e).notes⟩ := by
  have hlong := Header.size_le_of_ofBytes hread
  obtain ⟨mid, hopening, hmid⟩ := opening_of_lookup hs hread hlookup
  obtain ⟨later, hlevels, hlater⟩ := levels_of_fits hmid hlookup hfits
  obtain ⟨last, htxi, -⟩ := txi_of_lt_strict hlater hshort
  have hleft : max ((data.length : Int) - Header.size) 0 =
      (data.length : Int) - Header.size := by omega
  rw [hleft] at htxi
  exact contents_of_body_error hopening
    ((Reading.bind_ok hlevels).trans (Reading.bind_error htxi))

theorem contents_of_lenient (hs : s.SoundAt data 0) (hread : Header.ofBytes data = some h)
    (hlookup : Encoding.lookup h = .ok e)
    (hfits : Header.size + total (MipChain.ofHeader h e).levels ≤ data.length)
    (hshort : (data.length : Int) < h.dataEnd) :
    (contents false s).1 =
      ⟨.ok ⟨h, ⟨e.layout, cut data Header.size (MipChain.ofHeader h e).levels⟩, []⟩,
        .header h :: (MipChain.ofHeader h e).notes ++ [.txiMissing data.length h.dataEnd]⟩ := by
  obtain ⟨mid, hopening, hmid⟩ := opening_of_lookup hs hread hlookup
  obtain ⟨later, hlevels, hlater⟩ := levels_of_fits hmid hlookup hfits
  obtain ⟨last, htxi, -⟩ := txi_of_lt_lenient hlater hshort
  exact contents_of_body_ok hopening ((Reading.bind_ok hlevels).trans (Reading.bind_ok htxi))

theorem contents_of_complete (hs : s.SoundAt data 0) (hread : Header.ofBytes data = some h)
    (hlookup : Encoding.lookup h = .ok e) (hend : h.dataEnd ≤ data.length) :
    (contents strict s).1 =
      ⟨.ok ⟨h, ⟨e.layout, cut data Header.size (MipChain.ofHeader h e).levels⟩,
          data.drop h.dataEnd.toNat⟩,
        .header h :: (MipChain.ofHeader h e).notes ++
          [.txiRead (data.length - h.dataEnd.toNat)]⟩ := by
  have hheader := Header.fits_of_ofBytes hread
  have hnonneg := hheader.dataSize.1
  have htotal := MipChain.total_ofHeader_le hheader e
  have hboundary : h.dataEnd = h.dataEnd.toNat := by
    unfold Header.dataEnd
    omega
  have hfits : Header.size + total (MipChain.ofHeader h e).levels ≤ data.length := by
    unfold Header.dataEnd at hend
    omega
  obtain ⟨mid, hopening, hmid⟩ := opening_of_lookup hs hread hlookup
  obtain ⟨later, hlevels, hlater⟩ := levels_of_fits hmid hlookup hfits
  obtain ⟨last, htxi, -⟩ := txi_of_le hlater strict hboundary (by omega)
  exact contents_of_body_ok hopening ((Reading.bind_ok hlevels).trans (Reading.bind_ok htxi))

end

/-! ### Closing -/

/-- Without faults closing goes well, so the answer is that of the contents, under the name. -/
theorem run_of_soundAt {s : Stream} {content : Bytes} {p : Nat} (hs : s.SoundAt content p)
    (name : Option String) (strict : Bool) :
    (run name strict s).1 =
      ⟨(contents strict s).1.answer.mapError (Error.asUnreadable name),
        (contents strict s).1.log⟩ := by
  have hfaults : (contents strict s).2.faults = .none :=
    (continues_contents strict s).faults.trans hs.faults
  have hclose : (contents strict s).2.close.1 = .ok () := by
    rw [Stream.close, hfaults]
    rfl
  rw [run, hclose]
  rfl

theorem bytes_eq (name : Option String) (strict : Bool) (data : Bytes) :
    bytes name strict data =
      ⟨(contents strict (.ofBytes data)).1.answer.mapError (Error.asUnreadable name),
        (contents strict (.ofBytes data)).1.log⟩ :=
  run_of_soundAt (Stream.soundAt_ofBytes data) name strict

/-! ### Files that decode -/

/-- The bytes hold a header of a supported encoding and all its planned levels, and for a strict
boundary the whole declared region. -/
structure Readable (strict : Bool) (data : Bytes) (h : Header) (e : Encoding) : Prop where
  header : Header.ofBytes data = some h
  encoding : Encoding.lookup h = .ok e
  levels : Header.size + total (MipChain.ofHeader h e).levels ≤ data.length
  region : strict = true → h.dataEnd ≤ data.length

/-- What a file that is cut off before the declared end has after it is nothing, so one answer serves
both boundaries. -/
theorem Readable.answer {strict : Bool} {data : Bytes} {h : Header} {e : Encoding}
    (hreadable : Readable strict data h e) (name : Option String) :
    (bytes name strict data).answer =
      .ok ⟨h, ⟨e.layout, cut data Header.size (MipChain.ofHeader h e).levels⟩,
        data.drop h.dataEnd.toNat⟩ := by
  obtain ⟨hread, hlookup, hfits, hregion⟩ := hreadable
  have hs := Stream.soundAt_ofBytes data
  by_cases hend : h.dataEnd ≤ data.length
  · rw [bytes_eq, contents_of_complete hs hread hlookup hend]
    rfl
  · have hlenient : strict = false := by
      cases strict with
      | false => rfl
      | true => exact absurd (hregion rfl) hend
    have hnothing : data.drop h.dataEnd.toNat = [] := List.drop_eq_nil_of_le (by omega)
    subst hlenient
    rw [bytes_eq, contents_of_lenient hs hread hlookup hfits (by omega), hnothing]
    rfl

end MipTexture.Decode
