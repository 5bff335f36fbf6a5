import MipTexture.Proofs.LevelOffsets
import MipTexture.Proofs.SoundReads
import MipTexture.Proofs.StreamFrame

/-!
# Decoding a sound stream

What each part of a file gives on an open stream without faults, from any position: the header, the
levels, the text information, and from these the whole file.

Main statements: levels that the content holds are cut from it (`levelsFrom_of_fits`), and a level
that it does not hold is named with what is left of it (`levelsFrom_of_short`); the text information
is read from the declared end wherever the stream stands (`txi_of_le`).
-/

namespace MipTexture

namespace Header

theorem ofBytes_take {data : Bytes} (hlong : size ≤ data.length) :
    ofBytes (data.take size) = ofBytes data := by
  have hlength : (data.take size).length = size := by
    rw [List.length_take]
    omega
  have hfull : ¬(data.take size).length < size := by omega
  have hdata : ¬data.length < size := by omega
  rw [ofBytes, ofBytes, if_neg hfull, if_neg hdata, Bytes.slice_take data (by decide),
    Bytes.slice_take data (by decide), Bytes.slice_take data (by decide),
    Bytes.slice_take data (by decide), Bytes.slice_take data (by decide)]

theorem size_le_of_ofBytes {data : Bytes} {h : Header} (hread : ofBytes data = some h) :
    size ≤ data.length := by
  refine Nat.not_lt.mp ?_
  intro hshort
  rw [(ofBytes_eq_none_iff data).mpr hshort] at hread
  cases hread

end Header

namespace Decode

open MipChain (total total_nil total_cons)

section

variable {s : Stream} {content : Bytes} {p : Nat}

/-! ### The header -/

theorem header_of_ofBytes (hs : s.SoundAt content p) {h : Header}
    (hread : Header.ofBytes (content.drop p) = some h) :
    ∃ later, header s = (.ok h, later) ∧ later.SoundAt content (p + Header.size) := by
  have hlong := Header.size_le_of_ofBytes hread
  have hdrop := List.length_drop (i := p) (l := content)
  have hsize : 0 < Header.size := by decide
  obtain ⟨later, hrun, hlater⟩ :=
    Stream.readExact_of_le hs (n := Header.size) "TXB header" (Or.inr (by omega))
  have hbytes : Header.ofBytes (content.slice p Header.size) = some h := by
    rw [Bytes.slice, Header.ofBytes_take hlong, hread]
  refine ⟨later, ?_, hlater⟩
  rw [header, hrun]
  dsimp only
  rw [hbytes]

theorem header_of_short (hs : s.SoundAt content p)
    (hshort : content.length < p + Header.size) :
    ∃ later, header s = (.error (.format (.shortRead "TXB header" Header.size
        ((content.length - p : Nat) : Int))), later) ∧
      later.SoundAt content (max p content.length) := by
  obtain ⟨later, hrun, hlater⟩ :=
    Stream.readExact_of_lt hs (n := Header.size) "TXB header" (by decide) (by decide) hshort
  refine ⟨later, ?_, hlater⟩
  rw [header, hrun]

/-! ### The levels -/

theorem levelsFrom_cons (number : Nat) (plan : LevelPlan) (rest : List LevelPlan) :
    levelsFrom number (plan :: rest) =
      (Stream.readExact plan.size (levelName number plan) >>= fun data =>
        levelsFrom (number + 1) rest >>= fun others => pure (.ofPlan plan data :: others)) := rfl

/-- Levels without any bytes are there also past the end of the content. -/
theorem levelsFrom_of_fits (hs : s.SoundAt content p) (number : Nat) {plans : List LevelPlan}
    (hsizes : ∀ plan ∈ plans, 0 ≤ plan.size)
    (hfits : total plans = 0 ∨ p + total plans ≤ content.length) :
    ∃ later, levelsFrom number plans s = (.ok (cut content p plans), later) ∧
      later.SoundAt content (p + (total plans).toNat) := by
  induction plans generalizing s p number with
  | nil => exact ⟨s, rfl, hs⟩
  | cons plan rest ih =>
    have hrest : ∀ other ∈ rest, 0 ≤ other.size :=
      fun other hother => hsizes other (List.mem_cons_of_mem _ hother)
    have hplan := hsizes plan List.mem_cons_self
    have htotal := MipChain.total_nonneg hrest
    obtain ⟨n, hn⟩ := Int.eq_ofNat_of_zero_le hplan
    rw [total_cons, hn] at hfits
    obtain ⟨mid, hread, hmid⟩ :=
      Stream.readExact_of_le hs (n := n) (levelName number plan) (by omega)
    obtain ⟨later, hothers, hlater⟩ := ih hmid (number + 1) hrest (by omega)
    have hposition : p + n + (total rest).toNat = p + (total (plan :: rest)).toNat := by
      rw [total_cons, hn]
      omega
    refine ⟨later, ?_, ?_⟩
    · rw [levelsFrom_cons, hn, Reading.bind_ok hread, Reading.bind_ok hothers, cut, hn,
        Int.toNat_natCast]
      rfl
    · rw [hposition] at hlater
      exact hlater

/-- The first level that the content does not hold ends the reading, and what is left is gone. -/
theorem levelsFrom_of_short (hs : s.SoundAt content p) (number : Nat) {before : List LevelPlan}
    {plan : LevelPlan} (after : List LevelPlan) (hsizes : ∀ other ∈ before, 0 ≤ other.size)
    (hfits : total before = 0 ∨ p + total before ≤ content.length) (hpos : 0 < plan.size)
    (hword : plan.size < 2 ^ 63) (hshort : content.length < p + total before + plan.size) :
    ∃ later, levelsFrom number (before ++ plan :: after) s =
        (.error (.format (.shortRead (levelName (number + before.length) plan) plan.size
          ((content.length - (p + (total before).toNat) : Nat) : Int))), later) ∧
      later.SoundAt content (max (p + (total before).toNat) content.length) := by
  induction before generalizing s p number with
  | nil =>
    obtain ⟨n, hn⟩ := Int.eq_ofNat_of_zero_le (Int.le_of_lt hpos)
    rw [total_nil, hn] at hshort
    rw [hn] at hpos hword
    obtain ⟨later, hread, hlater⟩ :=
      Stream.readExact_of_lt hs (n := n) (levelName number plan) (by omega) (by omega) (by omega)
    refine ⟨later, ?_, hlater⟩
    rw [List.nil_append, levelsFrom_cons, hn, Reading.bind_error hread]
    rfl
  | cons first rest ih =>
    have hrest : ∀ other ∈ rest, 0 ≤ other.size :=
      fun other hother => hsizes other (List.mem_cons_of_mem _ hother)
    have hfirst := hsizes first List.mem_cons_self
    have htotal := MipChain.total_nonneg hrest
    obtain ⟨n, hn⟩ := Int.eq_ofNat_of_zero_le hfirst
    rw [total_cons, hn] at hfits hshort
    obtain ⟨mid, hread, hmid⟩ :=
      Stream.readExact_of_le hs (n := n) (levelName number first) (by omega)
    obtain ⟨later, hothers, hlater⟩ := ih hmid (number + 1) hrest (by omega) (by omega)
    have hposition : p + n + (total rest).toNat = p + (total (first :: rest)).toNat := by
      rw [total_cons, hn]
      omega
    have hnumber : number + 1 + rest.length = number + (first :: rest).length := by
      rw [List.length_cons]
      omega
    rw [hposition] at hlater
    rw [hposition, hnumber] at hothers
    refine ⟨later, ?_, hlater⟩
    rw [List.cons_append, levelsFrom_cons, hn, Reading.bind_ok hread, Reading.bind_error hothers]

/-! ### The text information -/

theorem txi_of_size (hs : s.SoundAt content p) (strict : Bool) (h : Header) :
    ∃ sized : Stream, sized.SoundAt content p ∧
      txi strict h s =
        (if (content.length : Int) < h.dataEnd then
          if strict then
            Reading.ofExcept (.error (.format (.shortRead "TXB pixel data" h.dataSize
              (max ((content.length : Int) - Header.size) 0))))
          else pure ([], .txiMissing content.length h.dataEnd)
        else
          Reading.blaming "TXI data" (Stream.seek h.dataEnd) >>= fun _ =>
            Stream.readExact ((content.length : Int) - h.dataEnd) "TXI data" >>= fun data =>
              pure (data, .txiRead data.length)) sized := by
  obtain ⟨sized, hsize, hsized⟩ := Stream.size_sound hs
  refine ⟨sized, hsized, ?_⟩
  rw [txi, Reading.bind_ok (Reading.blaming_ok "TXI data" hsize)]

/-- The text information is what follows the declared end, also when that is nothing and no call to
read is made. -/
theorem txi_of_le (hs : s.SoundAt content p) (strict : Bool) {h : Header} {boundary : Nat}
    (hend : h.dataEnd = boundary) (hle : boundary ≤ content.length) :
    ∃ later, txi strict h s =
        (.ok (content.drop boundary, .txiRead (content.length - boundary)), later) ∧
      later.SoundAt content content.length := by
  obtain ⟨sized, hsized, hrun⟩ := txi_of_size hs strict h
  obtain ⟨moved, hseek, hmoved⟩ := Stream.seek_sound hsized (addressable_of_le hle)
  obtain ⟨later, hread, hlater⟩ := Stream.readExact_of_le hmoved
    (n := content.length - boundary) "TXI data" (Or.inr (by omega))
  have hlong : ¬(content.length : Int) < h.dataEnd := by omega
  have hcount : (content.length : Int) - boundary = (content.length - boundary : Nat) := by omega
  have hposition : boundary + (content.length - boundary) = content.length := by omega
  have hlength : (content.drop boundary).length = content.length - boundary :=
    List.length_drop
  have hdata : content.slice boundary (content.length - boundary) = content.drop boundary :=
    List.take_of_length_le (Nat.le_of_eq hlength)
  rw [hposition] at hlater
  rw [hdata] at hread
  refine ⟨later, ?_, hlater⟩
  rw [hrun, if_neg hlong, hend, Reading.bind_ok (Reading.blaming_ok "TXI data" hseek), hcount,
    Reading.bind_ok hread, ← hlength]
  rfl

theorem txi_of_lt_strict (hs : s.SoundAt content p) {h : Header}
    (hshort : (content.length : Int) < h.dataEnd) :
    ∃ later, txi true h s =
        (.error (.format (.shortRead "TXB pixel data" h.dataSize
          (max ((content.length : Int) - Header.size) 0))), later) ∧
      later.SoundAt content p := by
  obtain ⟨sized, hsized, hrun⟩ := txi_of_size hs true h
  refine ⟨sized, ?_, hsized⟩
  rw [hrun, if_pos hshort, if_pos rfl]
  rfl

theorem txi_of_lt_lenient (hs : s.SoundAt content p) {h : Header}
    (hshort : (content.length : Int) < h.dataEnd) :
    ∃ later, txi false h s = (.ok ([], .txiMissing content.length h.dataEnd), later) ∧
      later.SoundAt content p := by
  obtain ⟨sized, hsized, hrun⟩ := txi_of_size hs false h
  refine ⟨sized, ?_, hsized⟩
  rw [hrun, if_pos hshort, if_neg Bool.false_ne_true]
  rfl

end

end Decode

end MipTexture
