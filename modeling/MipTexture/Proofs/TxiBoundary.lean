import MipTexture.Proofs.BoundaryModes
import MipTexture.Proofs.SoundDecode

/-!
# The text information from anywhere

The text information is found from the end of the stream and from the declared end of the pixel data,
not from where the stream stands. The stream is sent to its end and back, and then to the declared end;
it is read to its end only when something is left there. When the declared end lies past the end of the
stream, it stays where it was.

Main statement: `txi_from_anywhere`.
-/

namespace MipTexture

namespace Stream

/-! ### Calls in their order -/

/-- The calls that find the size of a stream which stands at a position. -/
def sizeCalls (position : Nat) : List Call := [.tell, .seekEnd, .seek position]

theorem calls_size_of_tell {s told : Stream} {q : Nat} (htell : tell s = (.ok q, told)) :
    (size s).2.calls = s.calls ++ sizeCalls q := by
  have htold : told.calls = s.calls ++ [.tell] := by
    rw [← calls_tell, htell]
  rw [size_eq_bind, Reading.bind_ok htell, calls_endAndBack, htold, List.append_assoc]
  rfl

end Stream

namespace Decode

section

variable {s sized moved : Stream} {h : Header} {n : Nat}

/-! ### The stream afterwards -/

theorem txi_snd_of_le (hsize : Stream.size s = (.ok n, sized)) (hle : h.dataEnd ≤ n)
    (hseek : Stream.seek h.dataEnd sized = (.ok (), moved)) (strict : Bool) :
    (txi strict h s).2 = (Stream.readExact (n - h.dataEnd) "TXI data" moved).2 := by
  have hlong : ¬(n : Int) < h.dataEnd := Int.not_lt.mpr hle
  rw [txi, Reading.bind_ok (Reading.blaming_ok "TXI data" hsize), if_neg hlong,
    Reading.bind_ok (Reading.blaming_ok "TXI data" hseek)]
  rcases hread : Stream.readExact (n - h.dataEnd) "TXI data" moved with ⟨answer, later⟩
  cases answer with
  | error e => rw [Reading.bind_error hread]
  | ok data =>
    rw [Reading.bind_ok hread]
    rfl

theorem txi_snd_of_lt (hsize : Stream.size s = (.ok n, sized)) (hshort : n < h.dataEnd)
    (strict : Bool) : (txi strict h s).2 = sized := by
  cases strict with
  | true => rw [txi_strict_of_size_lt hsize hshort]
  | false => rw [txi_lenient_of_size_lt hsize hshort]

end

section

variable {s : Stream} {content : Bytes} {p : Nat} {h : Header}

/-- The calls that read from a boundary to the end of a stream. -/
def tailCalls (boundary streamEnd : Nat) : List Call :=
  .seek boundary :: if boundary < streamEnd then [.read (streamEnd - boundary : Nat)] else []

theorem calls_sized (hs : s.SoundAt content p) :
    ∃ sized, Stream.size s = (.ok content.length, sized) ∧ sized.SoundAt content p ∧
      sized.calls = s.calls ++ Stream.sizeCalls p := by
  obtain ⟨told, htell, -⟩ := Stream.tell_sound hs
  obtain ⟨sized, hsize, hsized⟩ := Stream.size_sound hs
  have hcalls := Stream.calls_size_of_tell htell
  rw [hsize] at hcalls
  exact ⟨sized, hsize, hsized, hcalls⟩

theorem calls_txi_of_le (hs : s.SoundAt content p) (strict : Bool) {boundary : Nat}
    (hend : h.dataEnd = boundary) (hle : boundary ≤ content.length) :
    (txi strict h s).2.calls =
      s.calls ++ Stream.sizeCalls p ++ tailCalls boundary content.length := by
  obtain ⟨sized, hsize, hsized, hcalls⟩ := calls_sized hs
  obtain ⟨moved, hseek, -⟩ := Stream.seek_sound hsized (addressable_of_le hle)
  have hmoved : moved.calls = sized.calls ++ [.seek boundary] := by
    rw [← Stream.calls_seek, hseek]
  have hleft : (content.length : Int) - boundary = (content.length - boundary : Nat) := by omega
  rw [← hend] at hseek
  have hpos : (0 : Int) < (content.length - boundary : Nat) ↔ boundary < content.length := by omega
  rw [txi_snd_of_le hsize (by omega) hseek, hend, hleft, Stream.calls_readExact, hmoved, hcalls,
    if_congr hpos rfl rfl, tailCalls, List.append_assoc, List.singleton_append]

theorem calls_txi_of_lt (hs : s.SoundAt content p) (strict : Bool)
    (hshort : content.length < h.dataEnd) :
    (txi strict h s).2.calls = s.calls ++ Stream.sizeCalls p := by
  obtain ⟨sized, hsize, -, hcalls⟩ := calls_sized hs
  rw [txi_snd_of_lt hsize hshort, hcalls]

/-! ### The answer -/

theorem txi_of_lt (hs : s.SoundAt content p) (strict : Bool)
    (hshort : content.length < h.dataEnd) :
    ∃ later, txi strict h s =
        (if strict then
          .error (.format (.shortRead "TXB pixel data" h.dataSize
            (max ((content.length : Int) - Header.size) 0)))
        else .ok ([], .txiMissing content.length h.dataEnd), later) ∧
      later.SoundAt content p := by
  cases strict with
  | true => exact txi_of_lt_strict hs hshort
  | false => exact txi_of_lt_lenient hs hshort

theorem txi_fst_eq_of_soundAt {t : Stream} {q : Nat} (hs : s.SoundAt content p)
    (ht : t.SoundAt content q) (hnonneg : 0 ≤ h.dataEnd) (strict : Bool) :
    (txi strict h t).1 = (txi strict h s).1 := by
  obtain ⟨boundary, hend⟩ := Int.eq_ofNat_of_zero_le hnonneg
  by_cases hle : boundary ≤ content.length
  · obtain ⟨later, hrun, -⟩ := txi_of_le hs strict hend hle
    obtain ⟨later', hrun', -⟩ := txi_of_le ht strict hend hle
    rw [hrun, hrun']
  · have hshort : content.length < h.dataEnd := by omega
    obtain ⟨later, hrun, -⟩ := txi_of_lt hs strict hshort
    obtain ⟨later', hrun', -⟩ := txi_of_lt ht strict hshort
    rw [hrun, hrun']

/-- Wherever a sound stream stands, the text information is what follows the declared end, and the
stream is at its end afterwards. A stream that ends before has none: this is an error for a strict
boundary only, and both leave the stream where it was. -/
theorem txi_from_anywhere (hs : s.SoundAt content p) (hnonneg : 0 ≤ h.dataEnd) (strict : Bool) :
    (∀ t q, t.SoundAt content q → (txi strict h t).1 = (txi strict h s).1) ∧
    (h.dataEnd ≤ content.length → ∃ later,
      txi strict h s = (.ok (content.drop h.dataEnd.toNat,
        .txiRead (content.length - h.dataEnd.toNat)), later) ∧
      later.SoundAt content content.length ∧
      later.calls = s.calls ++ Stream.sizeCalls p ++ tailCalls h.dataEnd.toNat content.length) ∧
    (content.length < h.dataEnd → ∃ later,
      txi strict h s =
        (if strict then
          .error (.format (.shortRead "TXB pixel data" h.dataSize
            (max ((content.length : Int) - Header.size) 0)))
        else .ok ([], .txiMissing content.length h.dataEnd), later) ∧
      later.SoundAt content p ∧ later.calls = s.calls ++ Stream.sizeCalls p) := by
  refine ⟨fun t q ht => txi_fst_eq_of_soundAt hs ht hnonneg strict, ?_, ?_⟩
  · intro hlong
    have hend : h.dataEnd = h.dataEnd.toNat := by omega
    have hle : h.dataEnd.toNat ≤ content.length := by omega
    obtain ⟨later, hrun, hlater⟩ := txi_of_le hs strict hend hle
    have hcalls := calls_txi_of_le hs strict hend hle
    rw [hrun] at hcalls
    exact ⟨later, hrun, hlater, hcalls⟩
  · intro hshort
    obtain ⟨later, hrun, hlater⟩ := txi_of_lt hs strict hshort
    have hcalls := calls_txi_of_lt hs strict hshort
    rw [hrun] at hcalls
    exact ⟨later, hrun, hlater, hcalls⟩

end

/-- A stream past its end, and headers that declare less than nothing: the last two bytes, then nothing
without a read, and a boundary that is missed by one byte. -/
theorem txi_from_past_end :
    let content : Bytes := [1, 2, 3]
    let s := (Stream.ofBytes content).moveTo 9 (by decide)
    let declaring (dataSize : Int) : Header := ⟨dataSize, 0, 0, 0, 0⟩
    (∃ later, txi true (declaring (-127)) s = (.ok ([2, 3], .txiRead 2), later) ∧
      later.position = 3 ∧ later.calls = [.tell, .seekEnd, .seek 9, .seek 1, .read 2]) ∧
    (∃ later, txi true (declaring (-125)) s = (.ok ([], .txiRead 0), later) ∧
      later.position = 3 ∧ later.calls = [.tell, .seekEnd, .seek 9, .seek 3]) ∧
    ∃ later, txi true (declaring (-124)) s =
        (.error (.format (.shortRead "TXB pixel data" (-124) 0)), later) ∧
      later.position = 9 ∧ later.calls = [.tell, .seekEnd, .seek 9] := by
  intro content s declaring
  have hs : s.SoundAt content 9 := (Stream.soundAt_ofBytes content).moveTo _
  have hpart : 0 ≤ (declaring (-127)).dataEnd := by decide
  have hempty : 0 ≤ (declaring (-125)).dataEnd := by decide
  have hmissed : 0 ≤ (declaring (-124)).dataEnd := by decide
  obtain ⟨later, hread, hlater, hcalls⟩ := (txi_from_anywhere hs hpart true).2.1 (by decide)
  obtain ⟨later', hread', hlater', hcalls'⟩ := (txi_from_anywhere hs hempty true).2.1 (by decide)
  obtain ⟨later'', hread'', hlater'', hcalls''⟩ :=
    (txi_from_anywhere hs hmissed true).2.2 (by decide)
  exact ⟨⟨later, hread, hlater.position, hcalls⟩, ⟨later', hread', hlater'.position, hcalls'⟩,
    ⟨later'', hread'', hlater''.position, hcalls''⟩⟩

end Decode

end MipTexture
