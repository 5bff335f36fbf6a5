import MipTexture.Bytes

/-!
# Header

A texture starts with 128 bytes. Five numbers in them mean something here: how many bytes of pixel
data the file declares, the size of the first level, the encoding byte and the declared number of
levels. All other bytes of the header are left alone.

Main statements: a packed header reads back (`ofBytes_pack`), with any bytes in the places that carry
no meaning.
-/

namespace MipTexture

/-- The numbers of a texture header. A parsed header holds words of its field widths; a header built by
hand may hold any integers. -/
structure Header where
  dataSize : Int
  width : Int
  height : Int
  encoding : Int
  levelCount : Int
  deriving Repr, DecidableEq

namespace Header

def size : Nat := 128

/-- Where the declared pixel data ends and the trailing text information starts. -/
def dataEnd (h : Header) : Int := size + h.dataSize

/-- The header that the first 128 bytes write; nothing when there are fewer. -/
def ofBytes (data : Bytes) : Option Header :=
  if data.length < size then none
  else some {
    dataSize := (data.slice 0 4).value
    width := (data.slice 8 2).value
    height := (data.slice 10 2).value
    encoding := (data.slice 12 1).value
    levelCount := (data.slice 13 1).value }

theorem ofBytes_eq_none_iff (data : Bytes) : ofBytes data = none ↔ data.length < size := by
  unfold ofBytes
  split <;> simp_all

structure Fits (h : Header) : Prop where
  dataSize : 0 ≤ h.dataSize ∧ h.dataSize < 2 ^ 32
  width : 0 ≤ h.width ∧ h.width < 2 ^ 16
  height : 0 ≤ h.height ∧ h.height < 2 ^ 16
  encoding : 0 ≤ h.encoding ∧ h.encoding < 2 ^ 8
  levelCount : 0 ≤ h.levelCount ∧ h.levelCount < 2 ^ 8

private theorem value_slice_lt (data : Bytes) (start count : Nat) :
    (data.slice start count).value < 256 ^ count := by
  have h := Bytes.value_lt (data.slice start count)
  have hlen := Bytes.length_slice data start count
  exact Nat.lt_of_lt_of_le h (Nat.pow_le_pow_right (by decide) (by omega))

theorem fits_of_ofBytes {data : Bytes} {h : Header} (hread : ofBytes data = some h) : h.Fits := by
  unfold ofBytes at hread
  split at hread
  · simp at hread
  · have hsize := value_slice_lt data 0 4
    have hwidth := value_slice_lt data 8 2
    have hheight := value_slice_lt data 10 2
    have hencoding := value_slice_lt data 12 1
    have hcount := value_slice_lt data 13 1
    simp only [Option.some.injEq] at hread
    subst hread
    constructor <;> dsimp only <;> omega

theorem encoding_of_ofBytes {data : Bytes} {h : Header} (hread : ofBytes data = some h) :
    ∃ byte, data[12]? = some byte ∧ h.encoding = byte.toNat := by
  unfold ofBytes at hread
  split at hread
  · simp at hread
  · rename_i hlong
    have hindex : 12 < data.length := by
      unfold size at hlong
      omega
    have hslice : data.slice 12 1 = [data[12]] := by
      rw [Bytes.slice, List.drop_eq_getElem_cons hindex, List.take_succ_cons, List.take_zero]
    have hvalue : (data.slice 12 1).value = data[12].toNat := by
      rw [hslice, Bytes.value, Bytes.value, Nat.mul_zero, Nat.add_zero]
    refine ⟨data[12], List.getElem?_eq_getElem hindex, ?_⟩
    rw [← Option.some.inj hread, hvalue]

/-- The 128 bytes of a header: `gap` fills bytes 4 to 7 and `tail` bytes 14 to 127. -/
def pack (h : Header) (gap tail : Bytes) : Bytes :=
  Bytes.ofNat 4 h.dataSize.toNat ++ gap ++ Bytes.ofNat 2 h.width.toNat ++
    Bytes.ofNat 2 h.height.toNat ++ Bytes.ofNat 1 h.encoding.toNat ++
    Bytes.ofNat 1 h.levelCount.toNat ++ tail

theorem length_pack (h : Header) (gap tail : Bytes) (hgap : gap.length = 4)
    (htail : tail.length = 114) : (h.pack gap tail).length = size := by
  simp only [pack, List.length_append, Bytes.length_ofNat, hgap, htail, size]

/-- Reading a packed header gives its numbers, whatever fills the rest of the header and whatever
follows it. -/
theorem ofBytes_pack {h : Header} (hfits : h.Fits) {gap tail : Bytes} (hgap : gap.length = 4)
    (htail : tail.length = 114) (rest : Bytes) :
    ofBytes (h.pack gap tail ++ rest) = some h := by
  obtain ⟨hsize, hwidth, hheight, hencoding, hcount⟩ := hfits
  have hlong : ¬(h.pack gap tail ++ rest).length < size := by
    simp only [List.length_append, length_pack h gap tail hgap htail]
    omega
  have slice_at (before part : Bytes) (start count : Nat)
      (hdata : ∃ after, h.pack gap tail ++ rest = before ++ (part ++ after))
      (hstart : before.length = start) (hlen : part.length = count) :
      (h.pack gap tail ++ rest).slice start count = part := by
    obtain ⟨after, hdata⟩ := hdata
    rw [hdata, ← hstart, ← hlen, Bytes.slice_append]
  have sizeField := slice_at [] (Bytes.ofNat 4 h.dataSize.toNat) 0 4
    (by simp only [pack, List.append_assoc, List.nil_append]; exact ⟨_, rfl⟩) rfl (Bytes.length_ofNat _ _)
  have widthField := slice_at (Bytes.ofNat 4 h.dataSize.toNat ++ gap)
    (Bytes.ofNat 2 h.width.toNat) 8 2
    (by simp only [pack, List.append_assoc]; exact ⟨_, rfl⟩)
    (by simp only [List.length_append, Bytes.length_ofNat, hgap]) (Bytes.length_ofNat _ _)
  have heightField := slice_at
    (Bytes.ofNat 4 h.dataSize.toNat ++ gap ++ Bytes.ofNat 2 h.width.toNat)
    (Bytes.ofNat 2 h.height.toNat) 10 2
    (by simp only [pack, List.append_assoc]; exact ⟨_, rfl⟩)
    (by simp only [List.length_append, Bytes.length_ofNat, hgap]) (Bytes.length_ofNat _ _)
  have encodingField := slice_at
    (Bytes.ofNat 4 h.dataSize.toNat ++ gap ++ Bytes.ofNat 2 h.width.toNat ++
      Bytes.ofNat 2 h.height.toNat)
    (Bytes.ofNat 1 h.encoding.toNat) 12 1
    (by simp only [pack, List.append_assoc]; exact ⟨_, rfl⟩)
    (by simp only [List.length_append, Bytes.length_ofNat, hgap]) (Bytes.length_ofNat _ _)
  have countField := slice_at
    (Bytes.ofNat 4 h.dataSize.toNat ++ gap ++ Bytes.ofNat 2 h.width.toNat ++
      Bytes.ofNat 2 h.height.toNat ++ Bytes.ofNat 1 h.encoding.toNat)
    (Bytes.ofNat 1 h.levelCount.toNat) 13 1
    (by simp only [pack, List.append_assoc]; exact ⟨_, rfl⟩)
    (by simp only [List.length_append, Bytes.length_ofNat, hgap]) (Bytes.length_ofNat _ _)
  have field (count : Nat) (n : Int) (hn : 0 ≤ n) (hlt : n.toNat < 256 ^ count) :
      ((Bytes.ofNat count n.toNat).value : Int) = n := by
    rw [Bytes.value_ofNat count n.toNat hlt, Int.toNat_of_nonneg hn]
  unfold ofBytes
  rw [if_neg hlong, sizeField, widthField, heightField, encodingField, countField,
    field 4 _ hsize.1 (by omega), field 2 _ hwidth.1 (by omega), field 2 _ hheight.1 (by omega),
    field 1 _ hencoding.1 (by omega), field 1 _ hcount.1 (by omega)]

end Header

end MipTexture
