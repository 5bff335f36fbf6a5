/-!
# Bytes

Byte strings are lists of bytes, so that a slice is a `drop` followed by a `take`. Numbers of more
than one byte are little-endian.

Main statements: `ofNat` fills exactly the bytes it is given (`length_ofNat`), and reading them back
gives the number (`value_ofNat`).
-/

namespace MipTexture

-- Powers and sums of numbers are those of the core library, so that a definition means the same
-- whether or not a library with its own instances is imported beside it.
attribute [scoped instance (high)] instPowNat Zero.ofOfNat0
attribute [default_instance (high + 1)] instPowNat

abbrev Bytes := List UInt8

namespace Bytes

/-- The `count` bytes from offset `start`, fewer where the string ends earlier. -/
def slice (data : Bytes) (start count : Nat) : Bytes :=
  (data.drop start).take count

theorem length_slice (data : Bytes) (start count : Nat) :
    (data.slice start count).length = min count (data.length - start) := by
  simp only [slice, List.length_take, List.length_drop]

theorem slice_zero (data : Bytes) (start : Nat) : data.slice start 0 = [] := by
  simp only [slice, List.take_zero]

theorem slice_take (data : Bytes) {start count limit : Nat} (h : start + count ≤ limit) :
    slice (data.take limit) start count = data.slice start count := by
  have hcount : min count (limit - start) = count := by omega
  rw [slice, List.drop_take, List.take_take, hcount, slice]

theorem slice_append (before part after : Bytes) :
    (before ++ (part ++ after)).slice before.length part.length = part := by
  simp only [slice, List.drop_left, List.take_left]

theorem slice_append_slice (data : Bytes) (start first second : Nat) :
    data.slice start first ++ data.slice (start + first) second =
      data.slice start (first + second) := by
  simp only [slice, List.take_add, List.drop_drop]

/-- The bytes before an offset, which counts from the end when it is negative. -/
def before (data : Bytes) (stop : Int) : Bytes :=
  if stop < 0 then data.take (data.length - stop.natAbs) else data.take stop.toNat

/-- The number that a byte string writes, least significant byte first. -/
def value : Bytes → Nat
  | [] => 0
  | b :: rest => b.toNat + 256 * value rest

/-- The low `count` bytes of a number, least significant byte first. -/
def ofNat : Nat → Nat → Bytes
  | 0, _ => []
  | count + 1, n => UInt8.ofNat n :: ofNat count (n / 256)

theorem length_ofNat (count n : Nat) : (ofNat count n).length = count := by
  induction count generalizing n with
  | zero => rfl
  | succ count ih => simp only [ofNat, List.length_cons, ih]

theorem value_lt (data : Bytes) : value data < 256 ^ data.length := by
  induction data with
  | nil => simp only [value, List.length_nil, Nat.pow_zero, Nat.lt_add_one]
  | cons b rest ih =>
    have hb : b.toNat < 256 := b.toNat_lt
    simp only [value, List.length_cons, Nat.pow_succ]
    omega

theorem value_ofNat (count n : Nat) (h : n < 256 ^ count) : value (ofNat count n) = n := by
  induction count generalizing n with
  | zero =>
    simp only [Nat.pow_zero] at h
    simp only [ofNat, value]
    omega
  | succ count ih =>
    have hn : n / 256 < 256 ^ count := by
      rw [Nat.pow_succ] at h
      omega
    have hb : (UInt8.ofNat n).toNat = n % 256 := rfl
    simp only [ofNat, value, ih _ hn, hb]
    omega

theorem ofNat_value (data : Bytes) : ofNat data.length (value data) = data := by
  induction data with
  | nil => rfl
  | cons b rest ih =>
    have hb : b.toNat < 256 := b.toNat_lt
    have hlow : UInt8.ofNat (b.toNat + 256 * value rest) = b := by
      apply UInt8.toNat_inj.mp
      have hmod : (UInt8.ofNat (b.toNat + 256 * value rest)).toNat =
          (b.toNat + 256 * value rest) % 256 := rfl
      omega
    have hhigh : (b.toNat + 256 * value rest) / 256 = value rest := by omega
    simp only [List.length_cons, value, ofNat, hlow, hhigh, ih]

end Bytes

end MipTexture
