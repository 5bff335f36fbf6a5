import MipTexture.Stream

/-!
# Exact reads and the size of a stream

A read is exact when it gives all the bytes it was asked for. The size of a stream is found by going to
its end and back again.

Main statements: a read that answers gives as many bytes as were asked for (`length_readExact`).
-/

namespace MipTexture.Stream

def exactly (size : Int) (what : String) (data : Bytes) : Except Error Bytes :=
  if (data.length : Int) = size then .ok data
  else .error (.format (.shortRead what size data.length))

theorem exactly_eq_ok_iff (size : Int) (what : String) (data result : Bytes) :
    exactly size what data = .ok result ↔ data = result ∧ (result.length : Int) = size := by
  unfold exactly
  split
  · rename_i h
    simp only [Except.ok.injEq]
    constructor
    · rintro rfl
      exact ⟨rfl, h⟩
    · exact And.left
  · rename_i h
    simp only [reduceCtorEq, false_iff, not_and]
    rintro rfl
    exact h

/-- Reads exactly `size` bytes, without a call when there is nothing to read. `what` names the data in
errors. -/
def readExact (size : Int) (what : String) : Reading Bytes := fun s =>
  if size < 0 then (.error (.refused .negativeSize), s)
  else if size = 0 then (.ok [], s)
  else
    match Reading.blaming what (read size) s with
    | (.error e, s') => (.error e, s')
    | (.ok given, s') => (exactly size what (given.getD []), s')

/-- The size of the stream. The way back is tried also when the way to the end failed, and its error
counts before that of the way to the end. -/
def size : Reading Nat := fun s =>
  match tell s with
  | (.error e, s') => (.error e, s')
  | (.ok position, s') =>
    match seek position (seekEnd s').2 with
    | (.error e, s'') => (.error e, s'')
    | (.ok _, s'') => ((seekEnd s').1, s'')

theorem length_readExact {size : Int} {what : String} {s s' : Stream} {data : Bytes}
    (h : readExact size what s = (.ok data, s')) : (data.length : Int) = size := by
  unfold readExact at h
  split at h
  · simp at h
  · split at h
    · rename_i hzero
      simp only [Prod.mk.injEq, Except.ok.injEq] at h
      rw [← h.1, hzero]
      rfl
    · split at h
      · simp at h
      · simp only [Prod.mk.injEq, exactly_eq_ok_iff] at h
        exact h.1.2

end MipTexture.Stream
