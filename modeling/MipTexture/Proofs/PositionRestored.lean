import MipTexture.Proofs.CallFailures
import MipTexture.Proofs.TxiBoundary

/-!
# The position after a size was found

The size of a stream is found by going to its end and back. The way back is tried whatever became of
the way to the end, so the stream stands where it stood, except when it reached the end and the device
failed on the way back. The faults are those of the first tell and the first two seeks from here on,
whatever numbers these have in the life of the stream.

Main statement: `size_restores_position`.
-/

namespace MipTexture.Stream

/-- The device fails on the next tell. -/
def TellFails (s : Stream) : Prop := s.faults.onTell (s.count Call.isTell) = true

/-- The device fails on the seek that comes after `n` more. -/
def SeekFails (s : Stream) (n : Nat) : Prop := s.faults.onSeek (s.count Call.isSeek + n) = true

instance (s : Stream) : Decidable s.TellFails := inferInstanceAs (Decidable (_ = _))

instance (s : Stream) (n : Nat) : Decidable (s.SeekFails n) := inferInstanceAs (Decidable (_ = _))

theorem Goes.eq_ite {α : Type} {s : Stream} {fault : Bool} {value : α} {answer : Except Error α}
    (hgoes : Goes s fault value answer) (hopen : s.isOpen = true) :
    answer = if fault = true then .error s.deviceError else .ok value := by
  cases hgoes with
  | fails hfault => rw [if_pos hfault]
  | closed _ hclosed =>
    rw [hopen] at hclosed
    cases hclosed
  | well hwell _ => simp [hwell]

/-! ### One call -/

section

variable {s : Stream} {q : Nat}

theorem answer_seekEnd (hopen : s.isOpen = true) :
    (seekEnd s).1 = if s.SeekFails 0 then .error s.deviceError else .ok s.content.length :=
  (goes_seekEnd s).eq_ite hopen

theorem answer_seek (hopen : s.isOpen = true) (hq : Addressable s.content q) :
    (seek q s).1 = if s.SeekFails 0 then .error s.deviceError else .ok () :=
  (goes_seek s hq).eq_ite hopen

theorem position_seekEnd (hopen : s.isOpen = true) :
    (seekEnd s).2.position = if s.SeekFails 0 then s.position else s.content.length := by
  show (seekEnd s).2.position = if s.faults.onSeek (s.count Call.isSeek) = true then _ else _
  unfold seekEnd
  rw [if_pos hopen]
  split <;> rfl

theorem position_seek (hopen : s.isOpen = true) (hq : Addressable s.content q) :
    (seek q s).2.position = if s.SeekFails 0 then s.position else q := by
  have hword : Addressable (s.record (.seek q)).content q := hq
  have hnonneg : ¬(q : Int) < 0 := by omega
  have hstill : (s.record (.seek q)).isOpen = true := hopen
  show (seek q s).2.position = if s.faults.onSeek (s.count Call.isSeek) = true then _ else _
  rw [seek, jump, dif_pos hword, if_pos hstill, dif_neg hnonneg]
  split <;> rfl

theorem seekFails_seekEnd (n : Nat) : (seekEnd s).2.SeekFails n ↔ s.SeekFails (n + 1) := by
  have hcount : (seekEnd s).2.count Call.isSeek = s.count Call.isSeek + 1 :=
    count_of_calls (calls_seekEnd s) Call.isSeek
  rw [SeekFails, hcount, (keeps_seekEnd s).faults, SeekFails, Nat.add_right_comm, Nat.add_assoc]

theorem seekFails_told (n : Nat) : (s.record .tell).SeekFails n ↔ s.SeekFails n := by
  have hcount : (s.record .tell).count Call.isSeek = s.count Call.isSeek := by
    simp [count, record, Call.isSeek]
  rw [SeekFails, hcount]
  rfl

/-! ### To the end and back -/

theorem answer_endAndBack (hopen : s.isOpen = true) (hq : Addressable s.content q) :
    (endAndBack q s).1 =
      if s.SeekFails 0 ∨ s.SeekFails 1 then .error s.deviceError else .ok s.content.length := by
  have hend := keeps_seekEnd s
  rw [endAndBack_fst, answer_seek (hend.isOpen.trans hopen) (by rwa [hend.content]),
    answer_seekEnd hopen, deviceError_eq hend]
  simp only [seekFails_seekEnd]
  by_cases hto : s.SeekFails 0 <;> by_cases hback : s.SeekFails 1 <;> simp [hto, hback]

theorem position_endAndBack (hopen : s.isOpen = true) (hq : Addressable s.content q) :
    (endAndBack q s).2.position =
      if s.SeekFails 1 then (if s.SeekFails 0 then s.position else s.content.length) else q := by
  have hend := keeps_seekEnd s
  rw [endAndBack_snd, position_seek (hend.isOpen.trans hopen) (by rwa [hend.content]),
    position_seekEnd hopen]
  simp only [seekFails_seekEnd]

/-! ### The size -/

theorem size_of_tellFails (htell : s.TellFails) :
    size s = (.error s.deviceError, s.record .tell) := by
  have hfault : s.faults.onTell (s.count Call.isTell) = true := htell
  have htold : tell s = (.error s.deviceError, s.record .tell) := by rw [tell, if_pos hfault]
  rw [size_eq_bind, Reading.bind_error htold]

theorem size_of_not_tellFails (hopen : s.isOpen = true) (htell : ¬s.TellFails) :
    size s = endAndBack s.position (s.record .tell) := by
  have hwell : ¬s.faults.onTell (s.count Call.isTell) = true := htell
  have htold : tell s = (.ok s.position, s.record .tell) := by
    rw [tell, if_neg hwell, if_pos hopen]
  rw [size_eq_bind, Reading.bind_ok htold]

theorem answer_size (hopen : s.isOpen = true) :
    (size s).1 = if s.TellFails ∨ s.SeekFails 0 ∨ s.SeekFails 1 then .error s.deviceError
      else .ok s.content.length := by
  by_cases htell : s.TellFails
  · rw [size_of_tellFails htell, if_pos (Or.inl htell)]
  · have htold : (s.record .tell).isOpen = true := hopen
    rw [size_of_not_tellFails hopen htell, answer_endAndBack htold s.addressable]
    simp only [seekFails_told, htell, false_or]
    rfl

theorem calls_size (hopen : s.isOpen = true) :
    (size s).2.calls = s.calls ++ (if s.TellFails then [.tell] else sizeCalls s.position) := by
  by_cases htell : s.TellFails
  · rw [size_of_tellFails htell, if_pos htell]
    rfl
  · rw [size_of_not_tellFails hopen htell, calls_endAndBack, if_neg htell]
    show s.calls ++ [.tell] ++ _ = _
    rw [List.append_assoc]
    rfl

theorem position_size (hopen : s.isOpen = true) :
    (size s).2.position = if ¬s.TellFails ∧ ¬s.SeekFails 0 ∧ s.SeekFails 1 then s.content.length
      else s.position := by
  by_cases htell : s.TellFails
  · rw [size_of_tellFails htell, if_neg (fun hback => hback.1 htell)]
    rfl
  · have htold : (s.record .tell).isOpen = true := hopen
    rw [size_of_not_tellFails hopen htell, position_endAndBack htold s.addressable]
    simp only [seekFails_told]
    by_cases hto : s.SeekFails 0 <;> by_cases hback : s.SeekFails 1 <;> simp [htell, hto, hback]
    · rfl
    · rfl

end

/-- The calls are the same three unless the first one fails. The size is found when none of them fails,
the error is that of the device otherwise, and only a failed way back leaves the stream at its end. -/
theorem size_restores_position {s : Stream} (hopen : s.isOpen = true) :
    (size s).1 = (if s.TellFails ∨ s.SeekFails 0 ∨ s.SeekFails 1 then .error s.deviceError
      else .ok s.content.length) ∧
    (size s).2.calls = s.calls ++ (if s.TellFails then [.tell] else sizeCalls s.position) ∧
    (size s).2.position = (if ¬s.TellFails ∧ ¬s.SeekFails 0 ∧ s.SeekFails 1 then s.content.length
      else s.position) ∧
    (size s).2.Continues s :=
  ⟨answer_size hopen, calls_size hopen, position_size hopen, keeps_size s⟩

/-- A stream past its end, after one seek. No call fails, or the way back, the way to the end, both of
them, or the tell. -/
theorem restored_from_past_end :
    let moved (tells seeks : List Int) : Stream :=
      (seek 9 (withFaults [1, 2, 3] (.ofCalls "device gone" [] [] [] seeks tells []))).2
    let gone : Except Error Nat := .error (.system (.device "device gone"))
    let whole : List Call := [.seek 9, .tell, .seekEnd, .seek 9]
    let found (s : Stream) (answer : Except Error Nat) (calls : List Call) (position : Nat) :=
      s.isOpen = true ∧ (size s).1 = answer ∧ (size s).2.calls = calls ∧
        (size s).2.position = position
    found (moved [] []) (.ok 3) whole 9 ∧ found (moved [] [2]) gone whole 3 ∧
      found (moved [] [1]) gone whole 9 ∧ found (moved [] [1, 2]) gone whole 9 ∧
      found (moved [0] [2]) gone [.seek 9, .tell] 9 := by
  intro moved gone whole found
  have hfine := size_restores_position (s := moved [] []) rfl
  have hback := size_restores_position (s := moved [] [2]) rfl
  have hto := size_restores_position (s := moved [] [1]) rfl
  have hboth := size_restores_position (s := moved [] [1, 2]) rfl
  have htell := size_restores_position (s := moved [0] [2]) rfl
  exact ⟨⟨rfl, hfine.1, hfine.2.1, hfine.2.2.1⟩, ⟨rfl, hback.1, hback.2.1, hback.2.2.1⟩,
    ⟨rfl, hto.1, hto.2.1, hto.2.2.1⟩, ⟨rfl, hboth.1, hboth.2.1, hboth.2.2.1⟩,
    ⟨rfl, htell.1, htell.2.1, htell.2.2.1⟩⟩

end MipTexture.Stream
