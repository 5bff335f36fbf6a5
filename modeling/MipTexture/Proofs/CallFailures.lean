import MipTexture.Proofs.MadeCalls
import MipTexture.Proofs.SoundReads

/-!
# How calls fail

A call fails because the device fails on it, or because the stream is closed. A read has one more
way to fail: the device may be asked for a number of bytes that is no word.

Main statements: `read_eq_error` for a read, and `moves_size` for the calls that find the size of a
stream. All of these are made on an open stream, so that one of them shows its failure.
-/

namespace MipTexture.Stream

/-- How a call goes that gives one value on every open stream, unless the device fails. -/
inductive Goes {α : Type} (s : Stream) (fault : Bool) (value : α) : Except Error α → Prop
  | fails (hfault : fault = true) : Goes s fault value (.error s.deviceError)
  | closed (hwell : fault = false) (hclosed : s.isOpen = false) :
    Goes s fault value (.error (.refused .closedStream))
  | well (hwell : fault = false) (hopen : s.isOpen = true) : Goes s fault value (.ok value)

theorem Goes.of_ite {α : Type} (s : Stream) (fault : Bool) (value : α) :
    Goes s fault value (if fault then .error s.deviceError
      else if s.isOpen then .ok value else .error (.refused .closedStream)) := by
  cases fault with
  | true => exact .fails rfl
  | false =>
    cases hopen : s.isOpen with
    | true => exact .well rfl hopen
    | false => exact .closed rfl hopen

section

variable (s : Stream)

theorem goes_tell : Goes s (s.faults.onTell (s.count Call.isTell)) s.position (tell s).1 := by
  simpa only [tell, apply_ite Prod.fst] using
    Goes.of_ite s (s.faults.onTell (s.count Call.isTell)) s.position

theorem goes_seekEnd :
    Goes s (s.faults.onSeek (s.count Call.isSeek)) s.content.length (seekEnd s).1 := by
  simpa only [seekEnd, apply_ite Prod.fst] using
    Goes.of_ite s (s.faults.onSeek (s.count Call.isSeek)) s.content.length

theorem goes_seek {q : Nat} (hq : Addressable s.content q) :
    Goes s (s.faults.onSeek (s.count Call.isSeek)) () (seek q s).1 := by
  have hword : Addressable (s.record (.seek q)).content q := hq
  have hnonneg : ¬(q : Int) < 0 := by omega
  have hopen : (s.record (.seek q)).isOpen = s.isOpen := rfl
  rw [seek, jump, dif_pos hword, dif_neg hnonneg, hopen]
  simpa only [apply_ite Prod.fst] using
    Goes.of_ite s (s.faults.onSeek (s.count Call.isSeek)) ()

end

/-! ### Reads -/

section

variable {s later : Stream}

theorem read_of_fails (hfault : s.faults.onRead (s.count Call.isRead) = some .fails) (size : Int) :
    read size s = (.error s.deviceError, s.record (.read size)) := by
  rw [read, hfault]

theorem readExact_of_fails (hfault : s.faults.onRead (s.count Call.isRead) = some .fails) {n : Nat}
    (hn : n ≠ 0) (what : String) :
    (readExact n what s).1 = .error (.format (.readError what)) := by
  rw [readExact_of_ne_zero hn, Reading.blaming, read_of_fails hfault]
  rfl

theorem count_readExact {size : Int} {what : String} {answer : Except Error Bytes}
    (hpos : 0 < size) (hrun : readExact size what s = (answer, later)) :
    later.count Call.isRead = s.count Call.isRead + 1 := by
  have hcalls := calls_readExact size what s
  rw [hrun, if_pos hpos] at hcalls
  exact count_of_calls hcalls Call.isRead

theorem deliver_eq_error {asked : Int} {e : Error} (hrun : (deliver asked s).1 = .error e) :
    (e = .refused .closedStream ∧ s.isOpen = false) ∨
      (e = .overflow .size ∧ ¬Addressable s.content asked) := by
  unfold deliver at hrun
  split at hrun
  · split at hrun
    · cases hrun
    · rename_i hclosed
      cases hrun
      exact .inl ⟨rfl, eq_false_of_ne_true hclosed⟩
  · rename_i hword
    cases hrun
    exact .inr ⟨rfl, hword⟩

theorem read_eq_error {size : Int} {e : Error} (hword : Addressable s.content size)
    (hrun : (read size s).1 = .error e) :
    e = s.deviceError ∨ (e = .refused .closedStream ∧ s.isOpen = false) ∨
      (e = .overflow .size ∧ ∃ asked,
        s.faults.onRead (s.count Call.isRead) = some (.asksFor asked) ∧
          ¬Addressable s.content asked) := by
  unfold read at hrun
  split at hrun
  · cases hrun
    exact .inl rfl
  · cases hrun
  · rename_i asked hasked
    rcases deliver_eq_error hrun with hclosed | ⟨he, hbad⟩
    · exact .inr (.inl hclosed)
    · exact .inr (.inr ⟨he, asked, hasked, hbad⟩)
  · rcases deliver_eq_error hrun with hclosed | ⟨-, hbad⟩
    · exact .inr (.inl hclosed)
    · exact absurd hword hbad

/-! ### Moves -/

/-- The device failed on a call that moves the stream or asks where it stands. -/
def MoveFault (s later : Stream) : Prop :=
  (∃ k, s.count Call.isTell ≤ k ∧ k < later.count Call.isTell ∧ s.faults.onTell k = true) ∨
    (∃ k, s.count Call.isSeek ≤ k ∧ k < later.count Call.isSeek ∧ s.faults.onSeek k = true)

theorem not_moveFault_of_count_eq (htell : later.count Call.isTell = s.count Call.isTell)
    (hseek : later.count Call.isSeek = s.count Call.isSeek) : ¬MoveFault s later := by
  rintro (⟨k, hstart, hend, -⟩ | ⟨k, hstart, hend, -⟩) <;> omega

theorem MoveFault.split {mid : Stream} (hfault : MoveFault s later) (hmid : mid.Continues s) :
    MoveFault s mid ∨ MoveFault mid later := by
  rcases hfault with ⟨k, hstart, hend, hon⟩ | ⟨k, hstart, hend, hon⟩
  · by_cases hearly : k < mid.count Call.isTell
    · exact .inl (.inl ⟨k, hstart, hearly, hon⟩)
    · exact .inr (.inl ⟨k, Nat.not_lt.mp hearly, hend, hmid.faults ▸ hon⟩)
  · by_cases hearly : k < mid.count Call.isSeek
    · exact .inl (.inr ⟨k, hstart, hearly, hon⟩)
    · exact .inr (.inr ⟨k, Nat.not_lt.mp hearly, hend, hmid.faults ▸ hon⟩)

theorem MoveFault.of_call {call : Call} (hcalls : later.calls = s.calls ++ [call])
    (hfault : MoveFault s later) :
    (call.isTell = true ∧ s.faults.onTell (s.count Call.isTell) = true) ∨
      (call.isSeek = true ∧ s.faults.onSeek (s.count Call.isSeek) = true) := by
  have htell := count_of_calls hcalls Call.isTell
  have hseek := count_of_calls hcalls Call.isSeek
  rw [List.countP_singleton] at htell hseek
  rcases hfault with ⟨k, hstart, hend, hon⟩ | ⟨k, hstart, hend, hon⟩
  · split at htell
    · rename_i hcall
      have hk : k = s.count Call.isTell := by omega
      exact .inl ⟨hcall, hk ▸ hon⟩
    · omega
  · split at hseek
    · rename_i hcall
      have hk : k = s.count Call.isSeek := by omega
      exact .inr ⟨hcall, hk ▸ hon⟩
    · omega

theorem MoveFault.of_tell (hfault : MoveFault s (tell s).2) :
    s.faults.onTell (s.count Call.isTell) = true := by
  rcases hfault.of_call (calls_tell s) with ⟨-, hon⟩ | ⟨hseek, -⟩
  · exact hon
  · cases hseek

theorem MoveFault.of_seek_call {call : Call} (hcalls : later.calls = s.calls ++ [call])
    (hcall : call.isTell = false) (hfault : MoveFault s later) :
    s.faults.onSeek (s.count Call.isSeek) = true := by
  rcases hfault.of_call hcalls with ⟨htell, -⟩ | ⟨-, hon⟩
  · rw [hcall] at htell
    cases htell
  · exact hon

/-- The operation shows the device's failure on a move, and fails for no other reason than that and
a closed stream. -/
structure Moves {α : Type} (s : Stream) (op : Reading α) : Prop where
  error : ∀ e, (op s).1 = .error e →
    e = s.deviceError ∨ (e = .refused .closedStream ∧ s.isOpen = false)
  fault : MoveFault s (op s).2 → (op s).1 = .error s.deviceError

theorem Goes.moves {α : Type} {op : Reading α} {fault : Bool} {value : α}
    (hgoes : Goes s fault value (op s).1) (hfault : MoveFault s (op s).2 → fault = true) :
    Moves s op := by
  constructor
  · intro e he
    rw [he] at hgoes
    cases hgoes with
    | fails _ => exact .inl rfl
    | closed _ hclosed => exact .inr ⟨rfl, hclosed⟩
  · intro hmet
    have htrue := hfault hmet
    generalize (op s).1 = answer at hgoes ⊢
    cases hgoes with
    | fails _ => rfl
    | closed hwell _ => exact absurd htrue (by simp [hwell])
    | well hwell _ => exact absurd htrue (by simp [hwell])

theorem moves_tell : Moves s tell := (goes_tell s).moves MoveFault.of_tell

theorem moves_seek {q : Nat} (hq : Addressable s.content q) : Moves s (seek q) :=
  (goes_seek s hq).moves (MoveFault.of_seek_call (calls_seek q s) rfl)

theorem moves_seekEnd : Moves s seekEnd :=
  (goes_seekEnd s).moves (MoveFault.of_seek_call (calls_seekEnd s) rfl)

theorem deviceError_eq {mid : Stream} (hmid : mid.Continues s) :
    mid.deviceError = s.deviceError := by
  rw [deviceError, deviceError, hmid.faults]

theorem moves_endAndBack (hopen : s.isOpen = true) {q : Nat} (hq : Addressable s.content q) :
    Moves s (endAndBack q) := by
  have hend := keeps_seekEnd s
  have hto : Moves s seekEnd := moves_seekEnd
  have hback : Moves (seekEnd s).2 (seek q) := moves_seek (by rwa [hend.content])
  have hdevice := deviceError_eq hend
  have hfirst := endAndBack_fst q s
  constructor
  · intro e he
    rw [hfirst] at he
    cases hseek : (seek q (seekEnd s).2).1 with
    | error cause =>
      rw [hseek] at he
      cases he
      rw [← hdevice, ← hend.isOpen]
      exact hback.error _ hseek
    | ok _ =>
      rw [hseek] at he
      exact hto.error e he
  · intro hfault
    rw [endAndBack_snd] at hfault
    rw [hfirst]
    -- A failed way back hides how the way to the end went, but on an open stream the error is the
    -- same.
    cases hseek : (seek q (seekEnd s).2).1 with
    | error cause =>
      rcases hback.error cause hseek with hcause | ⟨-, hclosed⟩
      · rw [hcause, hdevice]
      · rw [hend.isOpen, hopen] at hclosed
        cases hclosed
    | ok _ =>
      rcases hfault.split hend with hearly | hlate
      · exact hto.fault hearly
      · rw [hback.fault hlate] at hseek
        cases hseek

theorem moves_size : Moves s size := by
  have htell : Moves s tell := moves_tell
  have htold := keeps_tell s
  rw [size_eq_bind]
  rcases hrun : tell s with ⟨answer, told⟩
  rw [hrun] at htold
  cases answer with
  | error e =>
    have hsame : (tell >>= fun position => endAndBack position) s = tell s := by
      rw [Reading.bind_error hrun, hrun]
    constructor
    · rw [hsame]
      exact htell.error
    · rw [hsame]
      exact htell.fault
  | ok position =>
    have hgoes := goes_tell s
    rw [hrun] at hgoes
    cases hgoes with
    | well hwell hopen =>
      have hrest : Moves told (endAndBack s.position) := by
        refine moves_endAndBack (htold.isOpen.trans hopen) ?_
        rw [htold.content]
        exact s.addressable
      have hsame : (tell >>= fun position => endAndBack position) s = endAndBack s.position told :=
        Reading.bind_ok hrun
      constructor
      · rw [hsame, ← deviceError_eq htold, ← htold.isOpen]
        exact hrest.error
      · intro hfault
        rw [hsame] at hfault ⊢
        rw [← deviceError_eq htold]
        rcases hfault.split htold with hearly | hlate
        · have hmet : MoveFault s (tell s).2 := by rwa [hrun]
          rw [hmet.of_tell] at hwell
          cases hwell
        · exact hrest.fault hlate

end

end MipTexture.Stream
