import MipTexture.Proofs.Reports

/-!
# A decode owns its stream

Whatever state a stream is in and whatever goes wrong on it, decoding closes it, once and at last.
An error of that closing takes the place of every answer. Otherwise the answer is a value or a failed
read under the given name, and where the device failed, the error says which part was being read.

Two failures are not reported as a failed read: that of a stream that was closed before, and that of
a device which was asked for a number of bytes that is no word.

Main statement: `run_owns_stream`.
-/

namespace MipTexture.Decode

def ClosesWell (s : Stream) : Prop := s.faults.onClose (s.count Call.isClose) = false

/-- What decoding can answer when the closing goes well. `made` are its calls before that. -/
inductive Outcome (name : Option String) (s : Stream) (made : List Call) :
    Except Error Decoded → Prop
  | decoded (d : Decoded) : Outcome name s made (.ok d)
  | unreadable {cause : FormatError} (hcause : cause.OfReading) :
    Outcome name s made (.error (.unreadable (.format cause) name))
  | closed (hclosed : s.isOpen = false) : Outcome name s made (.error (.refused .closedStream))
  | overlong {k : Nat} {asked : Int} (hmade : k < made.countP Call.isRead)
    (hasked : s.faults.onRead (s.count Call.isRead + k) = some (.asksFor asked))
    (hword : ¬Addressable s.content asked) : Outcome name s made (.error (.overflow .size))

structure Owned (name : Option String) (strict : Bool) (s : Stream) (made : List Call) : Prop where
  calls : (run name strict s).2.calls = s.calls ++ made ++ [.close]
  once : Call.close ∉ made
  closed : (run name strict s).2.isOpen = false
  closeFault : s.faults.onClose (s.count Call.isClose) = true →
    (run name strict s).1.answer = .error s.deviceError
  outcome : ClosesWell s → Outcome name s made (run name strict s).1.answer
  readFault : ClosesWell s → ∀ k < made.countP Call.isRead,
    s.faults.onRead (s.count Call.isRead + k) = some .fails →
      ∃ stage, (stages s)[k]? = some stage ∧
        (run name strict s).1.answer =
          .error (.unreadable (.format (.readError stage.what)) name)
  tellFault : ClosesWell s → ∀ k < made.countP Call.isTell,
    s.faults.onTell (s.count Call.isTell + k) = true →
      (run name strict s).1.answer = .error (.unreadable (.format (.readError "TXI data")) name)
  seekFault : ClosesWell s → ∀ k < made.countP Call.isSeek,
    s.faults.onSeek (s.count Call.isSeek + k) = true →
      (run name strict s).1.answer = .error (.unreadable (.format (.readError "TXI data")) name)

section

variable {name : Option String} {strict : Bool} {s : Stream} {made : List Call}

theorem answer_run_of_error (hwell : ClosesWell s) {e : Error}
    (hfailed : (wholeFile strict s).1 = .error e) :
    (run name strict s).1.answer = .error (e.asUnreadable name) := by
  rw [answer_run_of_closed hwell, answer_contents, hfailed]
  rfl

theorem outcome_of_reason (hcalls : (wholeFile strict s).2.calls = s.calls ++ made) {e : Error}
    (hreason : Reason s (wholeFile strict s).2 e) :
    Outcome name s made (.error (e.asUnreadable name)) := by
  cases hreason with
  | format hcause => exact .unreadable hcause
  | closed hclosed => exact .closed hclosed
  | @overlong k asked hstart hend hasked hword =>
    -- A reason numbers all reads of the stream, an outcome only those made here.
    rw [Stream.count_of_calls hcalls] at hend
    have hplace : s.count Call.isRead + (k - s.count Call.isRead) = k := by omega
    refine .overlong (k := k - s.count Call.isRead) (by omega) ?_ hword
    rw [hplace]
    exact hasked

theorem moveFault_of_tell (hcalls : (wholeFile strict s).2.calls = s.calls ++ made) {k : Nat}
    (hk : k < made.countP Call.isTell)
    (hfault : s.faults.onTell (s.count Call.isTell + k) = true) :
    s.MoveFault (wholeFile strict s).2 := by
  have hcount := Stream.count_of_calls hcalls Call.isTell
  exact .inl ⟨_, Nat.le_add_right _ _, by omega, hfault⟩

theorem moveFault_of_seek (hcalls : (wholeFile strict s).2.calls = s.calls ++ made) {k : Nat}
    (hk : k < made.countP Call.isSeek)
    (hfault : s.faults.onSeek (s.count Call.isSeek + k) = true) :
    s.MoveFault (wholeFile strict s).2 := by
  have hcount := Stream.count_of_calls hcalls Call.isSeek
  exact .inr ⟨_, Nat.le_add_right _ _, by omega, hfault⟩

end

/-- Decoding makes some calls that leave the stream open and then closes it, and its answer says
what went wrong in these calls. -/
theorem run_owns_stream (name : Option String) (strict : Bool) (s : Stream) :
    ∃ made, Owned name strict s made := by
  obtain ⟨made, hmade, honce, hcalls⟩ := calls_run name strict s
  rw [contents_snd] at hmade
  have hreports := reports_wholeFile s strict
  have hreads := Stream.count_of_calls hmade Call.isRead
  refine ⟨made, ⟨hcalls, honce, isOpen_run name strict s, ?_, ?_, ?_, ?_, ?_⟩⟩
  · intro hfault
    exact answer_run_of_closeFault hfault name strict
  · intro hwell
    cases hwhole : (wholeFile strict s).1 with
    | ok found =>
      rw [answer_run_of_closed hwell, answer_contents, hwhole]
      exact .decoded found.1
    | error e =>
      rw [answer_run_of_error hwell hwhole]
      exact outcome_of_reason hmade (hreports.reason e hwhole)
  · intro hwell k hk hfault
    obtain ⟨what, hwhat, hfailed⟩ := hreports.read k (by omega) hfault
    rw [List.getElem?_map, Option.map_eq_some_iff] at hwhat
    obtain ⟨stage, hstage, rfl⟩ := hwhat
    exact ⟨stage, hstage, answer_run_of_error hwell hfailed⟩
  · intro hwell k hk hfault
    exact answer_run_of_error hwell (hreports.move (moveFault_of_tell hmade hk hfault))
  · intro hwell k hk hfault
    exact answer_run_of_error hwell (hreports.move (moveFault_of_seek hmade hk hfault))

/-- A device that fails on the second read of a decode fails on the first level. One read was made
before, so the numbers of the reads start at one. -/
theorem owned_failing_level :
    let content : Bytes := Header.pack ⟨4, 1, 1, 0x04, 1⟩ (List.replicate 4 0)
      (List.replicate 114 0) ++ [10, 20, 30, 40]
    let faults : FaultPlan :=
      { FaultPlan.none with onRead := fun n => if n = 2 then some .fails else none }
    let s : Stream := { Stream.withFaults content faults with calls := [.read 0] }
    ClosesWell s ∧ s.faults.onRead (s.count Call.isRead + 1) = some .fails ∧
      (∃ made, Owned (some "a.txb") true s made ∧ made = [.read 128, .read 4]) ∧
      (run (some "a.txb") true s).1.answer = .error (.unreadable
        (.format (.readError "mip level 0 (1x1)")) (some "a.txb")) := by
  intro content faults s
  have hwell : ClosesWell s := by
    show s.faults.onClose _ = false
    rfl
  obtain ⟨made, howned⟩ := run_owns_stream (some "a.txb") true s
  have hcalls : (run (some "a.txb") true s).2.calls =
      s.calls ++ [.read 128, .read 4] ++ [.close] := by
    decide +kernel
  have hmade : made = [.read 128, .read 4] := by
    have hsame := howned.calls.symm.trans hcalls
    exact List.append_cancel_left (List.append_cancel_right hsame)
  subst hmade
  refine ⟨hwell, rfl, ⟨_, howned, rfl⟩, ?_⟩
  obtain ⟨stage, hstage, hanswer⟩ := howned.readFault hwell 1 (by decide) rfl
  have hlevel : (stages s)[1]? = some (.level 0 ⟨1, 1, 4⟩) := by decide +kernel
  have hwhat : stage = .level 0 ⟨1, 1, 4⟩ := Option.some.inj (hstage.symm.trans hlevel)
  rw [hanswer, hwhat]
  decide +kernel

/-- A device that is asked for more bytes than a word can say fails for that reason, on an open
stream too, and the error is not reported as a failed read. -/
theorem overlong_read_is_no_failed_read :
    let content : Bytes := Header.pack ⟨4, 1, 1, 0x04, 1⟩ (List.replicate 4 0)
      (List.replicate 114 0) ++ [10, 20, 30, 40]
    let faults : FaultPlan :=
      { FaultPlan.none with
        onRead := fun n => if n = 0 then some (.asksFor 9223372036854775808) else none }
    let s := Stream.withFaults content faults
    let answer := (run none true s).1.answer
    s.isOpen = true ∧ ClosesWell s ∧ answer = .error (.overflow .size) ∧
      ¬((∃ d, answer = .ok d) ∨ (∃ cause, answer = .error (.unreadable (.format cause) none)) ∨
        (s.isOpen = false ∧ answer = .error (.refused .closedStream))) := by
  intro content faults s answer
  have hanswer : answer = .error (.overflow .size) := by decide +kernel
  refine ⟨rfl, rfl, hanswer, ?_⟩
  rw [hanswer]
  rintro (⟨d, hd⟩ | ⟨cause, hcause⟩ | ⟨-, hclosed⟩)
  · cases hd
  · cases hcause
  · cases hclosed

end MipTexture.Decode
