import MipTexture.Proofs.StreamFrame

/-!
# Which calls are made

The calls of an operation stand at the end of the calls of the stream after it. The header and the
levels make reads only, the size of a stream makes no reads, and nothing that decoding does before
it closes is a call to close.

Main statement: `Decode.makes_wholeFile`, and for counts of calls `Reading.Makes.count_eq`.
-/

namespace MipTexture

theorem Stream.count_of_calls {s later : Stream} {made : List Call}
    (hcalls : later.calls = s.calls ++ made) (kind : Call → Bool) :
    later.count kind = s.count kind + made.countP kind := by
  rw [count, count, hcalls, List.countP_append]

namespace Call

def isMove (call : Call) : Bool := call.isTell || call.isSeek

def leavesOpen (call : Call) : Bool := !call.isClose

end Call

namespace Reading

/-- All calls that the operation makes are of one kind, also when it fails. -/
def Makes {α : Type} (kind : Call → Bool) (op : Reading α) : Prop :=
  ∀ s, ∃ made, (op s).2.calls = s.calls ++ made ∧ ∀ call ∈ made, kind call = true

namespace Makes

variable {α β : Type} {kind other : Call → Bool}

theorem none {op : Reading α} (h : ∀ s, (op s).2.calls = s.calls) : Makes kind op := by
  intro s
  refine ⟨[], ?_, by simp⟩
  rw [h s, List.append_nil]

theorem one {op : Reading α} {call : Call} (h : ∀ s, (op s).2.calls = s.calls ++ [call])
    (hkind : kind call = true) : Makes kind op :=
  fun s => ⟨[call], h s, by simpa using hkind⟩

theorem pure (a : α) : Makes kind (Pure.pure a : Reading α) := none fun _ => rfl

theorem ofExcept (answer : Except Error α) : Makes kind (Reading.ofExcept answer) :=
  none fun _ => rfl

theorem mono {op : Reading α} (h : Makes kind op)
    (hsub : ∀ call, kind call = true → other call = true) : Makes other op := by
  intro s
  obtain ⟨made, hcalls, hkind⟩ := h s
  exact ⟨made, hcalls, fun call hcall => hsub call (hkind call hcall)⟩

theorem bind {first : Reading α} {second : α → Reading β} (hfirst : Makes kind first)
    (hsecond : ∀ a, Makes kind (second a)) : Makes kind (first >>= second) := by
  intro s
  obtain ⟨made, hcalls, hkind⟩ := hfirst s
  rcases hrun : first s with ⟨answer, mid⟩
  rw [hrun] at hcalls
  cases answer with
  | error e =>
    rw [bind_error hrun]
    exact ⟨made, hcalls, hkind⟩
  | ok a =>
    obtain ⟨more, hmore, hkinds⟩ := hsecond a mid
    rw [bind_ok hrun]
    refine ⟨made ++ more, ?_, ?_⟩
    · rw [hmore, hcalls, List.append_assoc]
    · intro call hcall
      rcases List.mem_append.mp hcall with hearly | hlate
      · exact hkind call hearly
      · exact hkinds call hlate

theorem blaming (what : String) {op : Reading α} (hop : Makes kind op) :
    Makes kind (Reading.blaming what op) := fun s => hop s

theorem count_eq {op : Reading α} (hop : Makes kind op) {counted : Call → Bool}
    (hapart : ∀ call, kind call = true → counted call = false) (s : Stream) :
    (op s).2.count counted = s.count counted := by
  obtain ⟨made, hcalls, hkind⟩ := hop s
  have hnone : made.countP counted = 0 := by
    rw [List.countP_eq_zero]
    intro call hcall
    rw [hapart call (hkind call hcall)]
    exact Bool.false_ne_true
  rw [Stream.count_of_calls hcalls, hnone, Nat.add_zero]

end Makes

end Reading

namespace Call

theorem isTell_of_isRead : ∀ call : Call, call.isRead = true → call.isTell = false
  | .read _, _ => rfl

theorem isSeek_of_isRead : ∀ call : Call, call.isRead = true → call.isSeek = false
  | .read _, _ => rfl

theorem isRead_of_isMove : ∀ call : Call, call.isMove = true → call.isRead = false
  | .seekEnd, _ | .seek _, _ | .tell, _ => rfl

theorem leavesOpen_of_isRead : ∀ call : Call, call.isRead = true → call.leavesOpen = true
  | .read _, _ => rfl

theorem leavesOpen_of_isMove : ∀ call : Call, call.isMove = true → call.leavesOpen = true
  | .seekEnd, _ | .seek _, _ | .tell, _ => rfl

theorem isClose_of_leavesOpen : ∀ call : Call, call.leavesOpen = true → call.isClose = false
  | .read _, _ | .seekEnd, _ | .seek _, _ | .tell, _ => rfl

end Call

namespace Stream

open Reading (Makes)

theorem makes_seek (position : Int) : Makes Call.isMove (seek position) :=
  Makes.one (calls_seek position) rfl

theorem makes_tell : Makes Call.isMove tell := Makes.one calls_tell rfl

theorem calls_readExact (size : Int) (what : String) (s : Stream) :
    (readExact size what s).2.calls = s.calls ++ if 0 < size then [.read size] else [] := by
  rw [readExact_snd]
  split
  · exact calls_read size s
  · exact (List.append_nil s.calls).symm

theorem makes_readExact (size : Int) (what : String) : Makes Call.isRead (readExact size what) := by
  intro s
  refine ⟨_, calls_readExact size what s, ?_⟩
  split <;> simp [Call.isRead]

theorem calls_endAndBack (position : Nat) (s : Stream) :
    (endAndBack position s).2.calls = s.calls ++ [.seekEnd, .seek position] := by
  rw [endAndBack_snd, calls_seek, calls_seekEnd, List.append_assoc, List.singleton_append]

theorem makes_endAndBack (position : Nat) : Makes Call.isMove (endAndBack position) :=
  fun s => ⟨_, calls_endAndBack position s, by simp [Call.isMove, Call.isSeek]⟩

theorem makes_size : Makes Call.isMove size := by
  rw [size_eq_bind]
  exact makes_tell.bind makes_endAndBack

end Stream

namespace Decode

open Reading (Keeps Makes)

theorem makes_header : Makes Call.isRead header := by
  rw [header_eq_bind]
  exact (Stream.makes_readExact _ _).bind fun data => Makes.ofExcept _

theorem makes_opening : Makes Call.isRead opening := by
  refine makes_header.bind fun h => ?_
  exact (Makes.ofExcept _).bind fun e => Makes.pure _

theorem makes_levelsFrom (number : Nat) (plans : List LevelPlan) :
    Makes Call.isRead (levelsFrom number plans) := by
  induction plans generalizing number with
  | nil => exact Makes.pure []
  | cons plan rest ih =>
    refine (Stream.makes_readExact _ _).bind fun data => ?_
    exact (ih (number + 1)).bind fun others => Makes.pure _

theorem makes_txi (strict : Bool) (h : Header) : Makes Call.leavesOpen (txi strict h) := by
  have hsize := Stream.makes_size.mono Call.leavesOpen_of_isMove
  refine (hsize.blaming _).bind fun streamEnd => ?_
  split
  · split
    · exact Makes.ofExcept _
    · exact Makes.pure _
  · have hseek := (Stream.makes_seek h.dataEnd).mono Call.leavesOpen_of_isMove
    refine (hseek.blaming _).bind fun _ => ?_
    have hread := (Stream.makes_readExact (streamEnd - h.dataEnd) "TXI data").mono
      Call.leavesOpen_of_isRead
    exact hread.bind fun data => Makes.pure _

theorem makes_body (strict : Bool) (h : Header) (e : Encoding) (chain : MipChain) :
    Makes Call.leavesOpen (body strict h e chain) := by
  have hlevels := (makes_levelsFrom 0 chain.levels).mono Call.leavesOpen_of_isRead
  refine hlevels.bind fun found => ?_
  exact (makes_txi strict h).bind fun rest => Makes.pure _

/-! ### Everything before the closing, as one operation -/

def wholeFile (strict : Bool) : Reading (Decoded × Note) :=
  opening >>= fun found => body strict found.1 found.2 (MipChain.ofHeader found.1 found.2)

theorem contents_eq_wholeFile (strict : Bool) (s : Stream) :
    ((contents strict s).1.answer, (contents strict s).2) =
      ((wholeFile strict s).1.map Prod.fst, (wholeFile strict s).2) := by
  rcases hopening : opening s with ⟨answer, mid⟩
  cases answer with
  | error e =>
    rw [contents, hopening, wholeFile, Reading.bind_error hopening]
    rfl
  | ok found =>
    rw [contents, hopening, wholeFile, Reading.bind_ok hopening]
    dsimp only
    rcases body strict found.1 found.2 (MipChain.ofHeader found.1 found.2) mid with ⟨answer, last⟩
    cases answer <;> rfl

theorem answer_contents (strict : Bool) (s : Stream) :
    (contents strict s).1.answer = (wholeFile strict s).1.map Prod.fst :=
  congrArg Prod.fst (contents_eq_wholeFile strict s)

theorem contents_snd (strict : Bool) (s : Stream) :
    (contents strict s).2 = (wholeFile strict s).2 :=
  congrArg Prod.snd (contents_eq_wholeFile strict s)

theorem makes_wholeFile (strict : Bool) : Makes Call.leavesOpen (wholeFile strict) :=
  (makes_opening.mono Call.leavesOpen_of_isRead).bind fun _ => makes_body strict _ _ _

/-! ### Closing -/

theorem countClose_contents (strict : Bool) (s : Stream) :
    (contents strict s).2.count Call.isClose = s.count Call.isClose := by
  rw [contents_snd]
  exact (makes_wholeFile strict).count_eq Call.isClose_of_leavesOpen s

theorem close_contents (strict : Bool) (s : Stream) :
    (contents strict s).2.close.1 =
      if s.faults.onClose (s.count Call.isClose) then .error s.deviceError else .ok () := by
  -- No call before this one is a close, so it is the one that the stream as given has a fault for.
  have hfaults := (continues_contents strict s).faults
  rw [Stream.close, hfaults, countClose_contents, Stream.deviceError, hfaults]
  split <;> rfl

theorem answer_run_of_closeFault {s : Stream}
    (hfault : s.faults.onClose (s.count Call.isClose) = true) (name : Option String)
    (strict : Bool) : (run name strict s).1.answer = .error s.deviceError := by
  rw [run, close_contents, if_pos hfault]
  rfl

theorem answer_run_of_closed {s : Stream}
    (hwell : s.faults.onClose (s.count Call.isClose) = false) (name : Option String)
    (strict : Bool) : (run name strict s).1.answer =
      (contents strict s).1.answer.mapError (Error.asUnreadable name) := by
  rw [run, close_contents, hwell]
  rfl

theorem calls_run (name : Option String) (strict : Bool) (s : Stream) :
    ∃ made, (contents strict s).2.calls = s.calls ++ made ∧ Call.close ∉ made ∧
      (run name strict s).2.calls = s.calls ++ made ++ [.close] := by
  obtain ⟨made, hcalls, hkind⟩ := makes_wholeFile strict s
  rw [← contents_snd] at hcalls
  refine ⟨made, hcalls, ?_, ?_⟩
  · intro hclose
    exact absurd (hkind _ hclose) Bool.false_ne_true
  · show (contents strict s).2.close.2.calls = _
    rw [Stream.calls_close, hcalls]

end Decode

end MipTexture
