import MipTexture.Proofs.AnsweredReads
import MipTexture.Proofs.MadeCalls
import MipTexture.Stream.Session

/-!
# What a session keeps

The requests of a session meet their stream one after another, with faults numbered over the whole
session, so the stream may stand anywhere. Its content stays, and it is closed by the first request
to decode and by nothing else.

Main statement: `step_of_session`, for any request of any session.
-/

namespace MipTexture

/-! ### What an answer tells of the stream -/

namespace Reading

/-- The operation answers on an open stream only. -/
def NeedsOpen {α : Type} (op : Reading α) : Prop :=
  ∀ s later a, op s = (.ok a, later) → s.isOpen = true

namespace NeedsOpen

variable {α β : Type}

theorem bind_left {first : Reading α} (hfirst : NeedsOpen first) (second : α → Reading β) :
    NeedsOpen (first >>= second) := by
  intro s later b hrun
  obtain ⟨a, mid, hmid, -⟩ := bind_eq_ok hrun
  exact hfirst s mid a hmid

theorem bind_right {first : Reading α} {second : α → Reading β} (hkeeps : Keeps first)
    (hsecond : ∀ a, NeedsOpen (second a)) : NeedsOpen (first >>= second) := by
  intro s later b hrun
  obtain ⟨a, mid, hmid, hlast⟩ := bind_eq_ok hrun
  have hkept := hkeeps s
  rw [hmid] at hkept
  rw [← hkept.isOpen]
  exact hsecond a mid later b hlast

theorem blaming (what : String) {op : Reading α} (hop : NeedsOpen op) :
    NeedsOpen (Reading.blaming what op) :=
  fun s later a hrun => hop s later a (blaming_eq_ok hrun)

end NeedsOpen

end Reading

namespace Stream

open Reading (NeedsOpen)

theorem needsOpen_jump (position : Int) : NeedsOpen (jump position) := by
  intro s later a hrun
  unfold jump at hrun
  split at hrun
  · split at hrun
    · assumption
    · cases hrun
  · cases hrun

theorem needsOpen_tell : NeedsOpen tell := by
  intro s later a hrun
  unfold tell at hrun
  split at hrun
  · cases hrun
  · split at hrun
    · assumption
    · cases hrun

theorem needsOpen_size : NeedsOpen size := by
  rw [size_eq_bind]
  exact needsOpen_tell.bind_left _

theorem needsOpen_deliver (asked : Int) : NeedsOpen (deliver asked) := by
  intro s later given hrun
  unfold deliver at hrun
  split at hrun
  · split at hrun
    · assumption
    · cases hrun
  · cases hrun

/-- A device that gives nothing does so on a closed stream too, so only a read that gives bytes tells
that the stream is open. -/
theorem isOpen_of_read {size : Int} {s later : Stream} {data : Bytes}
    (hrun : read size s = (.ok (some data), later)) : s.isOpen = true := by
  unfold read at hrun
  split at hrun
  · cases hrun
  · cases hrun
  · exact needsOpen_deliver _ (s.record _) _ _ hrun
  · exact needsOpen_deliver _ (s.record _) _ _ hrun

theorem needsOpen_readExact {size : Int} (hsize : size ≠ 0) (what : String) :
    NeedsOpen (readExact size what) := by
  intro s later data hrun
  unfold readExact at hrun
  split at hrun
  · cases hrun
  · rcases hread : Reading.blaming what (read size) s with ⟨answer, after⟩
    rw [hread] at hrun
    cases answer with
    | error e => cases hrun
    | ok given =>
      cases given with
      | none =>
        have hexact : exactly size what [] = .ok data := (Prod.mk.inj hrun).1
        obtain ⟨rfl, hlength⟩ := (exactly_eq_ok_iff _ _ _ _).mp hexact
        exact absurd hlength.symm hsize
      | some found => exact isOpen_of_read (Reading.blaming_eq_ok hread)

end Stream

namespace Decode

open Reading (NeedsOpen)

theorem needsOpen_header : NeedsOpen header := by
  rw [header_eq_bind]
  exact (Stream.needsOpen_readExact (by decide) _).bind_left _

theorem needsOpen_levelsFrom (number : Nat) {plans : List LevelPlan} {plan : LevelPlan}
    (hmem : plan ∈ plans) (hsize : plan.size ≠ 0) : NeedsOpen (levelsFrom number plans) := by
  induction hmem generalizing number with
  | head rest => exact (Stream.needsOpen_readExact hsize _).bind_left _
  | tail first hrest ih =>
    refine NeedsOpen.bind_right (Stream.keeps_readExact _ _) fun data => ?_
    exact (ih (number + 1)).bind_left _

theorem needsOpen_txi (strict : Bool) (h : Header) : NeedsOpen (txi strict h) :=
  (Stream.needsOpen_size.blaming _).bind_left _

theorem needsOpen_wholeFile (strict : Bool) : NeedsOpen (wholeFile strict) := by
  refine NeedsOpen.bind_left ?_ _
  exact needsOpen_header.bind_left _

theorem isOpen_of_run {name : Option String} {strict : Bool} {s : Stream} {d : Decoded}
    (hrun : (run name strict s).1.answer = .ok d) : s.isOpen = true := by
  cases hfault : s.faults.onClose (s.count Call.isClose) with
  | true =>
    rw [answer_run_of_closeFault hfault] at hrun
    cases hrun
  | false =>
    rw [answer_run_of_closed hfault, answer_contents] at hrun
    rcases hwhole : wholeFile strict s with ⟨answer, later⟩
    rw [hwhole] at hrun
    cases answer with
    | error e => cases hrun
    | ok found => exact needsOpen_wholeFile strict s later found hwhole

theorem levelsFrom_of_empty (number : Nat) {plans : List LevelPlan}
    (hempty : ∀ plan ∈ plans, plan.size = 0) (s : Stream) :
    ∃ found, levelsFrom number plans s = (.ok found, s) := by
  induction plans generalizing number with
  | nil => exact ⟨[], rfl⟩
  | cons plan rest ih =>
    obtain ⟨others, hothers⟩ :=
      ih (number + 1) fun other hother => hempty other (List.mem_cons_of_mem _ hother)
    have hread : Stream.readExact plan.size (levelName number plan) s = (.ok [], s) := by
      rw [hempty plan List.mem_cons_self]
      rfl
    refine ⟨.ofPlan plan [] :: others, ?_⟩
    show (Stream.readExact plan.size (levelName number plan) >>= _) s = _
    rw [Reading.bind_ok hread, Reading.bind_ok hothers]
    rfl

end Decode

namespace StreamRequest

open Reading (Keeps Makes)

def isDecode : StreamRequest → Bool
  | .decode _ _ => true
  | _ => false

/-- The request asks for at least one read, seek or tell: all do but those for no bytes at all. -/
def NeedsStream : StreamRequest → Prop
  | .readExact size _ => size ≠ 0
  | .levels plans => ∃ plan ∈ plans, plan.size ≠ 0
  | _ => True

theorem isOpen_of_answer {request : StreamRequest} {s : Stream} {answer : StreamAnswer}
    (hneeds : request.NeedsStream) (hrun : (request.run s).1.answer = .ok answer) :
    s.isOpen = true := by
  have hquiet {α : Type} {view : α → StreamAnswer} {op : Reading α} (hop : op.NeedsOpen)
      (hanswer : (op s).1.map view = .ok answer) : s.isOpen = true := by
    rcases hop' : op s with ⟨given, later⟩
    rw [hop'] at hanswer
    cases given with
    | error e => cases hanswer
    | ok a => exact hop s later a hop'
  cases request with
  | readExact size what => exact hquiet (Stream.needsOpen_readExact hneeds what) hrun
  | measure => exact hquiet Stream.needsOpen_size hrun
  | jump position => exact hquiet (Stream.needsOpen_jump position) hrun
  | header => exact hquiet Decode.needsOpen_header hrun
  | levels plans =>
    obtain ⟨plan, hmem, hsize⟩ := hneeds
    exact hquiet (Decode.needsOpen_levelsFrom 0 hmem hsize) hrun
  | txi strict dataSize =>
    have hnoted : (noted (Decode.txi strict (sizeOnly dataSize) s).1).answer = .ok answer := hrun
    rcases htxi : Decode.txi strict (sizeOnly dataSize) s with ⟨given, later⟩
    rw [htxi] at hnoted
    cases given with
    | error e => cases hnoted
    | ok found => exact Decode.needsOpen_txi strict _ s later found htxi
  | decode name strict =>
    have hmapped : (Decode.run name strict s).1.answer.map .decoded = .ok answer := hrun
    cases hdecoded : (Decode.run name strict s).1.answer with
    | error e =>
      rw [hdecoded] at hmapped
      cases hmapped
    | ok d => exact Decode.isOpen_of_run hdecoded

theorem run_of_not_needsStream {request : StreamRequest} (hidle : ¬request.NeedsStream)
    (s : Stream) : (request.run s).2 = s ∧ ∃ answer, (request.run s).1.answer = .ok answer := by
  cases request with
  | readExact size what =>
    have hzero : size = 0 := Decidable.not_not.mp hidle
    subst hzero
    exact ⟨rfl, _, rfl⟩
  | levels plans =>
    have hempty : ∀ plan ∈ plans, plan.size = 0 := by simpa [NeedsStream] using hidle
    obtain ⟨found, hfound⟩ := Decode.levelsFrom_of_empty 0 hempty s
    have hrun : (StreamRequest.levels plans).run s = (.silent (.ok (.levels found)), s) := by
      rw [run, quiet, Decode.levels, hfound]
      rfl
    rw [hrun]
    exact ⟨rfl, _, rfl⟩
  | _ => exact absurd trivial hidle

/-! ### One request -/

/-- What the requests so far have left of a stream with this content. -/
structure Kept (content : Bytes) (requests : List StreamRequest) (s : Stream) : Prop where
  content : s.content = content
  closes : s.count Call.isClose = requests.countP isDecode
  closed : s.isOpen = false ↔ ∃ request ∈ requests, request.isDecode = true

theorem run_of_not_decode {request : StreamRequest} (hother : request.isDecode = false)
    (s : Stream) : (request.run s).2.Continues s ∧
      (request.run s).2.count Call.isClose = s.count Call.isClose := by
  have hopen {α : Type} {op : Reading α} (hkeeps : Keeps op) (hmakes : Makes Call.leavesOpen op) :
      (op s).2.Continues s ∧ (op s).2.count Call.isClose = s.count Call.isClose :=
    ⟨hkeeps s, hmakes.count_eq Call.isClose_of_leavesOpen s⟩
  cases request with
  | readExact size what =>
    exact hopen (Stream.keeps_readExact size what)
      ((Stream.makes_readExact size what).mono Call.leavesOpen_of_isRead)
  | measure => exact hopen Stream.keeps_size (Stream.makes_size.mono Call.leavesOpen_of_isMove)
  | jump position =>
    exact hopen (Stream.keeps_jump position) (Makes.none (Stream.calls_jump position))
  | header =>
    exact hopen Decode.keeps_header (Decode.makes_header.mono Call.leavesOpen_of_isRead)
  | levels plans =>
    exact hopen (Decode.keeps_levelsFrom 0 plans)
      ((Decode.makes_levelsFrom 0 plans).mono Call.leavesOpen_of_isRead)
  | txi strict dataSize => exact hopen (Decode.keeps_txi strict _) (Decode.makes_txi strict _)
  | decode name strict => cases hother

theorem run_of_decode {request : StreamRequest} (hdecode : request.isDecode = true) (s : Stream) :
    (request.run s).2.content = s.content ∧ (request.run s).2.isOpen = false ∧
      (request.run s).2.count Call.isClose = s.count Call.isClose + 1 := by
  cases request with
  | decode name strict =>
    have hcontents := Decode.continues_contents strict s
    have hclose := Stream.calls_close (Decode.contents strict s).2
    have hcount := Decode.countClose_contents strict s
    refine ⟨?_, Decode.isOpen_run name strict s, ?_⟩
    · exact (Stream.content_close _).trans hcontents.content
    · rw [← hcount]
      exact Stream.count_of_calls hclose Call.isClose
  | _ => cases hdecode

theorem Kept.step {content : Bytes} {before : List StreamRequest} {s : Stream}
    (hs : Kept content before s) (request : StreamRequest) :
    Kept content (before ++ [request]) (request.run s).2 := by
  cases hkind : request.isDecode with
  | true =>
    obtain ⟨hcontent, hclosed, hcount⟩ := run_of_decode hkind s
    constructor
    · rw [hcontent, hs.content]
    · rw [hcount, hs.closes, List.countP_append, List.countP_singleton, if_pos hkind]
    · rw [hclosed]
      exact iff_of_true rfl ⟨request, by simp, hkind⟩
  | false =>
    obtain ⟨hcontinues, hcount⟩ := run_of_not_decode hkind s
    constructor
    · rw [hcontinues.content, hs.content]
    · rw [hcount, hs.closes, List.countP_append, List.countP_singleton, hkind]
      rfl
    · rw [hcontinues.isOpen, hs.closed]
      simp [hkind]

/-! ### Whole sessions -/

/-- The stream that a session leaves. -/
def streamAfter (requests : List StreamRequest) (s : Stream) : Stream :=
  requests.foldl (fun met request => (request.run met).2) s

theorem kept_start (content : Bytes) (faults : FaultPlan) :
    Kept content [] (Stream.withFaults content faults) :=
  ⟨rfl, rfl, by simp [Stream.withFaults]⟩

theorem Kept.run {content : Bytes} {before : List StreamRequest} {s : Stream}
    (hs : Kept content before s) (requests : List StreamRequest) :
    Kept content (before ++ requests) (streamAfter requests s) := by
  induction requests generalizing before s with
  | nil =>
    rw [List.append_nil]
    exact hs
  | cons request rest ih =>
    have hrest := ih (hs.step request)
    rw [List.append_assoc] at hrest
    exact hrest

theorem getElem?_runAll (before : List StreamRequest) (request : StreamRequest)
    (after : List StreamRequest) (s : Stream) :
    (runAll (before ++ request :: after) s)[before.length]? =
      some (request.run (streamAfter before s)) := by
  induction before generalizing s with
  | nil => rfl
  | cons first rest ih => exact ih (first.run s).2

/-- What a request does in a session, to the stream that it meets there. -/
structure Step (content : Bytes) (before : List StreamRequest) (request : StreamRequest)
    (met : Stream) : Prop where
  kept : Kept content (before ++ [request]) (request.run met).2
  slice : ∀ size what answer, request = .readExact size what →
    (request.run met).1.answer = .ok answer →
      ∃ n : Nat, size = n ∧ answer = .data (content.slice met.position n) ∧
        (content.slice met.position n).length = n ∧
        (request.run met).2.position = met.position + n
  fails : (∃ earlier ∈ before, earlier.isDecode = true) → request.NeedsStream →
    ∃ e, (request.run met).1.answer = .error e
  idle : ¬request.NeedsStream →
    (request.run met).2 = met ∧ ∃ answer, (request.run met).1.answer = .ok answer

theorem slice_of_readExact {size : Int} {what : String} {s : Stream} {answer : StreamAnswer}
    (hrun : ((readExact size what).run s).1.answer = .ok answer) :
    ∃ n : Nat, size = n ∧ answer = .data (s.content.slice s.position n) ∧
      (s.content.slice s.position n).length = n ∧
      ((readExact size what).run s).2.position = s.position + n := by
  have hmapped : (Stream.readExact size what s).1.map .data = .ok answer := hrun
  rcases hread : Stream.readExact size what s with ⟨given, later⟩
  rw [hread] at hmapped
  cases given with
  | error e => cases hmapped
  | ok data =>
    obtain ⟨n, hsize, hdata, hposition, -⟩ := Stream.readExact_eq_ok hread
    have hlength : (data.length : Int) = size := Stream.length_readExact hread
    have hlater : ((readExact size what).run s).2 = later := congrArg Prod.snd hread
    subst hdata
    refine ⟨n, hsize, (Except.ok.inj hmapped).symm, by omega, ?_⟩
    rw [hlater, hposition]

/-- Whatever a session asked for before and whatever went wrong, the content of its stream is as it
was, and the stream was closed once by each decode and by nothing else. An exact read that answers
gives the bytes that stand there, and after a decode nothing is answered that needs the stream. -/
theorem step_of_session (content : Bytes) (faults : FaultPlan) (before : List StreamRequest)
    (request : StreamRequest) (after : List StreamRequest) :
    let s := Stream.withFaults content faults
    let met := streamAfter before s
    (runAll (before ++ request :: after) s)[before.length]? = some (request.run met) ∧
      Step content before request met := by
  intro s met
  have hmet : Kept content before met := (kept_start content faults).run before
  refine ⟨getElem?_runAll before request after s, hmet.step request, ?_, ?_, ?_⟩
  · rintro size what answer rfl hrun
    rw [← hmet.content]
    exact slice_of_readExact hrun
  · intro hdecoded hneeds
    have hclosed := hmet.closed.mpr hdecoded
    cases hanswer : (request.run met).1.answer with
    | error e => exact ⟨e, rfl⟩
    | ok answer =>
      have hopen := isOpen_of_answer hneeds hanswer
      rw [hclosed] at hopen
      cases hopen
  · intro hidle
    exact run_of_not_needsStream hidle met

/-- The second read of this session is given the whole rest, which is what it asked for. The device
fails on the closing, and the stream is closed all the same. -/
theorem step_after_failed_closing :
    let content : Bytes := [1, 2, 3, 4, 5]
    let faults : FaultPlan :=
      { FaultPlan.none with
        onRead := fun n => if n = 1 then some (.asksFor (-1)) else none
        onClose := fun _ => true }
    let early := streamAfter [.readExact 2 "a"] (.withFaults content faults)
    let late := streamAfter [.readExact 2 "a", .readExact 3 "b", .decode none true]
      (.withFaults content faults)
    ((readExact 3 "b").run early).1.answer = .ok (.data [3, 4, 5]) ∧
      ((readExact 3 "b").run early).2.position = 5 ∧
      (∃ e, (measure.run late).1.answer = .error e) ∧
      (measure.run late).2.count Call.isClose = 1 ∧
      (∃ answer, ((readExact 0 "c").run late).1.answer = .ok answer) := by
  intro content faults early late
  have hread : ((readExact 3 "b").run early).1.answer = .ok (.data [3, 4, 5]) := rfl
  obtain ⟨-, hearly⟩ := step_of_session content faults [.readExact 2 "a"] (.readExact 3 "b") []
  obtain ⟨-, hlate⟩ := step_of_session content faults
    [.readExact 2 "a", .readExact 3 "b", .decode none true] .measure []
  obtain ⟨-, hnothing⟩ := step_of_session content faults
    [.readExact 2 "a", .readExact 3 "b", .decode none true] (.readExact 0 "c") []
  obtain ⟨n, hn, -, -, hposition⟩ := hearly.slice 3 "b" _ rfl hread
  have hthree : n = 3 := by omega
  subst hthree
  refine ⟨hread, hposition, ?_, hlate.kept.closes, ?_⟩
  · exact hlate.fails ⟨.decode none true, by simp, rfl⟩ trivial
  · exact (hnothing.idle (by simp [NeedsStream])).2

end StreamRequest

end MipTexture
