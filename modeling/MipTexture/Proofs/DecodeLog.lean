import MipTexture.Proofs.FaultyDecode
import MipTexture.Proofs.Reports

/-!
# What a decode writes down

The log of a decode tells how far it came. It is empty until the header is read and its encoding is
known; then it has the header and what the planner says of its chain; and it has one line more when all
planned levels and the text information were read. This line follows from the text information, from the
length of the stream and from the boundary alone, whatever went wrong on other calls. What each line
says in words is written out beside it.

Main statement: `log_of_run`.
-/

namespace MipTexture.Decode

/-! ### Lines in words -/

/-- The codes of the supported encodings, with two hexadecimal digits for each. -/
def writtenCodes : List (Int × String) := [(0x04, "04"), (0x0A, "0A"), (0x0C, "0C")]

/-- The line of a header whose code is written in hexadecimal. -/
def headerLine (h : Header) (code : String) : String :=
  "DEBUG: " ++ ("TXB header: " ++ toString h.width ++ "x" ++ toString h.height ++ ", encoding 0x" ++
    code ++ ", " ++ toString h.levelCount ++ " mip maps, " ++ toString h.dataSize ++ " data bytes")

/-- The lines of a chain: none when it ended in the regular way. -/
def chainLines (chain : MipChain) : List String :=
  match chain.stop with
  | none => []
  | some (.nonSquare width height) =>
    ["DEBUG: " ++ ("mip chain stops at " ++ toString chain.levels.length ++
      " levels: non-square level " ++ toString width ++ "x" ++ toString height ++
      " below block size")]
  | some (.exhausted remaining size) =>
    ["DEBUG: " ++ ("mip chain stops at " ++ toString chain.levels.length ++
      " levels: data size exhausted (" ++ toString remaining ++ " < " ++ toString size ++ ")")]

/-- The line on text information, by whether the stream reaches the boundary. -/
def txiLine (h : Header) (streamEnd count : Nat) : String :=
  if (streamEnd : Int) < h.dataEnd then
    "WARNING: " ++ ("TXB stream ends at " ++ toString streamEnd ++
      ", before the declared data end " ++ toString h.dataEnd ++ "; no TXI data")
  else "DEBUG: " ++ ("read " ++ toString count ++ " bytes of TXI data")

theorem map_line_notes (chain : MipChain) : chain.notes.map Note.line = chainLines chain := by
  unfold MipChain.notes chainLines
  cases chain.stop with
  | none => rfl
  | some stop =>
    cases stop with
    | nonSquare width height =>
      exact congrArg (fun line => [line]) (Note.line_nonSquare _ width height)
    | exhausted remaining size =>
      exact congrArg (fun line => [line]) (Note.line_exhausted _ remaining size)

/-! ### How far a decode comes -/

/-- The header was not read, or its encoding was rejected. -/
inductive Unopened (s : Stream) : Prop
  | header {e : Error} {later : Stream} (hheader : header s = (.error e, later)) : Unopened s
  | encoding {h : Header} {opened : Stream} {cause : FormatError}
    (hheader : header s = (.ok h, opened)) (hlookup : Encoding.lookup h = .error cause) :
    Unopened s

/-- The header was read and its encoding is supported. -/
structure Opens (s opened : Stream) (h : Header) (e : Encoding) : Prop where
  header : header s = (.ok h, opened)
  encoding : Encoding.lookup h = .ok e

/-- After the header all planned levels were read, and then the text information with its note. -/
inductive Completes (strict : Bool) (s : Stream) (h : Header) (e : Encoding) (found : List Level)
    (data : Bytes) (note : Note) : Prop
  | intro {opened filled later : Stream} (hopens : Opens s opened h e)
    (hlevels : levels (MipChain.ofHeader h e).levels opened = (.ok found, filled))
    (htxi : txi strict h filled = (.ok (data, note), later)) :
    Completes strict s h e found data note

/-- The note on text information, for the length of the stream that it comes from. -/
inductive TxiNote (strict : Bool) (h : Header) (streamEnd : Nat) : Bytes → Note → Prop
  | read {data : Bytes} (hlong : h.dataEnd ≤ streamEnd) :
    TxiNote strict h streamEnd data (.txiRead data.length)
  | missing (hlenient : strict = false) (hshort : streamEnd < h.dataEnd) :
    TxiNote strict h streamEnd [] (.txiMissing streamEnd h.dataEnd)

theorem TxiNote.warning_iff {strict : Bool} {h : Header} {streamEnd : Nat} {data : Bytes}
    {note : Note} (hnote : TxiNote strict h streamEnd data note) :
    note.severity = .warning ↔ strict = false ∧ streamEnd < h.dataEnd := by
  cases hnote with
  | read hlong =>
    constructor
    · exact nofun
    · rintro ⟨-, hshort⟩
      omega
  | missing hlenient hshort => exact ⟨fun _ => ⟨hlenient, hshort⟩, fun _ => rfl⟩

theorem TxiNote.line_eq {strict : Bool} {h : Header} {streamEnd : Nat} {data : Bytes} {note : Note}
    (hnote : TxiNote strict h streamEnd data note) :
    note.line = txiLine h streamEnd data.length := by
  cases hnote with
  | read hlong => rw [txiLine, if_neg (Int.not_lt.mpr hlong), Note.line_txiRead]
  | missing hlenient hshort => rw [txiLine, if_pos hshort, Note.line_txiMissing]

section

variable {strict : Bool} {s opened later : Stream} {h : Header} {e : Encoding} {found : List Level}
  {data : Bytes} {note : Note}

theorem txiNote_of_txi (hrun : txi strict h s = (.ok (data, note), later)) :
    TxiNote strict h s.content.length data note := by
  obtain ⟨n, sized, hsize, hrest⟩ := Reading.bind_eq_ok hrun
  obtain ⟨hn, -⟩ := Stream.size_eq_ok (Reading.blaming_eq_ok hsize)
  subst hn
  split at hrest
  · rename_i hshort
    split at hrest
    · cases hrest
    · rename_i hlenient
      cases hrest
      exact .missing (eq_false_of_ne_true hlenient) hshort
  · rename_i hlong
    obtain ⟨_, moved, -, hfetch⟩ := Reading.bind_eq_ok hrest
    obtain ⟨fetched, last, -, hlast⟩ := Reading.bind_eq_ok hfetch
    cases hlast
    exact .read (Int.not_lt.mp hlong)

theorem Opens.opening (hopens : Opens s opened h e) : opening s = (.ok (h, e), opened) := by
  have hanswer : Reading.ofExcept ((Encoding.lookup h).mapError .format) opened =
      (.ok e, opened) := by
    rw [hopens.encoding]
    rfl
  exact (Reading.bind_ok hopens.header).trans (Reading.bind_ok hanswer)

theorem opens_of_opening (hrun : opening s = (.ok (h, e), opened)) : Opens s opened h e := by
  obtain ⟨hheader, -, hlookup⟩ := opening_eq_ok hrun
  exact ⟨hheader, hlookup⟩

theorem opens_of_answer (hanswer : (opening s).1 = .ok (h, e)) : Opens s (opening s).2 h e :=
  opens_of_opening (Prod.ext hanswer rfl)

theorem unopened_iff : Unopened s ↔ ∃ cause later, opening s = (.error cause, later) := by
  constructor
  · rintro (hheader | ⟨hheader, hlookup⟩)
    · exact ⟨_, _, Reading.bind_error hheader⟩
    · have hanswer (opened : Stream) {h : Header} {cause : FormatError}
          (hlookup : Encoding.lookup h = .error cause) :
          Reading.ofExcept ((Encoding.lookup h).mapError .format) opened =
            (.error (.format cause), opened) := by
        rw [hlookup]
        rfl
      exact ⟨_, _, (Reading.bind_ok hheader).trans (Reading.bind_error (hanswer _ hlookup))⟩
  · rintro ⟨cause, later, hrun⟩
    rcases hheader : header s with ⟨answer, opened⟩
    cases answer with
    | error e => exact .header hheader
    | ok h =>
      cases hlookup : Encoding.lookup h with
      | error rejected => exact .encoding hheader hlookup
      | ok e =>
        rw [Opens.opening ⟨hheader, hlookup⟩] at hrun
        cases hrun

theorem unopened_or_opens (s : Stream) : Unopened s ∨ ∃ opened h e, Opens s opened h e := by
  rcases hrun : opening s with ⟨answer, opened⟩
  cases answer with
  | error cause => exact Or.inl (unopened_iff.mpr ⟨cause, opened, hrun⟩)
  | ok found => exact Or.inr ⟨opened, found.1, found.2, opens_of_opening hrun⟩

theorem body_eq_ok {chain : MipChain} {decoded : Decoded}
    (hrun : body strict h e chain s = (.ok (decoded, note), later)) :
    ∃ filled, levels chain.levels s = (.ok decoded.texture.levels, filled) ∧
      txi strict h filled = (.ok (decoded.txi, note), later) ∧
      decoded = ⟨h, ⟨e.layout, decoded.texture.levels⟩, decoded.txi⟩ := by
  obtain ⟨found, filled, hlevels, hrest⟩ := Reading.bind_eq_ok hrun
  obtain ⟨⟨data, noted⟩, last, htxi, hlast⟩ := Reading.bind_eq_ok hrest
  cases hlast
  exact ⟨filled, hlevels, htxi, rfl⟩

theorem Completes.opens (hcompletes : Completes strict s h e found data note) :
    ∃ opened, Opens s opened h e := by
  obtain ⟨hopens, -, -⟩ := hcompletes
  exact ⟨_, hopens⟩

theorem Completes.body (hopens : Opens s opened h e)
    (hcompletes : Completes strict s h e found data note) :
    ∃ later, body strict h e (MipChain.ofHeader h e) opened =
      (.ok (⟨h, ⟨e.layout, found⟩, data⟩, note), later) := by
  obtain ⟨hopens', hlevels, htxi⟩ := hcompletes
  have hsame := hopens'.header.symm.trans hopens.header
  cases hsame
  exact ⟨_, (Reading.bind_ok hlevels).trans (Reading.bind_ok htxi)⟩

theorem Completes.txiNote (hcompletes : Completes strict s h e found data note) :
    TxiNote strict h s.content.length data note := by
  obtain @⟨opened, filled, later, hopens, hlevels, htxi⟩ := hcompletes
  have hopening := keeps_opening s
  rw [hopens.opening] at hopening
  have hfilled := keeps_levelsFrom 0 (MipChain.ofHeader h e).levels opened
  rw [levels] at hlevels
  rw [hlevels] at hfilled
  rw [← hopening.content, ← hfilled.content]
  exact txiNote_of_txi htxi

/-! ### The log for each of these -/

theorem contents_of_unopened (strict : Bool) (hunopened : Unopened s) :
    ∃ cause, (contents strict s).1 = ⟨.error cause, []⟩ := by
  obtain ⟨cause, later, hopening⟩ := unopened_iff.mp hunopened
  refine ⟨cause, ?_⟩
  rw [contents, hopening]

/-- The lines that every decode starts with once its header is known. -/
def openingLog (h : Header) (e : Encoding) : Log := .header h :: (MipChain.ofHeader h e).notes

theorem contents_of_incomplete (hopens : Opens s opened h e)
    (hincomplete : ∀ found data note, ¬Completes strict s h e found data note) :
    ∃ cause, (contents strict s).1 = ⟨.error cause, openingLog h e⟩ := by
  rcases hbody : body strict h e (MipChain.ofHeader h e) opened with ⟨answer, last⟩
  cases answer with
  | error cause => exact ⟨cause, contents_of_body_error hopens.opening hbody⟩
  | ok pair =>
    obtain ⟨filled, hlevels, htxi, -⟩ := body_eq_ok hbody
    exact absurd (.intro hopens hlevels htxi) (hincomplete _ _ _)

theorem severity_openingLog (h : Header) (e : Encoding) :
    ∀ note ∈ openingLog h e, note.severity = .debug := by
  intro note hnote
  rcases List.mem_cons.mp hnote with rfl | hchain
  · rfl
  · obtain ⟨stop, -, rfl⟩ := Option.map_eq_some_iff.mp (Option.mem_toList.mp hchain)
    rfl

theorem line_header_of_lookup (hlookup : Encoding.lookup h = .ok e) :
    ∃ code, (h.encoding, code) ∈ writtenCodes ∧ (Note.header h).line = headerLine h code := by
  obtain ⟨he, hcode⟩ :=
    Encoding.mem_supported_of_ofCode ((Encoding.lookup_eq_ok_iff h e).mp hlookup)
  have hwritten : (h.encoding, (Numeral.hex 2 h.encoding).toString) ∈ writtenCodes := by
    rw [← hcode]
    simp only [Encoding.supported, List.mem_cons, List.not_mem_nil, or_false] at he
    rcases he with rfl | rfl | rfl <;> decide
  exact ⟨_, hwritten, Note.line_header h⟩

theorem contents_of_completes (hcompletes : Completes strict s h e found data note) :
    (contents strict s).1 =
      ⟨.ok ⟨h, ⟨e.layout, found⟩, data⟩, openingLog h e ++ [note]⟩ := by
  obtain ⟨opened, hopens⟩ := hcompletes.opens
  obtain ⟨last, hbody⟩ := hcompletes.body hopens
  exact contents_of_body_ok hopens.opening hbody

/-! ### The answer for each of these -/

theorem completes_of_contents {decoded : Decoded}
    (hanswer : (contents strict s).1.answer = .ok decoded) :
    ∃ e note, Completes strict s decoded.header e decoded.texture.levels decoded.txi note := by
  rcases unopened_or_opens s with hunopened | ⟨opened, h, e, hopens⟩
  · obtain ⟨cause, hcontents⟩ := contents_of_unopened strict hunopened
    rw [hcontents] at hanswer
    cases hanswer
  · by_cases hcompletes : ∃ found data note, Completes strict s h e found data note
    · obtain ⟨found, data, note, hcompletes⟩ := hcompletes
      rw [contents_of_completes hcompletes] at hanswer
      cases hanswer
      exact ⟨e, note, hcompletes⟩
    · obtain ⟨cause, hcontents⟩ := contents_of_incomplete hopens
        fun found data note h' => hcompletes ⟨found, data, note, h'⟩
      rw [hcontents] at hanswer
      cases hanswer

/-- What is read completely is answered, but for a device that fails on the closing. -/
theorem answer_of_completes (hcompletes : Completes strict s h e found data note)
    (name : Option String) :
    (run name strict s).1.answer =
      if s.faults.onClose (s.count Call.isClose) then .error s.deviceError
      else .ok ⟨h, ⟨e.layout, found⟩, data⟩ := by
  cases hfault : s.faults.onClose (s.count Call.isClose) with
  | true =>
    rw [if_pos rfl]
    exact answer_run_of_closeFault hfault name strict
  | false =>
    rw [if_neg Bool.false_ne_true, answer_run_of_closed hfault, contents_of_completes hcompletes]
    rfl

end

/-! ### The whole decode -/

/-- What the log of a decode says. The first four say which notes it has and the next two what their
lines say in words; the others tie its last note to what was read and to the answer. -/
structure LogShape (name : Option String) (strict : Bool) (s : Stream) : Prop where
  empty : (run name strict s).1.log = [] ↔ Unopened s
  begun : Unopened s ∨ ∃ opened h e, Opens s opened h e
  lines : ∀ opened h e, Opens s opened h e → ∃ last : Option Note,
    (run name strict s).1.log = openingLog h e ++ last.toList ∧
      ∀ note, last = some note ↔ ∃ found data, Completes strict s h e found data note
  planner : ∀ opened h e, Opens s opened h e →
    openingLog h e = .header h :: (MipChain.ofHeader h e).notes ∧
      (MipChain.ofHeader h e).notes.length ≤ 1 ∧
      ∀ note ∈ openingLog h e, note.severity = .debug
  openingLines : ∀ opened h e, Opens s opened h e →
    ∃ code, (h.encoding, code) ∈ writtenCodes ∧
      (openingLog h e).map Note.line = headerLine h code :: chainLines (MipChain.ofHeader h e)
  lastLine : ∀ h e found data note, Completes strict s h e found data note →
    note.line = txiLine h s.content.length data.length
  txi : ∀ h e found data note, Completes strict s h e found data note →
    TxiNote strict h s.content.length data note ∧
      (note.severity = .warning ↔ strict = false ∧ s.content.length < h.dataEnd)
  value : ∀ decoded, (run name strict s).1.answer = .ok decoded →
    ∃ e note, Completes strict s decoded.header e decoded.texture.levels decoded.txi note
  answered : ∀ h e found data note, Completes strict s h e found data note →
    (run name strict s).1.answer =
      if s.faults.onClose (s.count Call.isClose) then .error s.deviceError
      else .ok ⟨h, ⟨e.layout, found⟩, data⟩
  failure : ∀ cause other, (run name strict s).1.answer = .error (.unreadable cause other) →
    (run name strict s).1.log = [] ∨
      ∃ opened h e, Opens s opened h e ∧ (run name strict s).1.log = openingLog h e

section

variable {strict : Bool} {s opened : Stream} {h : Header} {e : Encoding}

theorem log_of_unopened (name : Option String) (strict : Bool) (hunopened : Unopened s) :
    (run name strict s).1.log = [] := by
  obtain ⟨cause, hcontents⟩ := contents_of_unopened strict hunopened
  exact congrArg Logged.log hcontents

theorem log_of_opens (name : Option String) (strict : Bool) (hopens : Opens s opened h e) :
    ∃ last : Option Note, (run name strict s).1.log = openingLog h e ++ last.toList ∧
      ∀ note, last = some note ↔ ∃ found data, Completes strict s h e found data note := by
  by_cases hcompletes : ∃ found data note, Completes strict s h e found data note
  · obtain ⟨found, data, note, hread⟩ := hcompletes
    refine ⟨some note, congrArg Logged.log (contents_of_completes hread), ?_⟩
    intro other
    constructor
    · rintro ⟨⟩
      exact ⟨found, data, hread⟩
    · rintro ⟨found', data', hread'⟩
      obtain ⟨last, hbody⟩ := hread.body hopens
      obtain ⟨last', hbody'⟩ := hread'.body hopens
      rw [hbody] at hbody'
      cases hbody'
      rfl
  · have hincomplete : ∀ found data note, ¬Completes strict s h e found data note :=
      fun found data note hread => hcompletes ⟨found, data, note, hread⟩
    obtain ⟨cause, hcontents⟩ := contents_of_incomplete hopens hincomplete
    refine ⟨none, ?_, ?_⟩
    · rw [Option.toList_none, List.append_nil]
      exact congrArg Logged.log hcontents
    · intro note
      constructor
      · exact nofun
      · rintro ⟨found, data, hread⟩
        exact absurd hread (hincomplete found data note)

end

/-- The log of a decode has no line until the header is known, then the header with the planner's
lines, and one line more exactly when all levels and the text information were read. -/
theorem log_of_run (name : Option String) (strict : Bool) (s : Stream) :
    LogShape name strict s where
  empty := by
    constructor
    · intro hempty
      rcases unopened_or_opens s with hunopened | ⟨opened, h, e, hopens⟩
      · exact hunopened
      · obtain ⟨last, hlog, -⟩ := log_of_opens name strict hopens
        rw [hlog] at hempty
        cases hempty
    · exact log_of_unopened name strict
  begun := unopened_or_opens s
  lines _ _ _ hopens := log_of_opens name strict hopens
  planner _ h e _ := ⟨rfl, MipChain.length_notes_le _, severity_openingLog h e⟩
  openingLines _ h e hopens := by
    obtain ⟨code, hcode, hline⟩ := line_header_of_lookup hopens.encoding
    refine ⟨code, hcode, ?_⟩
    rw [openingLog, List.map_cons, hline, map_line_notes]
  lastLine h e found data note hcompletes := hcompletes.txiNote.line_eq
  txi h e found data note hcompletes :=
    ⟨hcompletes.txiNote, hcompletes.txiNote.warning_iff⟩
  value decoded hanswer := completes_of_contents (contents_of_run_ok hanswer)
  answered h e found data note hcompletes := answer_of_completes hcompletes name
  failure cause other hfailed := by
    rcases unopened_or_opens s with hunopened | ⟨opened, h, e, hopens⟩
    · exact Or.inl (log_of_unopened name strict hunopened)
    · obtain ⟨last, hlog, hlast⟩ := log_of_opens name strict hopens
      cases last with
      | none =>
        rw [Option.toList_none, List.append_nil] at hlog
        exact Or.inr ⟨opened, h, e, hopens, hlog⟩
      | some note =>
        -- A decode that came to its last line answers, or the device failed on the closing.
        obtain ⟨found, data, hcompletes⟩ := (hlast note).mp rfl
        rw [answer_of_completes hcompletes name] at hfailed
        split at hfailed <;> cases hfailed

/-- The device fails on the way to the declared end, after the level was read: the log stops with the
chain, which ended early. With the same bytes and no fault, a closing that fails hides the answer and
leaves the last line. -/
theorem log_before_failing_seek :
    let h : Header := ⟨35, 8, 8, 0x0A, 2⟩
    let content : Bytes := h.pack (List.replicate 4 0) (List.replicate 114 0) ++
      (List.replicate 32 1 ++ [7, 8, 9] ++ [65, 10])
    let seeking := Stream.withFaults content
      { FaultPlan.none with message := "gone", onSeek := fun n => n == 2 }
    let closing := Stream.withFaults content
      { FaultPlan.none with message := "gone", onClose := fun _ => true }
    (run none true seeking).1.answer =
        .error (.unreadable (.format (.readError "TXI data")) none) ∧
      (run none true seeking).1.log = [.header h, .chainEnded 1 (.exhausted 3 8)] ∧
      (run none true closing).1.answer = .error (.system (.device "gone")) ∧
      (run none true closing).1.log =
        [.header h, .chainEnded 1 (.exhausted 3 8), .txiRead 2] ∧
      (run none true closing).1.log.map Note.line =
        ["DEBUG: TXB header: 8x8, encoding 0x0A, 2 mip maps, 35 data bytes",
          "DEBUG: mip chain stops at 1 levels: data size exhausted (3 < 8)",
          "DEBUG: read 2 bytes of TXI data"] ∧
      ∃ found data, Completes true closing h Encoding.dxt1 found data (.txiRead 2) := by
  intro h content seeking closing
  have hfirst : (opening closing).1 = .ok (h, Encoding.dxt1) := by decide +kernel
  have hopens : Opens closing (opening closing).2 h Encoding.dxt1 := opens_of_answer hfirst
  have hchain : openingLog h Encoding.dxt1 = [.header h, .chainEnded 1 (.exhausted 3 8)] := by
    decide +kernel
  have hlog : (run none true closing).1.log =
      [.header h, .chainEnded 1 (.exhausted 3 8), .txiRead 2] := by decide +kernel
  obtain ⟨last, hlines, hlast⟩ := (log_of_run none true closing).lines _ _ _ hopens
  have hnote : last = some (.txiRead 2) := by
    rw [hlog, hchain] at hlines
    cases last with
    | none => cases hlines
    | some note =>
      cases hlines
      rfl
  refine ⟨by decide +kernel, by decide +kernel, by decide +kernel, hlog, ?_, (hlast _).mp hnote⟩
  rw [hlog]
  decide +kernel

end MipTexture.Decode
