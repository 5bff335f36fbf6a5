import MipTexture.Proofs.AnsweredReads
import MipTexture.Proofs.CallFailures
import MipTexture.Proofs.SoundFile

/-!
# What a failure tells

Reading a file before it is closed fails for one of three reasons: the file itself, a stream that is
closed, and a device that was asked for a number of bytes that is no word. A call on which the
device fails always shows, under the name of the part that was being read.

Main statement: `reports_wholeFile`, put together from the parts of a file by `Reports.bind`.
-/

namespace MipTexture

/-- The format errors that reading a file can give. -/
inductive FormatError.OfReading : FormatError → Prop
  | truncated (what : String) (expected actual : Option Int) :
    OfReading (.truncated what expected actual)
  | unknownEncoding (message : String) (h : Header) : OfReading (.unknownEncoding message h)
  | unsupportedEncoding (message : String) (h : Header) : OfReading (.unsupportedEncoding message h)

namespace Decode

open Reading (Keeps Makes)

inductive Reason (s later : Stream) : Error → Prop
  | format {cause : FormatError} (hcause : cause.OfReading) : Reason s later (.format cause)
  | closed (hclosed : s.isOpen = false) : Reason s later (.refused .closedStream)
  | overlong {k : Nat} {asked : Int} (hstart : s.count Call.isRead ≤ k)
    (hend : k < later.count Call.isRead) (hasked : s.faults.onRead k = some (.asksFor asked))
    (hword : ¬Addressable s.content asked) : Reason s later (.overflow .size)

theorem Reason.of_continues {s mid later : Stream} {e : Error} (hmid : mid.Continues s)
    (hcount : s.count Call.isRead ≤ mid.count Call.isRead) (h : Reason mid later e) :
    Reason s later e := by
  cases h with
  | format hcause => exact .format hcause
  | closed hclosed => exact .closed (hmid.isOpen ▸ hclosed)
  | overlong hstart hend hasked hword =>
    exact .overlong (hcount.trans hstart) hend (hmid.faults ▸ hasked) (hmid.content ▸ hword)

/-- Every failure has a reason, and a call on which the device failed shows. `names` are the parts
that the operation reads, one call for each. -/
structure Reports {α : Type} (s : Stream) (op : Reading α) (names : List String) : Prop where
  reason : ∀ e, (op s).1 = .error e → Reason s (op s).2 e
  read : ∀ k, s.count Call.isRead + k < (op s).2.count Call.isRead →
    s.faults.onRead (s.count Call.isRead + k) = some .fails →
      ∃ what, names[k]? = some what ∧ (op s).1 = .error (.format (.readError what))
  move : Stream.MoveFault s (op s).2 → (op s).1 = .error (.format (.readError "TXI data"))

namespace Reports

variable {α β : Type} {s : Stream} {names : List String}

theorem ofExcept {answer : Except Error α} (hreason : ∀ e, answer = .error e → Reason s s e) :
    Reports s (Reading.ofExcept answer) names where
  reason := hreason
  read := fun _ hk => absurd hk (Nat.not_lt.mpr (Nat.le_add_right _ _))
  move := fun hfault => absurd hfault (Stream.not_moveFault_of_count_eq rfl rfl)

theorem pure (a : α) : Reports s (Pure.pure a : Reading α) names := by
  show Reports s (Reading.ofExcept (.ok a)) names
  exact ofExcept fun e he => by cases he

theorem bind (names rest : List String) {first : Reading α} {second : α → Reading β}
    (hfirst : Reports s first names)
    (hkeeps : Keeps first)
    (hsecond : ∀ a mid, first s = (.ok a, mid) →
      mid.count Call.isRead = s.count Call.isRead + names.length ∧ Reports mid (second a) rest) :
    Reports s (first >>= second) (names ++ rest) := by
  rcases hrun : first s with ⟨answer, mid⟩
  have hmid : mid.Continues s := by
    have hkept := hkeeps s
    rwa [hrun] at hkept
  cases answer with
  | error e =>
    constructor
    · intro cause hcause
      rw [Reading.bind_error hrun] at hcause ⊢
      cases hcause
      have hreason := hfirst.reason e (by rw [hrun])
      rwa [hrun] at hreason
    · intro k hk hfault
      rw [Reading.bind_error hrun] at hk ⊢
      obtain ⟨what, hwhat, he⟩ := hfirst.read k (by rwa [hrun]) hfault
      rw [hrun] at he
      cases he
      obtain ⟨hlt, -⟩ := List.getElem?_eq_some_iff.mp hwhat
      exact ⟨what, by rw [List.getElem?_append_left hlt, hwhat], rfl⟩
    · intro hfault
      rw [Reading.bind_error hrun] at hfault ⊢
      have he := hfirst.move (by rwa [hrun])
      rw [hrun] at he
      cases he
      rfl
  | ok a =>
    -- The first operation made a read for each of its names, so the others come after these.
    obtain ⟨hcount, hrest⟩ := hsecond a mid hrun
    constructor
    · intro e he
      rw [Reading.bind_ok hrun] at he ⊢
      exact (hrest.reason e he).of_continues hmid (by omega)
    · intro k hk hfault
      rw [Reading.bind_ok hrun] at hk ⊢
      by_cases hearly : s.count Call.isRead + k < mid.count Call.isRead
      · obtain ⟨what, -, he⟩ := hfirst.read k (by rwa [hrun]) hfault
        rw [hrun] at he
        cases he
      · have hplace : s.count Call.isRead + k = mid.count Call.isRead + (k - names.length) := by
          omega
        rw [hplace] at hk
        rw [hplace, ← hmid.faults] at hfault
        obtain ⟨what, hwhat, he⟩ := hrest.read _ hk hfault
        exact ⟨what, by rw [List.getElem?_append_right (by omega), hwhat], he⟩
    · intro hfault
      rw [Reading.bind_ok hrun] at hfault ⊢
      rcases hfault.split hmid with hearly | hlate
      · have he := hfirst.move (by rwa [hrun])
        rw [hrun] at he
        cases he
      · exact hrest.move hlate

theorem bind_pure {op : Reading α} (hop : Reports s op names) (f : α → β) :
    Reports s (op >>= fun a => Pure.pure (f a)) names := by
  have hrun : (op >>= fun a => Pure.pure (f a)) s = ((op s).1.map f, (op s).2) := by
    rcases hop : op s with ⟨answer, later⟩
    cases answer with
    | error e => exact Reading.bind_error hop
    | ok a => exact Reading.bind_ok hop
  have herror (e : Error) : (op s).1.map f = .error e ↔ (op s).1 = .error e := by
    cases (op s).1 <;> simp [Except.map]
  constructor
  · simpa only [hrun, herror] using hop.reason
  · simpa only [hrun, herror] using hop.read
  · simpa only [hrun, herror] using hop.move

/-- System errors on the way to the text information are reported as its failed read. -/
theorem blaming {op : Reading α} (hop : Stream.Moves s op) (hmakes : Makes Call.isMove op) :
    Reports s (Reading.blaming "TXI data" op) names := by
  constructor
  · intro e he
    rw [Reading.blaming] at he
    cases hanswer : (op s).1 with
    | ok a =>
      rw [hanswer] at he
      cases he
    | error cause =>
      rw [hanswer] at he
      rcases hop.error cause hanswer with hcause | ⟨hcause, hclosed⟩
      · subst hcause
        cases he
        exact .format (.truncated _ _ _)
      · subst hcause
        cases he
        exact .closed hclosed
  · intro k hk
    have hcount : (Reading.blaming "TXI data" op s).2.count Call.isRead = s.count Call.isRead :=
      (hmakes.blaming _).count_eq Call.isRead_of_isMove s
    omega
  · intro hfault
    rw [Reading.blaming, hop.fault hfault]
    rfl

end Reports

/-! ### Exact reads -/

theorem reports_readExact {s : Stream} {n : Nat} (hword : Addressable s.content n) (what : String) :
    Reports s (Stream.readExact n what) [what] := by
  have hmakes := Stream.makes_readExact n what
  by_cases hn : n = 0
  · -- Nothing is asked for, so no call is made.
    subst hn
    exact Reports.pure []
  · have hpos : (0 : Int) < n := by omega
    have hcount : (Stream.readExact n what s).2.count Call.isRead = s.count Call.isRead + 1 :=
      Stream.count_readExact hpos rfl
    constructor
    · intro e he
      generalize (Stream.readExact n what s).2 = later at hcount ⊢
      rw [Stream.readExact_of_ne_zero hn, Reading.blaming] at he
      cases hread : (Stream.read n s).1 with
      | ok given =>
        rw [hread] at he
        have hexact : Stream.exactly n what (given.getD []) = .error e := he
        unfold Stream.exactly at hexact
        split at hexact
        · cases hexact
        · cases hexact
          exact .format (.truncated _ _ _)
      | error cause =>
        rw [hread] at he
        rcases Stream.read_eq_error hword hread with hcause | ⟨hcause, hclosed⟩ |
          ⟨hcause, asked, hasked, hbad⟩
        · subst hcause
          cases he
          exact .format (.truncated _ _ _)
        · subst hcause
          cases he
          exact .closed hclosed
        · subst hcause
          cases he
          exact .overlong (Nat.le_refl _) (by omega) hasked hbad
    · intro k hk hfault
      have hk0 : k = 0 := by omega
      subst hk0
      exact ⟨what, rfl, Stream.readExact_of_fails hfault hn what⟩
    · intro hfault
      refine absurd hfault (Stream.not_moveFault_of_count_eq ?_ ?_)
      · exact hmakes.count_eq Call.isTell_of_isRead s
      · exact hmakes.count_eq Call.isSeek_of_isRead s

/-! ### The parts of a file -/

section

variable {s later : Stream}

theorem header_eq_ok {h : Header} (hrun : header s = (.ok h, later)) :
    ∃ data, Header.ofBytes data = some h ∧
      Stream.readExact Header.size "TXB header" s = (.ok data, later) := by
  rw [header_eq_bind] at hrun
  obtain ⟨data, mid, hread, hrest⟩ := Reading.bind_eq_ok hrun
  cases hbytes : Header.ofBytes data with
  | none =>
    rw [hbytes] at hrest
    cases hrest
  | some found =>
    rw [hbytes] at hrest
    cases hrest
    exact ⟨data, hbytes, hread⟩

theorem reports_header (s : Stream) : Reports s header ["TXB header"] := by
  rw [header_eq_bind]
  refine Reports.bind ["TXB header"] [] (reports_readExact (addressable_of_lt (by decide)) _)
    (Stream.keeps_readExact _ _) ?_
  intro data mid hread
  refine ⟨Stream.count_readExact (by decide) hread, Reports.ofExcept ?_⟩
  intro e he
  have hlength := Stream.length_readExact hread
  have hlong : Header.ofBytes data ≠ none := by
    rw [ne_eq, Header.ofBytes_eq_none_iff]
    omega
  cases hbytes : Header.ofBytes data with
  | none => exact absurd hbytes hlong
  | some h =>
    rw [hbytes] at he
    cases he

theorem opening_eq_ok {h : Header} {e : Encoding} (hrun : opening s = (.ok (h, e), later)) :
    header s = (.ok h, later) ∧ h.Fits ∧ Encoding.lookup h = .ok e := by
  obtain ⟨found, mid, hheader, hrest⟩ := Reading.bind_eq_ok hrun
  cases hlookup : Encoding.lookup found with
  | error cause =>
    have hanswer : Reading.ofExcept ((Encoding.lookup found).mapError .format) mid =
        (.error (.format cause), mid) := by
      rw [hlookup]
      rfl
    rw [Reading.bind_error hanswer] at hrest
    cases hrest
  | ok code =>
    have hanswer : Reading.ofExcept ((Encoding.lookup found).mapError .format) mid =
        (.ok code, mid) := by
      rw [hlookup]
      rfl
    rw [Reading.bind_ok hanswer] at hrest
    cases hrest
    obtain ⟨data, hbytes, -⟩ := header_eq_ok hheader
    exact ⟨hheader, Header.fits_of_ofBytes hbytes, hlookup⟩

theorem count_opening {h : Header} {e : Encoding} (hrun : opening s = (.ok (h, e), later)) :
    later.count Call.isRead = s.count Call.isRead + 1 := by
  obtain ⟨data, -, hread⟩ := header_eq_ok (opening_eq_ok hrun).1
  exact Stream.count_readExact (by decide) hread

theorem lookup_eq_error {h : Header} {cause : FormatError}
    (hlookup : Encoding.lookup h = .error cause) : cause.OfReading := by
  unfold Encoding.lookup at hlookup
  split at hlookup
  · cases hlookup
  · split at hlookup
    · cases hlookup
      exact .unsupportedEncoding _ _
    · cases hlookup
      exact .unknownEncoding _ _

theorem reports_opening (s : Stream) : Reports s opening ["TXB header"] := by
  refine Reports.bind ["TXB header"] [] (reports_header s) keeps_header ?_
  intro h mid hrun
  obtain ⟨data, -, hread⟩ := header_eq_ok hrun
  refine ⟨Stream.count_readExact (by decide) hread, Reports.bind_pure (Reports.ofExcept ?_) _⟩
  intro e he
  cases hlookup : Encoding.lookup h with
  | error cause =>
    rw [hlookup] at he
    cases he
    exact .format (lookup_eq_error hlookup)
  | ok code =>
    rw [hlookup] at he
    cases he

theorem count_levelsFrom {number : Nat} {plans : List LevelPlan} {found : List Level}
    (hsizes : ∀ plan ∈ plans, 0 < plan.size)
    (hrun : levelsFrom number plans s = (.ok found, later)) :
    later.count Call.isRead = s.count Call.isRead + plans.length := by
  induction plans generalizing s number found with
  | nil =>
    cases hrun
    rfl
  | cons plan rest ih =>
    obtain ⟨data, mid, hread, hothers⟩ := Reading.bind_eq_ok hrun
    obtain ⟨others, last, hlevels, hend⟩ := Reading.bind_eq_ok hothers
    cases hend
    have hcount := Stream.count_readExact (hsizes plan List.mem_cons_self) hread
    have hrest := ih (fun other hother => hsizes other (List.mem_cons_of_mem _ hother)) hlevels
    rw [List.length_cons]
    omega

theorem reports_levelsFrom (s : Stream) (number : Nat) {plans : List LevelPlan}
    (hsizes : ∀ plan ∈ plans, 0 < plan.size ∧ plan.size < 2 ^ 63) :
    Reports s (levelsFrom number plans)
      ((plans.zipIdx number).map fun level => levelName level.2 level.1) := by
  induction plans generalizing s number with
  | nil => exact Reports.pure []
  | cons plan rest ih =>
    have hplan := hsizes plan List.mem_cons_self
    obtain ⟨n, hn⟩ := Int.eq_ofNat_of_zero_le (Int.le_of_lt hplan.1)
    rw [levelsFrom_cons, List.zipIdx_cons, List.map_cons]
    refine Reports.bind [levelName number plan] _ ?_ (Stream.keeps_readExact _ _) ?_
    · rw [hn]
      exact reports_readExact (addressable_of_lt (by omega)) _
    · intro data mid hread
      refine ⟨Stream.count_readExact hplan.1 hread, Reports.bind_pure ?_ _⟩
      exact ih mid (number + 1) fun other hother => hsizes other (List.mem_cons_of_mem _ hother)

theorem reports_txi (s : Stream) (strict : Bool) {h : Header} (hfits : h.Fits) :
    Reports s (txi strict h) ["TXI data"] := by
  refine Reports.bind [] ["TXI data"] (Reports.blaming Stream.moves_size Stream.makes_size)
    (Stream.keeps_size.blaming _) ?_
  intro n sized hsize
  have hcount := (Stream.makes_size.blaming "TXI data").count_eq Call.isRead_of_isMove s
  have hsized := Stream.keeps_size.blaming "TXI data" s
  rw [hsize] at hcount hsized
  obtain ⟨hn, -⟩ := Stream.size_eq_ok (Reading.blaming_eq_ok hsize)
  refine ⟨hcount, ?_⟩
  split
  · split
    · refine Reports.ofExcept ?_
      intro e he
      cases he
      exact .format (.truncated _ _ _)
    · exact Reports.pure _
  · rename_i hlong
    have hnonneg : 0 ≤ h.dataEnd := by
      have hsizes := hfits.dataSize.1
      unfold Header.dataEnd
      omega
    -- The size found is that of the content, so what is left up to it is a word.
    obtain ⟨q, hq⟩ := Int.eq_ofNat_of_zero_le hnonneg
    obtain ⟨m, hm⟩ := Int.eq_ofNat_of_zero_le (a := (n : Int) - h.dataEnd) (by omega)
    rw [hq] at hlong hm ⊢
    rw [hm]
    have hword : Addressable sized.content q := by
      rw [hsized.content]
      exact addressable_of_le (by omega)
    have hseek := Stream.makes_seek (q : Int)
    refine Reports.bind [] ["TXI data"] (Reports.blaming (Stream.moves_seek hword) hseek)
      ((Stream.keeps_seek _).blaming _) ?_
    intro _ moved hrun
    have hcounts := (hseek.blaming "TXI data").count_eq Call.isRead_of_isMove sized
    have hmoved := (Stream.keeps_seek (q : Int)).blaming "TXI data" sized
    rw [hrun] at hcounts hmoved
    refine ⟨hcounts, Reports.bind_pure (reports_readExact ?_ _) _⟩
    rw [hmoved.content, hsized.content]
    exact addressable_of_le (by omega)

/-! ### The whole file -/

/-- The parts of a file that are read one by one. -/
inductive Stage where
  | header
  | level (number : Nat) (plan : LevelPlan)
  | txi
  deriving Repr, DecidableEq

def Stage.what : Stage → String
  | .header => "TXB header"
  | .level number plan => levelName number plan
  | .txi => "TXI data"

/-- The parts in the order in which they are read, as far as the stream tells of them: the levels
are known once the header is. -/
def stages (s : Stream) : List Stage :=
  .header ::
    match (opening s).1 with
    | .error _ => []
    | .ok (h, e) =>
      ((MipChain.ofHeader h e).levels.zipIdx.map fun level => .level level.2 level.1) ++ [.txi]

theorem reports_body {h : Header} {e : Encoding} (hfits : h.Fits)
    (hlookup : Encoding.lookup h = .ok e) (s : Stream) (strict : Bool) :
    Reports s (body strict h e (MipChain.ofHeader h e))
      (((MipChain.ofHeader h e).levels.zipIdx.map fun level => levelName level.2 level.1) ++
        ["TXI data"]) := by
  have hsizes {plan : LevelPlan} (hplan : plan ∈ (MipChain.ofHeader h e).levels) :=
    MipChain.size_ofHeader (supported_of_lookup hlookup) hplan
  refine Reports.bind _ _ (reports_levelsFrom s 0 ?_) (keeps_levelsFrom _ _) ?_
  · intro plan hplan
    have hbounds := hsizes hplan
    exact ⟨hbounds.1, by omega⟩
  · intro found mid hrun
    refine ⟨?_, Reports.bind_pure (reports_txi mid strict hfits) _⟩
    rw [List.length_map, List.length_zipIdx]
    exact count_levelsFrom (fun plan hplan => (hsizes hplan).1) hrun

theorem reports_wholeFile (s : Stream) (strict : Bool) :
    Reports s (wholeFile strict) ((stages s).map Stage.what) := by
  rw [stages, List.map_cons]
  refine Reports.bind ["TXB header"] _ (reports_opening s) keeps_opening ?_
  rintro ⟨h, e⟩ mid hrun
  obtain ⟨-, hfits, hlookup⟩ := opening_eq_ok hrun
  refine ⟨count_opening hrun, ?_⟩
  rw [hrun]
  simp only [List.map_append, List.map_map]
  exact reports_body hfits hlookup mid strict

end

end Decode

end MipTexture
