import MipTexture.Proofs.PlainLines
import MipTexture.Settings

/-!
# The environment before its file

What an environment has, also an empty text, stays. Of what it misses a file adds the last value of each
name, in the order in which the names first stand in it, and stops at the first name or value with a null
character. The settings then see nothing but the environment that comes out: four of its names, and never
whether a value came from the file.

Main statements: `extendedBy_setMissing` for the environment, and `load_precedence` for the settings and
any loader that reads plain lines.
-/

namespace MipTexture

/-! ### Names in the order of their first lines -/

/-- The names up to the first time that `name` comes. -/
def EnvFile.upTo (names : List Text) (name : Text) : List Text :=
  names.takeWhile (fun n => n ≠ name) ++ [name]

namespace EnvFile

theorem upTo_self (name : Text) (rest : List Text) : upTo (name :: rest) name = [name] := by
  simp [upTo]

theorem upTo_cons {a name : Text} (ha : a ≠ name) (rest : List Text) :
    upTo (a :: rest) name = a :: upTo rest name := by
  simp [upTo, ha]

theorem upTo_filter {a name : Text} (ha : a ≠ name) (names : List Text) :
    upTo (names.filter (fun n => !n == a)) name = (upTo names name).filter (fun n => !n == a) := by
  induction names with
  | nil => simp [upTo, Ne.symm ha]
  | cons b rest ih =>
    by_cases hb : b = a
    · subst hb
      rw [upTo_cons ha, List.filter_cons_of_neg (by simp), List.filter_cons_of_neg (by simp), ih]
    · rw [List.filter_cons_of_pos (by simp [hb])]
      by_cases hname : b = name
      · subst hname
        rw [upTo_self, upTo_self, List.filter_cons_of_pos (by simp [hb]), List.filter_nil]
      · rw [upTo_cons hname, upTo_cons hname, ih, List.filter_cons_of_pos (by simp [hb])]

theorem forall_mem_upTo_cons {a name : Text} (ha : a ≠ name) (rest : List Text) (P : Text → Prop) :
    (∀ n ∈ upTo (a :: rest) name, P n) ↔
      P a ∧ ∀ n ∈ upTo (rest.filter (fun n => !n == a)) name, P n := by
  simp only [upTo_cons ha, upTo_filter ha, List.forall_mem_cons, List.mem_filter,
    Bool.not_eq_eq_eq_not, Bool.not_true, beq_eq_false_iff_ne, and_imp]
  constructor
  · rintro ⟨hfirst, hothers⟩
    exact ⟨hfirst, fun n hn _ => hothers n hn⟩
  · rintro ⟨hfirst, hothers⟩
    refine ⟨hfirst, fun n hn => ?_⟩
    by_cases hna : n = a
    · exact hna ▸ hfirst
    · exact hothers n hn hna

theorem mem_of_value? {vars : List Binding} {name value : Text}
    (h : value? vars name = some value) : ⟨name, value⟩ ∈ vars := by
  obtain ⟨b, hfound, rfl⟩ := Option.map_eq_some_iff.mp h
  obtain rfl : b.name = name := by simpa using List.find?_some hfound
  exact List.mem_reverse.mp (List.mem_of_find?_eq_some hfound)

end EnvFile

/-! ### Setting what is missing -/

namespace Environment

variable {env : Environment} {b : Binding}

theorem set_of_withoutNull (hname : b.name ≠ [] ∧ '=' ∉ b.name) (hnull : b.WithoutNull) :
    env.set b = .ok (fun name => if name = b.name then some b.value else env name) := by
  rw [set, if_neg (not_not_intro hnull), if_neg hname.2, if_neg hname.1]

theorem set_of_null (hnull : ¬b.WithoutNull) : env.set b = .error (.refused .nullByte) := by
  rw [set, if_pos hnull]

variable {rest : List Binding}

theorem setMissing_cons_of_present {value : Text} (h : env b.name = some value) :
    env.setMissing (b :: rest) = env.setMissing rest := by
  rw [setMissing, h]
  rfl

theorem setMissing_cons_of_null (h : env b.name = none) (hnull : ¬b.WithoutNull) :
    env.setMissing (b :: rest) = env := by
  rw [setMissing, h, set_of_null hnull]
  rfl

theorem setMissing_cons_of_withoutNull (h : env b.name = none)
    (hname : b.name ≠ [] ∧ '=' ∉ b.name) (hnull : b.WithoutNull) :
    env.setMissing (b :: rest) =
      setMissing (fun name => if name = b.name then some b.value else env name) rest := by
  rw [setMissing, h, set_of_withoutNull hname hnull]
  rfl

/-- A name that none of the variables has stays what it is. -/
theorem setMissing_of_unnamed {name : Text} (h : ∀ b ∈ rest, b.name ≠ name) :
    env.setMissing rest name = env name := by
  induction rest generalizing env with
  | nil => rfl
  | cons b rest ih =>
    have hname : name ≠ b.name := (h b List.mem_cons_self).symm
    have hothers : ∀ other ∈ rest, other.name ≠ name :=
      fun other hother => h other (List.mem_cons_of_mem b hother)
    unfold setMissing
    split
    · exact ih hothers
    · cases hset : env.set b with
      | error e => rfl
      | ok later =>
        rw [set_eq_ok hset]
        exact (ih hothers).trans (if_neg hname)

/-- A variable that comes once is set when it is missing and has no null character. -/
theorem setMissing_cons_self {value : Text} (hname : b.name ≠ [] ∧ '=' ∉ b.name)
    (hrest : ∀ other ∈ rest, other.name ≠ b.name) :
    env.setMissing (b :: rest) b.name = some value ↔
      env b.name = some value ∨ (env b.name = none ∧ b.value = value ∧ b.WithoutNull) := by
  cases henv : env b.name with
  | some w =>
    rw [setMissing_cons_of_present henv, setMissing_of_unnamed hrest, henv]
    simp
  | none =>
    by_cases hnull : b.WithoutNull
    · rw [setMissing_cons_of_withoutNull henv hname hnull, setMissing_of_unnamed hrest]
      simp [hnull]
    · rw [setMissing_cons_of_null henv hnull, henv]
      simp [hnull]

end Environment

/-! ### What a file adds -/

namespace Environment

open EnvFile (value? upTo)

/-- Of the names that are missing, none has a null character or a value with one, from the first of the
names to the first time that `name` comes. -/
def Reaches (env : Environment) (vars : List Binding) (names : List Text) (name : Text) : Prop :=
  ∀ n ∈ upTo names name, env n = none →
    ∀ value, value? vars n = some value → Binding.WithoutNull ⟨n, value⟩

/-- The environment after a file: what was there, and what is reached of the file where nothing was. -/
def ExtendedBy (env : Environment) (vars : List Binding) (later : Environment) : Prop :=
  ∀ name value, later name = some value ↔
    env name = some value ∨
      (env name = none ∧ value? vars name = some value ∧
        env.Reaches vars (vars.map Binding.name) name)

section

variable {vars : List Binding}

theorem reaches_self {env : Environment} {name : Text} {rest : List Text} :
    env.Reaches vars (name :: rest) name ↔
      (env name = none → ∀ value, value? vars name = some value →
        Binding.WithoutNull ⟨name, value⟩) := by
  simp only [Reaches, EnvFile.upTo_self, List.forall_mem_cons, List.not_mem_nil, false_implies,
    implies_true, and_true]

theorem reaches_cons {env : Environment} {a name : Text} (ha : a ≠ name) (rest : List Text) :
    env.Reaches vars (a :: rest) name ↔
      (env a = none → ∀ value, value? vars a = some value → Binding.WithoutNull ⟨a, value⟩) ∧
        env.Reaches vars (rest.filter (fun n => !n == a)) name :=
  EnvFile.forall_mem_upTo_cons ha rest _

/-- Setting one name does not change what is missing among the others. -/
theorem reaches_set {env : Environment} {a name v : Text} (ha : a ≠ name) (rest : List Text) :
    Reaches (fun n => if n = a then some v else env n) vars (rest.filter (fun n => !n == a)) name ↔
      env.Reaches vars (rest.filter (fun n => !n == a)) name := by
  refine forall₂_congr fun n hn => ?_
  rw [EnvFile.upTo_filter ha, List.mem_filter] at hn
  have hna : n ≠ a := by simpa using hn.2
  simp only [if_neg hna]

theorem name_mem_of_mem_filterMap {names : List Text} {b : Binding}
    (h : b ∈ names.eraseDups.filterMap (fun n => (value? vars n).map (Binding.mk n))) :
    b.name ∈ names := by
  obtain ⟨n, hn, hb⟩ := List.mem_filterMap.mp h
  obtain ⟨value, -, rfl⟩ := Option.map_eq_some_iff.mp hb
  exact List.mem_eraseDups.mp hn

/-- Of the names, the first decides for itself. Another name is reached when the first is there already,
has no value, or could be set. -/
theorem setMissing_names_eq_some_iff {names : List Text}
    (hnames : ∀ n ∈ names, n ≠ [] ∧ '=' ∉ n) (env : Environment) (name value : Text) :
    env.setMissing (names.eraseDups.filterMap (fun n => (value? vars n).map (Binding.mk n))) name =
        some value ↔
      env name = some value ∨
        (env name = none ∧ name ∈ names ∧ value? vars name = some value ∧
          env.Reaches vars names name) := by
  -- Removing repeated names filters the rest before it goes on, so the induction is on the length.
  induction hlength : names.length using Nat.strongRecOn generalizing names env with
  | ind length ih =>
    subst hlength
    cases names with
    | nil => simp [setMissing]
    | cons a rest =>
      have ha := hnames a List.mem_cons_self
      rw [List.eraseDups_cons, List.filterMap_cons]
      by_cases hname : a = name
      · subst hname
        have hunnamed : ∀ b ∈ (rest.filter (fun n => !n == a)).eraseDups.filterMap
            (fun n => (value? vars n).map (Binding.mk n)), b.name ≠ a := by
          intro b hb
          simpa using (List.mem_filter.mp (name_mem_of_mem_filterMap hb)).2
        rw [reaches_self]
        cases hvalue : value? vars a with
        | none => simp [setMissing_of_unnamed hunnamed]
        | some v =>
          simp only [Option.map_some]
          rw [setMissing_cons_self ha hunnamed]
          cases env a <;> simp
      · have hshorter : (rest.filter (fun n => !n == a)).length < (a :: rest).length :=
          Nat.lt_succ_of_le (List.length_filter_le _ rest)
        have hothers : ∀ n ∈ rest.filter (fun n => !n == a), n ≠ [] ∧ '=' ∉ n :=
          fun n hn => hnames n (List.mem_cons_of_mem a (List.mem_filter.mp hn).1)
        have hrest := fun env => ih _ hshorter hothers env rfl
        have hmem : name ∈ rest.filter (fun n => !n == a) ↔ name ∈ a :: rest := by
          simp [List.mem_filter, Ne.symm hname]
        rw [reaches_cons hname]
        cases hvalue : value? vars a with
        | none => simp [hrest, hmem]
        | some v =>
          simp only [Option.map_some]
          cases henv : env a with
          | some w =>
            rw [setMissing_cons_of_present henv, hrest, hmem]
            simp
          | none =>
            by_cases hnull : Binding.WithoutNull ⟨a, v⟩
            · rw [setMissing_cons_of_withoutNull henv ha hnull, hrest, hmem]
              simp [hnull, Ne.symm hname, reaches_set hname]
            · rw [setMissing_cons_of_null henv hnull]
              simp [hnull]

theorem extendedBy_setMissing (env : Environment)
    (hnames : ∀ b ∈ vars, b.name ≠ [] ∧ '=' ∉ b.name) :
    env.ExtendedBy vars (env.setMissing (EnvFile.merged vars)) := by
  intro name value
  have hsettable : ∀ n ∈ vars.map Binding.name, n ≠ [] ∧ '=' ∉ n := by
    simpa using hnames
  rw [EnvFile.merged, setMissing_names_eq_some_iff hsettable]
  constructor
  · exact Or.imp_right fun ⟨hnone, _, hvalue, hreached⟩ => ⟨hnone, hvalue, hreached⟩
  · refine Or.imp_right fun ⟨hnone, hvalue, hreached⟩ => ⟨hnone, ?_, hvalue, hreached⟩
    exact List.mem_map_of_mem (EnvFile.mem_of_value? hvalue)

/-- Without null characters every name of the file is reached. -/
theorem ExtendedBy.eq_or {env later : Environment} (h : env.ExtendedBy vars later)
    (hnull : ∀ b ∈ vars, b.WithoutNull) : later = fun name => (env name).or (value? vars name) := by
  funext name
  refine Option.ext fun value => ?_
  have hreached : env.Reaches vars (vars.map Binding.name) name :=
    fun n _ _ value hvalue => hnull _ (EnvFile.mem_of_value? hvalue)
  rw [h name value, Option.or_eq_some_iff]
  simp [hreached]

end

end Environment

/-! ### What the settings see -/

namespace FilePath

theorem ofHome_eq_error {home : Option Text} {e : Error} (h : ofHome home = .error e) :
    e = .noHome := by
  unfold ofHome at h
  split at h
  · exact (Except.error.inj h).symm
  · split at h
    · exact (Except.error.inj h).symm
    · cases h

theorem expandHome_eq_error {accounts : Accounts} {home : Option Text} {p : FilePath} {e : Error}
    (h : p.expandHome accounts home = .error e) : e = .noHome := by
  unfold expandHome at h
  split at h
  · rename_i name rest _ _
    cases hhome : ofHome (accounts.homeOf home name) with
    | ok base =>
      rw [hhome] at h
      cases h
    | error e' =>
      rw [hhome] at h
      exact Except.error.inj h ▸ ofHome_eq_error hhome
  · cases h

end FilePath

namespace Settings

open EnvFile (value?)

/-- The names that the settings ask for, but for the home directory. -/
def variableNames : List Text := [outputDirName, tempDirName, strictBoundaryName]

variable {accounts : Accounts}

theorem ofEnvironment_congr {env other : Environment} (hhome : env homeName = other homeName)
    (h : ∀ name ∈ variableNames, env name = other name) :
    ofEnvironment accounts env = ofEnvironment accounts other := by
  have hout := h outputDirName (by decide)
  have htemp := h tempDirName (by decide)
  have hstrict := h strictBoundaryName (by decide)
  simp only [ofEnvironment, hhome, hout, htemp, hstrict]

theorem directory_eq_error {home raw : Option Text} {e : Error}
    (h : directory accounts home raw = .error e) : e = .noHome := by
  unfold directory at h
  split at h
  · cases h
  · cases h
  · rename_i t _
    cases hexpand : (FilePath.ofText t).expandHome accounts home with
    | ok dir =>
      rw [hexpand] at h
      cases h
    | error e' =>
      rw [hexpand] at h
      exact Except.error.inj h ▸ FilePath.expandHome_eq_error hexpand

theorem bind_eq_error {α β : Type} {answer : Except Error α} {next : α → Except Error β} {e : Error}
    (h : (answer >>= next) = .error e) :
    answer = .error e ∨ ∃ a, answer = .ok a ∧ next a = .error e := by
  cases answer with
  | error e' =>
    obtain rfl : e' = e := Except.error.inj h
    exact Or.inl rfl
  | ok a => exact Or.inr ⟨a, rfl, h⟩

/-- Settings that cannot be read need a home directory that is not known. -/
theorem ofEnvironment_eq_error {env : Environment} {e : Error}
    (h : ofEnvironment accounts env = .error e) : e = .noHome := by
  rcases bind_eq_error h with hout | ⟨out, -, hrest⟩
  · exact directory_eq_error hout
  · rcases bind_eq_error hrest with htemp | ⟨temp, -, hpure⟩
    · exact directory_eq_error htemp
    · cases hpure

/-! ### The environment file of a tree -/

/-- The file at the path of an environment file, when there is one. -/
def envFile (t : FileTree) (path : Option Text) : Option Bytes := t.fileAt (path.getD defaultEnvPath)

theorem fileAt_of_absent {t : FileTree} {path : Text}
    (h : ∀ data, t.find (.ofText path) ≠ .ok (some (.file data))) : t.fileAt path = none := by
  have hread (data : Bytes) : t.readFile (.ofText path) ≠ .ok data := by
    intro hdata
    unfold FileTree.readFile at hdata
    split at hdata
    · cases hdata
    · cases hdata
    · cases hdata
    · rename_i found hfound
      exact h found hfound
  unfold FileTree.fileAt
  split
  · rfl
  · split
    · rename_i data hdata
      exact absurd hdata (hread data)
    · rfl

theorem effective_of_noFile {loader : Option EnvLoader} (hloader : ∀ l ∈ loader, l.Adds)
    {t : FileTree} {path : Option Text} (h : envFile t path = none) (env : Environment) :
    effective loader t env path = env := by
  cases loader with
  | none => rfl
  | some l => exact (hloader l rfl).absent env h

theorem effective_of_some {loader : Option EnvLoader} (hloader : ∀ l ∈ loader, l.Adds)
    {env : Environment} {name value : Text} (h : env name = some value) (t : FileTree)
    (path : Option Text) : effective loader t env path name = some value := by
  cases loader with
  | none => exact h
  | some l => exact (hloader l rfl).kept h

section

variable {loader : EnvLoader} {t : FileTree} {env : Environment} {path : Option Text}

theorem effective_of_plainLines (hloader : loader.ReadsPlainLines) {f : EnvFile.PlainFile} (hf : f.Plain)
    (hfile : envFile t path = some f.bytes) :
    env.ExtendedBy f.entries (effective (some loader) t env path) := by
  have hnames : ∀ b ∈ f.entries, b.name ≠ [] ∧ '=' ∉ b.name := by
    intro b hb
    have hname := hf.plainName hb
    exact ⟨hname.nonempty, fun hequals => (hname.characters '=' hequals).2.1 rfl⟩
  have hlater : effective (some loader) t env path = env.setMissing (EnvFile.merged f.entries) :=
    hloader.plain env hf hfile
  rw [hlater]
  exact env.extendedBy_setMissing hnames

/-- The outcome that an environment has alone: where there is no environment file, and where no loader
is installed. -/
structure Alone (loader : EnvLoader) (accounts : Accounts) (env : Environment)
    (outcome : Except Error Settings) : Prop where
  noFile : ∀ t path, envFile t path = none → load (some loader) accounts t env path = outcome
  noLoader : ∀ t path, load none accounts t env path = outcome

theorem alone_ofEnvironment (hloader : loader.Adds) (accounts : Accounts) (env : Environment) :
    Alone loader accounts env (ofEnvironment accounts env) where
  noFile t path hnone := by
    have hadds : ∀ l ∈ some loader, l.Adds := by simpa using hloader
    rw [load, effective_of_noFile hadds hnone]
  noLoader t path := rfl

/-- Settings are those of the environment that comes out, alone. -/
theorem alone_load (hloader : loader.Adds) (accounts : Accounts) {later : Environment}
    (h : effective (some loader) t env path = later) :
    Alone loader accounts later (load (some loader) accounts t env path) := by
  rw [load, h]
  exact alone_ofEnvironment hloader accounts later

theorem alone_load_of_noFile (hloader : loader.Adds) (accounts : Accounts)
    (h : envFile t path = none) :
    Alone loader accounts env (load (some loader) accounts t env path) :=
  alone_load hloader accounts (hloader.absent env h)

end

/-- What settings come from, for an environment and the file at a path of a tree. -/
structure Precedence (loader : EnvLoader) (accounts : Accounts) (t : FileTree) (env : Environment)
    (path : Option Text) : Prop where
  extended : ∀ f : EnvFile.PlainFile, f.Plain → envFile t path = some f.bytes →
    ∃ later, env.ExtendedBy f.entries later ∧
      Alone loader accounts later (load (some loader) accounts t env path)
  withoutNull : ∀ f : EnvFile.PlainFile, f.Plain → envFile t path = some f.bytes →
    (∀ b ∈ f.entries, b.WithoutNull) →
      Alone loader accounts (fun name => (env name).or (value? f.entries name))
        (load (some loader) accounts t env path)
  others : ∀ f g : EnvFile.PlainFile, f.Plain → g.Plain → envFile t path = some f.bytes →
    (∀ b ∈ f.entries, b.WithoutNull) → (∀ b ∈ g.entries, b.WithoutNull) →
      (∀ name ∈ variableNames, env name = none → value? f.entries name = value? g.entries name) →
        ∀ t' path', envFile t' path' = some g.bytes →
          load (some loader) accounts t env path = load (some loader) accounts t' env path'
  absent : (∀ data, t.find (.ofText (path.getD defaultEnvPath)) ≠ .ok (some (.file data))) →
    Alone loader accounts env (load (some loader) accounts t env path)
  noFile : envFile t path = none →
    Alone loader accounts env (load (some loader) accounts t env path)
  noText : ∀ data, envFile t path = some data → (∀ text : Text, data ≠ text.utf8) →
    Alone loader accounts env (load (some loader) accounts t env path)
  outcome : ∀ e, load (some loader) accounts t env path = .error e → e = .noHome

theorem load_precedence {loader : EnvLoader} (hloader : loader.ReadsPlainLines)
    (accounts : Accounts) (t : FileTree) {env : Environment} {home : Text}
    (hhome : env homeName = some home) (path : Option Text) :
    Precedence loader accounts t env path where
  extended f hf hfile :=
    ⟨_, effective_of_plainLines hloader hf hfile, alone_load hloader.toAdds accounts rfl⟩
  withoutNull f hf hfile hnull :=
    alone_load hloader.toAdds accounts ((effective_of_plainLines hloader hf hfile).eq_or hnull)
  others f g hf hg hfile hfnull hgnull hsame t' path' hfile' := by
    rw [load, load, (effective_of_plainLines hloader hf hfile).eq_or hfnull,
      (effective_of_plainLines hloader hg hfile').eq_or hgnull]
    apply ofEnvironment_congr
    · simp only [hhome, Option.some_or]
    · intro name hname
      cases hvalue : env name with
      | some value => rfl
      | none => exact hsame name hname hvalue
  absent habsent := alone_load_of_noFile hloader.toAdds accounts (fileAt_of_absent habsent)
  noFile hnone := alone_load_of_noFile hloader.toAdds accounts hnone
  noText data hfile htext := alone_load hloader.toAdds accounts (hloader.noText env hfile htext)
  outcome e herror := ofEnvironment_eq_error herror

/-- A byte that starts no character. -/
theorem noText_invalid (text : Text) : [0xFF] ≠ text.utf8 := by
  intro hbytes
  have hdecoded := EnvFile.fromUTF8?_utf8 text
  rw [← hbytes] at hdecoded
  have hnone : String.fromUTF8? ⟨#[0xFF]⟩ = none := by decide
  cases hnone.symm.trans hdecoded

/-- The output directory comes from the file and the temporary directory from the environment, which
also hides the last line of the file by an empty text. A file with only the line that counts, files that
are not there or no text, and one with a home that is not known go beside it. -/
theorem load_from_both_sides :
    let accounts : Accounts := ⟨none, fun _ => none⟩
    let env : Environment := fun name =>
      if name = homeName then some "/home/u".toList
      else if name = tempDirName then some (placeholder ++ "/t".toList)
      else if name = strictBoundaryName then some []
      else none
    let file : EnvFile.PlainFile :=
      ⟨[(.entry ⟨outputDirName, "a".toList⟩, .carriageFeed), (.empty, .feed),
        (.comment " b".toList, .carriage), (.entry ⟨homeName, "/root".toList⟩, .feed),
        (.entry ⟨outputDirName, "~/b".toList⟩, .carriage)],
        .entry ⟨strictBoundaryName, "off".toList⟩⟩
    let line : EnvFile.PlainFile := ⟨[], .entry ⟨outputDirName, "~/b".toList⟩⟩
    let unknown : EnvFile.PlainFile := ⟨[], .entry ⟨outputDirName, "~nobody".toList⟩⟩
    let holding (data : Bytes) : FileTree := ⟨[([defaultEnvPath], .file data)], [], fun _ => none⟩
    let loaded (t : FileTree) (path : Option Text) := load (some .plain) accounts t env path
    let both : Settings := ⟨some ⟨.top, ["home".toList, "u".toList, "b".toList]⟩,
      some ⟨.top, ["home".toList, "u".toList, "b".toList, "t".toList]⟩, true⟩
    let alone : Settings := ⟨none, some ⟨.here, [placeholder, "t".toList]⟩, true⟩
    loaded (holding file.bytes) none = .ok both ∧
      loaded (holding file.bytes) none = loaded (holding line.bytes) none ∧
      (∃ later, env.ExtendedBy file.entries later ∧
        load none accounts (.empty []) later none = .ok both) ∧
      loaded (.empty []) none = .ok alone ∧
      loaded (holding file.bytes) (some "x/".toList) = .ok alone ∧
      loaded (holding [0xFF]) none = .ok alone ∧
      ∃ e, loaded (holding unknown.bytes) none = .error e ∧ e = .noHome := by
  intro accounts env file line unknown holding loaded both alone
  have hhome : env homeName = some "/home/u".toList := rfl
  have hprecedence (t : FileTree) (path : Option Text) := load_precedence
    EnvLoader.readsPlainLines_plain accounts t hhome path
  have hfile : file.Plain := by decide
  have hline : line.Plain := by decide
  have hboth := (hprecedence (holding file.bytes) none).withoutNull file hfile rfl (by decide)
  have hloaded : loaded (holding file.bytes) none = .ok both :=
    (hboth.noLoader (.empty []) none).symm
  refine ⟨hloaded, ?_, ?_, ?_, ?_, ?_, ?_⟩
  · exact (hprecedence (holding file.bytes) none).others file line hfile hline rfl (by decide)
      (by decide) (by decide) (holding line.bytes) none rfl
  · obtain ⟨later, hlater, halone⟩ := (hprecedence (holding file.bytes) none).extended file hfile rfl
    exact ⟨later, hlater, (halone.noLoader (.empty []) none).trans hloaded⟩
  · have hnothing : FileTree.find (.empty []) (.ofText defaultEnvPath) = .ok none := rfl
    have habsent := (hprecedence (.empty []) none).absent (fun data hfound => by
      cases hnothing.symm.trans hfound)
    exact (habsent.noLoader (.empty []) none).symm
  · have hnone := (hprecedence (holding file.bytes) (some "x/".toList)).noFile rfl
    exact (hnone.noLoader (.empty []) none).symm
  · have hnone := (hprecedence (holding [0xFF]) none).noText [0xFF] rfl noText_invalid
    exact (hnone.noLoader (.empty []) none).symm
  · have hknown := hprecedence (holding unknown.bytes) none
    have hnone := (hknown.withoutNull unknown (by decide) rfl (by decide)).noLoader (.empty []) none
    exact ⟨.noHome, hnone.symm, hknown.outcome _ hnone.symm⟩

/-- A line for another name does matter when it holds a null character: nothing after it is set. -/
theorem null_line_hides_rest :
    let accounts : Accounts := ⟨none, fun _ => none⟩
    let env : Environment := fun name => if name = homeName then some "/home/u".toList else none
    let file : EnvFile.PlainFile :=
      ⟨[(.entry ⟨['A', '\x00', 'B'], "1".toList⟩, .feed)], .entry ⟨outputDirName, "x".toList⟩⟩
    let t : FileTree := ⟨[([defaultEnvPath], .file file.bytes)], [], fun _ => none⟩
    file.Plain ∧ envFile t none = some file.bytes ∧
      load (some .plain) accounts t env none = .ok ⟨none, none, true⟩ ∧
      load (some .plain) accounts (.empty []) (fun name => (env name).or (value? file.entries name))
        none = .ok ⟨some ⟨.here, ["x".toList]⟩, none, true⟩ := by
  intro accounts env file t
  have hplain : file.Plain := by decide
  have hfile : envFile t none = some file.bytes := rfl
  have hlater : effective (some .plain) t env none = env.setMissing (EnvFile.merged file.entries) :=
    EnvLoader.readsPlainLines_plain.plain env hplain hfile
  refine ⟨hplain, hfile, ?_, rfl⟩
  rw [load, hlater]
  rfl

end Settings

end MipTexture
