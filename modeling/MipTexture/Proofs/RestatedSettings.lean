import MipTexture.Proofs.PlaceholderJoin
import MipTexture.Proofs.Precedence

/-!
# Settings stated again

Settings that were loaded can be put back into an environment: each directory as its text, and the
boundary as a digit. Loading that environment gives the settings again. A path that was read is found
again in its text; a path that was expanded below an absolute home has no tilde in front, so nothing is
expanded a second time; and a text without the placeholder is read as it stands.

Main statement: `load_restated`.
-/

namespace MipTexture

theorem Text.replace_of_not_infix {old t : Text} (new : Text) (h : ¬old <:+: t) :
    t.replace old new = t := by
  unfold replace
  split
  · rfl
  · exact replaceFrom_of_not_infix h

namespace FilePath

theorem text_ne_nil {p : FilePath} (hp : p.Proper) : p.text ≠ [] := by
  intro hempty
  have hp : p = ofText [] := by rw [← hempty, ofText_text hp]
  rw [hp] at hempty
  exact absurd hempty (by decide)

/-- A path that no home directory changes any more, and that its text says completely. -/
structure Settled (p : FilePath) : Prop where
  proper : p.Proper
  noTilde : ¬p.StartsWithTilde

theorem settled_of_expandHome {accounts : Accounts} (haccounts : accounts.Absolute) {home : Text}
    (habsolute : home.head? = some '/') {p q : FilePath} (hp : p.Proper)
    (h : p.expandHome accounts (some home) = .ok q) : q.Settled where
  proper := proper_expandHome hp h
  noTilde := not_startsWithTilde_expandHome haccounts habsolute h

theorem Settled.expandHome_ofText_text {p : FilePath} (hp : p.Settled) (accounts : Accounts)
    (home : Option Text) : (ofText p.text).expandHome accounts home = .ok p := by
  rw [ofText_text hp.proper, expandHome_of_not_tilde hp.noTilde]

end FilePath

namespace Settings

variable {accounts : Accounts}

/-! ### Directories read from their text -/

theorem directory_eq_ok_some {home raw : Option Text} {dir : FilePath}
    (h : directory accounts home raw = .ok (some dir)) :
    ∃ t, raw = some t ∧ (FilePath.ofText t).expandHome accounts home = .ok dir := by
  unfold directory at h
  split at h
  · cases h
  · cases h
  · rename_i t _
    refine ⟨t, rfl, ?_⟩
    cases hexpand : (FilePath.ofText t).expandHome accounts home with
    | error e =>
      rw [hexpand] at h
      cases h
    | ok found =>
      rw [hexpand] at h
      cases h
      rfl

theorem settled_of_directory (haccounts : accounts.Absolute) {home : Text}
    (habsolute : home.head? = some '/') {raw : Option Text} {dir : FilePath}
    (h : directory accounts (some home) raw = .ok (some dir)) : dir.Settled := by
  obtain ⟨t, -, hexpand⟩ := directory_eq_ok_some h
  exact FilePath.settled_of_expandHome haccounts habsolute (FilePath.proper_ofText t) hexpand

theorem directory_map_text (accounts : Accounts) (home : Option Text) {dir : Option FilePath}
    (hdir : ∀ p, dir = some p → p.Settled) :
    directory accounts home (dir.map FilePath.text) = .ok dir := by
  cases dir with
  | none => rfl
  | some p =>
    have hp := hdir p rfl
    rw [Option.map_some, directory_of_ne_nil accounts home (FilePath.text_ne_nil hp.proper),
      hp.expandHome_ofText_text accounts home]
    rfl

theorem fillPlaceholder_of_free {out : Option FilePath} {t : Text}
    (h : out = none ∨ ¬placeholder <:+: t) : fillPlaceholder out t = t := by
  cases out with
  | none => rfl
  | some dir =>
    have hfree : ¬placeholder <:+: t := h.resolve_left (Option.some_ne_none dir)
    exact Text.replace_of_not_infix dir.text hfree

/-! ### What loaded settings come from -/

/-- The three answers that settings are made of, for an environment with a home directory. -/
structure ReadFrom (s : Settings) (accounts : Accounts) (home : Text) (env : Environment) : Prop where
  outputDir : directory accounts (some home) (env outputDirName) = .ok s.outputDir
  tempDir : directory accounts (some home) ((env tempDirName).map (fillPlaceholder s.outputDir)) =
    .ok s.tempDir
  strictBoundary : ((env strictBoundaryName).map (fun t => !saysNo t)).getD true =
    s.strictBoundary

theorem bind_eq_ok {α β : Type} {answer : Except Error α} {next : α → Except Error β} {b : β}
    (h : (answer >>= next) = .ok b) : ∃ a, answer = .ok a ∧ next a = .ok b := by
  cases answer with
  | error e => cases h
  | ok a => exact ⟨a, rfl, h⟩

theorem ofEnvironment_eq_ok_iff {env : Environment} {home : Text}
    (hhome : env homeName = some home) (s : Settings) :
    ofEnvironment accounts env = .ok s ↔ s.ReadFrom accounts home env := by
  constructor
  · intro h
    obtain ⟨out, hout, hrest⟩ := bind_eq_ok h
    obtain ⟨temp, htemp, hsettings⟩ := bind_eq_ok hrest
    cases hsettings
    rw [hhome] at hout htemp
    exact ⟨hout, htemp, rfl⟩
  · rintro ⟨hout, htemp, hstrict⟩
    rw [← hhome] at hout htemp
    rw [ofEnvironment_of_directories hout htemp, hstrict]

theorem ReadFrom.settled {s : Settings} {home : Text} {env : Environment}
    (hread : s.ReadFrom accounts home env) (haccounts : accounts.Absolute)
    (habsolute : home.head? = some '/') :
    (∀ dir, s.outputDir = some dir → dir.Settled) ∧
      ∀ dir, s.tempDir = some dir → dir.Settled := by
  constructor
  · intro dir hdir
    have hout := hread.outputDir
    rw [hdir] at hout
    exact settled_of_directory haccounts habsolute hout
  · intro dir hdir
    have htemp := hread.tempDir
    rw [hdir] at htemp
    exact settled_of_directory haccounts habsolute htemp

/-! ### The environment that states settings -/

def digit (strictBoundary : Bool) : Text := if strictBoundary then ['1'] else ['0']

theorem saysNo_digit (strictBoundary : Bool) : saysNo (digit strictBoundary) = !strictBoundary := by
  cases strictBoundary <;> decide

/-- The environment states the settings: what is not set in them has no variable. -/
structure RestatedBy (s : Settings) (home : Text) (env : Environment) : Prop where
  home : env homeName = some home
  outputDir : env outputDirName = s.outputDir.map FilePath.text
  tempDir : env tempDirName = s.tempDir.map FilePath.text
  strictBoundary : env strictBoundaryName = some (digit s.strictBoundary)

/-- The text of the temporary directory is left alone when it is read under the output directory. -/
def KeepsText (s : Settings) : Prop :=
  s.outputDir = none ∨ ∀ dir, s.tempDir = some dir → ¬placeholder <:+: dir.text

theorem KeepsText.map_fillPlaceholder {s : Settings} (hkeeps : s.KeepsText) :
    (s.tempDir.map FilePath.text).map (fillPlaceholder s.outputDir) =
      s.tempDir.map FilePath.text := by
  cases htemp : s.tempDir with
  | none => rfl
  | some dir =>
    have hfree : s.outputDir = none ∨ ¬placeholder <:+: dir.text :=
      hkeeps.imp_right fun hall => hall dir htemp
    rw [Option.map_some, Option.map_some, fillPlaceholder_of_free hfree]

theorem readFrom_of_restatedBy {s : Settings} {home : Text} {env : Environment}
    (hstated : s.RestatedBy home env) (hkeeps : s.KeepsText)
    (hout : ∀ dir, s.outputDir = some dir → dir.Settled)
    (htemp : ∀ dir, s.tempDir = some dir → dir.Settled) : s.ReadFrom accounts home env where
  outputDir := by
    rw [hstated.outputDir]
    exact directory_map_text accounts (some home) hout
  tempDir := by
    rw [hstated.tempDir, hkeeps.map_fillPlaceholder]
    exact directory_map_text accounts (some home) htemp
  strictBoundary := by
    rw [hstated.strictBoundary, Option.map_some, Option.getD_some, saysNo_digit, Bool.not_not]

/-- Whatever settings an environment with an absolute home and its file gave, stating them and
loading again without a file gives them back, unless the text of the temporary directory still has the
placeholder below some output directory. No directory that was loaded starts with a tilde. -/
theorem load_restated {loader : Option EnvLoader} (hloader : ∀ l ∈ loader, l.Adds)
    {accounts : Accounts} (haccounts : accounts.Absolute) {t : FileTree} {env : Environment}
    {path : Option Text} {home : Text} {s : Settings} (hhome : env homeName = some home)
    (habsolute : home.head? = some '/') (hload : load loader accounts t env path = .ok s) :
    (∀ dir, s.outputDir = some dir ∨ s.tempDir = some dir → ¬dir.StartsWithTilde) ∧
      (s.KeepsText → ∀ again t' path', s.RestatedBy home again → envFile t' path' = none →
        load loader accounts t' again path' = .ok s) := by
  have hkept := effective_of_some hloader hhome t path
  have hread : s.ReadFrom accounts home (effective loader t env path) :=
    (ofEnvironment_eq_ok_iff hkept s).mp hload
  obtain ⟨hout, htemp⟩ := hread.settled haccounts habsolute
  constructor
  · intro dir hdir
    rcases hdir with hdir | hdir
    · exact (hout dir hdir).noTilde
    · exact (htemp dir hdir).noTilde
  · intro hkeeps again t' path' hstated hnone
    rw [load, effective_of_noFile hloader hnone]
    exact (ofEnvironment_eq_ok_iff hstated.home s).mpr
      (readFrom_of_restatedBy hstated hkeeps hout htemp)

/-- The output directory starts with two slashes and the temporary one below the home of another
account; the file says the rest. -/
theorem restated_with_two_slashes :
    let accounts := oneAccount "root".toList "/root/".toList
    let home := "/home/u".toList
    let env : Environment := fun name =>
      if name = homeName then some home
      else if name = outputDirName then some "//srv/./x/..//y/".toList
      else none
    let file : EnvFile.PlainFile :=
      ⟨[(.entry ⟨tempDirName, "~root/".toList ++ placeholder⟩, .feed)],
        .entry ⟨strictBoundaryName, "Off".toList⟩⟩
    let t : FileTree := ⟨[([defaultEnvPath], .file file.bytes)], [], fun _ => none⟩
    let names := ["srv".toList, "x".toList, "..".toList, "y".toList]
    let s : Settings := ⟨some ⟨.doubleTop, names⟩, some ⟨.top, "root".toList :: names⟩, false⟩
    let again : Environment := fun name =>
      if name = homeName then some home
      else if name = outputDirName then some "//srv/x/../y".toList
      else if name = tempDirName then some "/root/srv/x/../y".toList
      else if name = strictBoundaryName then some ['0']
      else none
    load (some .plain) accounts t env none = .ok s ∧ s.KeepsText ∧ s.RestatedBy home again ∧
      load (some .plain) accounts (.empty []) again none = .ok s := by
  intro accounts home env file t names s again
  have hplain := EnvLoader.readsPlainLines_plain
  have hloader : ∀ l ∈ some EnvLoader.plain, l.Adds := by simpa using hplain.toAdds
  have haccounts : accounts.Absolute := absolute_oneAccount (by decide)
  have hhome : env homeName = some home := rfl
  have hload : load (some .plain) accounts t env none = .ok s := by
    have hlater : effective (some .plain) t env none = env.setMissing (EnvFile.merged file.entries) :=
      hplain.plain env (by decide) rfl
    rw [load, hlater]
    rfl
  have hkeeps : s.KeepsText := by
    refine Or.inr fun dir hdir => not_placeholder_infix_of_noBrace ?_
    cases hdir
    decide
  have hstated : s.RestatedBy home again := ⟨rfl, rfl, rfl, rfl⟩
  obtain ⟨-, hagain⟩ := load_restated hloader haccounts hhome (by decide) hload
  exact ⟨hload, hkeeps, hstated, hagain hkeeps again (.empty []) none hstated rfl⟩

/-- A home directory can bring the placeholder into the text, and then it is replaced when the settings
are loaded again. -/
example :
    let home := '/' :: placeholder
    let loaded (env : Environment) := load none ⟨none, fun _ => none⟩ (.empty []) env none
    loaded (withDirectories home "/o".toList "~".toList) =
        .ok ⟨some ⟨.top, ["o".toList]⟩, some ⟨.top, [placeholder]⟩, true⟩ ∧
      loaded (withDirectories home "/o".toList home) =
        .ok ⟨some ⟨.top, ["o".toList]⟩, some ⟨.doubleTop, ["o".toList]⟩, true⟩ :=
  ⟨rfl, rfl⟩

end Settings

end MipTexture
