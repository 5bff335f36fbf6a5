import Mathlib.Data.List.DropRight
import MipTexture.Proofs.PathText
import MipTexture.Settings

/-!
# The placeholder of the output directory

The placeholder is replaced in the text of the temporary directory, and the text that comes out is read
as a path. For a placeholder at the start this is a join of paths: the printed output directory ends
before the slash that follows it, and no tilde comes to the front that the output directory did not
have there. The exception is an output directory that is only slashes, whose text takes one slash more.

Main statement: `tempDir_of_placeholder`.
-/

namespace MipTexture

/-! ### Replacing at the start -/

namespace Text

variable {old new : Text}

theorem replaceFrom_eq_drop (skip : Nat) (t : Text) :
    replaceFrom old new skip t = replaceFrom old new 0 (t.drop skip) := by
  induction skip generalizing t with
  | zero => rfl
  | succ skip ih =>
    cases t with
    | nil => rfl
    | cons c rest =>
      rw [List.drop_succ_cons, ← ih rest]
      rfl

theorem replaceFrom_of_not_infix {t : Text} (h : ¬old <:+: t) : replaceFrom old new 0 t = t := by
  induction t with
  | nil => rfl
  | cons c rest ih =>
    obtain ⟨hstart, hrest⟩ := not_or.mp (mt List.infix_cons_iff.mpr h)
    rw [replaceFrom, if_neg (mt List.isPrefixOf_iff_prefix.mp hstart), ih hrest]

theorem replace_append_of_not_infix {t : Text} (hne : old ≠ []) (h : ¬old <:+: t) :
    (old ++ t).replace old new = new ++ t := by
  obtain ⟨c, rest, rfl⟩ := List.exists_cons_of_ne_nil hne
  have hstart : (c :: rest).isPrefixOf (c :: (rest ++ t)) = true :=
    List.isPrefixOf_iff_prefix.mpr (List.prefix_append (c :: rest) t)
  rw [replace, if_neg hne, List.cons_append, replaceFrom, if_pos hstart, replaceFrom_eq_drop,
    List.length_cons, Nat.add_sub_cancel, List.drop_left, replaceFrom_of_not_infix h]

end Text

/-! ### Directories that were expanded -/

namespace FilePath

/-- What is left of a home that is empty or starts at the top starts at the top. -/
theorem head?_homeText {home : Text} (h : home = [] ∨ home.head? = some '/') :
    (homeText home).head? = some '/' := by
  have hstart : (home.reverse.dropWhile (· = '/')).reverse <+: home :=
    List.rdropWhile_prefix (fun c => decide (c = '/')) home
  unfold homeText
  dsimp only
  split
  · rfl
  · rename_i hne
    obtain ⟨tail, htail⟩ := hstart
    obtain ⟨c, rest, hcons⟩ := List.exists_cons_of_ne_nil hne
    rw [hcons] at htail ⊢
    rw [← htail] at h
    exact h.resolve_left (List.cons_ne_nil c _)

theorem ofHome_eq_ok {home : Option Text} {base : FilePath} (h : ofHome home = .ok base) :
    ∃ t, home = some t ∧ base = ofText (homeText t) := by
  unfold ofHome at h
  split at h
  · cases h
  · split at h
    · cases h
    · exact ⟨_, rfl, (Except.ok.inj h).symm⟩

variable {accounts : Accounts}

/-- What expanding a path can give: a path below the home of an account, or the path itself. -/
theorem expandHome_eq_ok {home : Option Text} {p q : FilePath}
    (h : p.expandHome accounts home = .ok q) :
    (∃ name t rest, accounts.homeOf home name = some t ∧ p.parts = ('~' :: name) :: rest ∧
      q = ⟨(ofText (homeText t)).anchor, (ofText (homeText t)).parts ++ rest⟩) ∨
      (¬p.StartsWithTilde ∧ q = p) := by
  by_cases htilde : p.StartsWithTilde
  · obtain ⟨hanchor, name, rest, hparts⟩ := htilde
    obtain ⟨anchor, parts⟩ := p
    obtain rfl : anchor = .here := hanchor
    obtain rfl : parts = ('~' :: name) :: rest := hparts
    have hmap : (ofHome (accounts.homeOf home name)).map
        (fun base => (⟨base.anchor, base.parts ++ rest⟩ : FilePath)) = .ok q := h
    cases hhome : ofHome (accounts.homeOf home name) with
    | error e =>
      rw [hhome] at hmap
      cases hmap
    | ok base =>
      rw [hhome] at hmap
      obtain ⟨t, ht, rfl⟩ := ofHome_eq_ok hhome
      exact Or.inl ⟨name, t, rest, ht, rfl, (Except.ok.inj hmap).symm⟩
  · rw [expandHome_of_not_tilde htilde] at h
    exact Or.inr ⟨htilde, (Except.ok.inj h).symm⟩

theorem proper_expandHome {home : Option Text} {p q : FilePath} (hp : p.Proper)
    (h : p.expandHome accounts home = .ok q) : q.Proper := by
  rcases expandHome_eq_ok h with ⟨name, t, rest, -, hparts, rfl⟩ | ⟨-, rfl⟩
  · intro piece hpiece
    rcases List.mem_append.mp hpiece with hbase | hrest
    · exact proper_ofText _ piece hbase
    · exact hp piece (hparts ▸ List.mem_cons_of_mem _ hrest)
  · exact hp

theorem startsWithTilde_iff (p : FilePath) :
    p.StartsWithTilde ↔ p.anchor = .here ∧ p.parts.head?.bind List.head? = some '~' := by
  constructor
  · rintro ⟨hanchor, user, rest, hparts⟩
    rw [hparts]
    exact ⟨hanchor, rfl⟩
  · rintro ⟨hanchor, hhead⟩
    obtain ⟨first, hfirst, htilde⟩ := Option.bind_eq_some_iff.mp hhead
    obtain ⟨rest, hparts⟩ := List.head?_eq_some_iff.mp hfirst
    obtain ⟨user, rfl⟩ := List.head?_eq_some_iff.mp htilde
    exact ⟨hanchor, user, rest, hparts⟩

instance (p : FilePath) : Decidable p.StartsWithTilde :=
  decidable_of_iff _ p.startsWithTilde_iff.symm

theorem homeOf_absolute (haccounts : accounts.Absolute) {home name t : Text}
    (hhome : home.head? = some '/') (h : accounts.homeOf (some home) name = some t) :
    t = [] ∨ t.head? = some '/' := by
  unfold Accounts.homeOf at h
  split at h
  · rw [← Option.some.inj h]
    exact .inr hhome
  · exact haccounts name t h

theorem not_startsWithTilde_expandHome (haccounts : accounts.Absolute) {home : Text}
    (hhome : home.head? = some '/') {p q : FilePath}
    (h : p.expandHome accounts (some home) = .ok q) : ¬q.StartsWithTilde := by
  rcases expandHome_eq_ok h with ⟨name, t, rest, ht, -, rfl⟩ | ⟨htilde, rfl⟩
  · have habsolute := homeOf_absolute haccounts hhome ht
    rintro ⟨hanchor, -⟩
    exact anchor_ofText_of_slash (head?_homeText habsolute) hanchor
  · exact htilde

theorem not_startsWithTilde_join {p q : FilePath} (hp : ¬p.StartsWithTilde)
    (hq : ¬q.StartsWithTilde) : ¬(p.join q).StartsWithTilde := by
  unfold join
  split
  · rename_i hanchor
    rintro ⟨hhere, user, rest, hparts⟩
    cases hp' : p.parts with
    | nil =>
      rw [hp'] at hparts
      exact hq ⟨hanchor, user, rest, hparts⟩
    | cons first others =>
      simp only [hp', List.cons_append] at hparts
      obtain ⟨rfl, -⟩ := List.cons.inj hparts
      exact hp ⟨hhere, user, others, hp'⟩
  · exact hq

end FilePath

namespace Settings

open FilePath (ofText)

theorem placeholder_ne_nil : placeholder ≠ [] := by decide

theorem not_placeholder_infix_of_noBrace {r : Text} (h : '\x7b' ∉ r) : ¬placeholder <:+: r := by
  intro hinside
  exact h (hinside.subset (by decide))

theorem not_placeholder_infix_slash {r : Text} (h : ¬placeholder <:+: r) :
    ¬placeholder <:+: '/' :: r := by
  rw [List.infix_cons_iff]
  rintro (hstart | hinside)
  · obtain ⟨tail, htail⟩ := hstart
    have hfirst : placeholder = '\x7b' :: placeholder.tail := by decide
    rw [hfirst] at htail
    exact absurd (List.cons.inj htail).1 (by decide)
  · exact h hinside

theorem directory_of_ne_nil {raw : Text} (accounts : Accounts) (home : Option Text)
    (hne : raw ≠ []) :
    directory accounts home (some raw) = ((ofText raw).expandHome accounts home).map some := by
  cases raw with
  | nil => exact absurd rfl hne
  | cons c rest => rfl

theorem ofEnvironment_of_directories {accounts : Accounts} {env : Environment}
    {out temp : Option FilePath}
    (hout : directory accounts (env homeName) (env outputDirName) = .ok out)
    (htemp : directory accounts (env homeName) ((env tempDirName).map (fillPlaceholder out)) =
      .ok temp) :
    ofEnvironment accounts env =
      .ok ⟨out, temp, ((env strictBoundaryName).map (fun t => !saysNo t)).getD true⟩ := by
  show (directory _ _ _ >>= _) = _
  rw [hout]
  show (directory _ _ _ >>= _) = _
  rw [htemp]
  rfl

theorem fillPlaceholder_slash {dir : FilePath} {r : Text} (h : ¬placeholder <:+: r) :
    fillPlaceholder (some dir) (placeholder ++ '/' :: r) = dir.text ++ '/' :: r :=
  Text.replace_append_of_not_infix placeholder_ne_nil (not_placeholder_infix_slash h)

/-- The temporary directory that the placeholder, a slash and a text name is the output directory
joined with the path of the text, wherever the two variables come from. After an output directory
that is only slashes the number of slashes changes instead. -/
theorem tempDir_of_placeholder {loader : Option EnvLoader} {accounts : Accounts}
    (haccounts : accounts.Absolute) {t : FileTree} {env : Environment} {path : Option Text}
    {home raw r : Text} {dir : FilePath} (hhome : effective loader t env path homeName = some home)
    (habsolute : home.head? = some '/')
    (hraw : effective loader t env path outputDirName = some raw) (hne : raw ≠ [])
    (hdir : (ofText raw).expandHome accounts (some home) = .ok dir)
    (htemp : effective loader t env path tempDirName = some (placeholder ++ '/' :: r))
    (hslash : r.head? ≠ some '/') (hfree : ¬placeholder <:+: r)
    (htilde : ¬(ofText r).StartsWithTilde) :
    ∃ s, load loader accounts t env path = .ok s ∧ s.outputDir = some dir ∧
      (¬dir.IsRoot → s.tempDir = some (dir.join (ofText r))) ∧
      (dir.IsRoot → s.tempDir =
        some ⟨if dir.anchor = .top then .doubleTop else .top, (ofText r).parts⟩) := by
  have hproper : dir.Proper := FilePath.proper_expandHome (FilePath.proper_ofText raw) hdir
  have hfound := FilePath.not_startsWithTilde_expandHome haccounts habsolute hdir
  have hout : directory accounts (some home) (some raw) = .ok (some dir) := by
    rw [directory_of_ne_nil _ _ hne, hdir]
    rfl
  have htext : dir.text ++ '/' :: r ≠ [] := by simp
  -- No tilde is in front of the text that comes out, so nothing is expanded a second time.
  have hstays : (ofText (dir.text ++ '/' :: r)).expandHome accounts (some home) =
      .ok (ofText (dir.text ++ '/' :: r)) := by
    apply FilePath.expandHome_of_not_tilde
    by_cases hroot : dir.IsRoot
    · rw [FilePath.ofText_root_slash hroot hslash]
      rintro ⟨hanchor, -⟩
      revert hanchor
      dsimp only
      split <;> exact Anchor.noConfusion
    · rw [FilePath.ofText_text_slash hproper hroot hslash]
      exact FilePath.not_startsWithTilde_join hfound htilde
  have hloaded : directory accounts (some home)
      ((some (placeholder ++ '/' :: r)).map (fillPlaceholder (some dir))) =
        .ok (some (ofText (dir.text ++ '/' :: r))) := by
    rw [Option.map_some, fillPlaceholder_slash hfree, directory_of_ne_nil _ _ htext, hstays]
    rfl
  rw [← hhome, ← hraw] at hout
  rw [← hhome, ← htemp] at hloaded
  refine ⟨_, ofEnvironment_of_directories hout hloaded, rfl, ?_, ?_⟩
  · intro hroot
    exact congrArg some (FilePath.ofText_text_slash hproper hroot hslash)
  · intro hroot
    exact congrArg some (FilePath.ofText_root_slash hroot hslash)

/-- The environment with a home directory, an output directory and a temporary directory. -/
def withDirectories (home out temp : Text) : Environment := fun name =>
  if name = homeName then some home
  else if name = outputDirName then some out
  else if name = tempDirName then some temp
  else none

/-- Accounts of which one is on record. -/
def oneAccount (name home : Text) : Accounts := ⟨none, fun n => if n = name then some home else none⟩

theorem absolute_oneAccount {name home : Text} (h : home.head? = some '/') :
    (oneAccount name home).Absolute := by
  intro n found hfound
  unfold oneAccount at hfound
  dsimp only at hfound
  split at hfound
  · rw [← Option.some.inj hfound]
    exact .inr h
  · cases hfound

/-- The output directory is below the home of another account. The braces of its own name are left
alone. -/
theorem tempDir_below_braces :
    let accounts := oneAccount "root".toList "/root".toList
    let env := withDirectories "/home/u/".toList "~root//./\x7boutput_dir\x7d/".toList
      (placeholder ++ '/' :: "./a//b".toList)
    ∃ s, load none accounts (.empty []) env none = .ok s ∧
      s.tempDir = some ⟨.top, ["root".toList, placeholder, "a".toList, "b".toList]⟩ := by
  intro accounts env
  have haccounts : accounts.Absolute := absolute_oneAccount (by decide)
  have hdir : (ofText "~root//./\x7boutput_dir\x7d/".toList).expandHome accounts
      (some "/home/u/".toList) = .ok ⟨.top, ["root".toList, placeholder]⟩ := rfl
  have hhome : effective none (.empty []) env none homeName = some "/home/u/".toList := rfl
  have hraw : effective none (.empty []) env none outputDirName =
      some "~root//./\x7boutput_dir\x7d/".toList := rfl
  have htemp : effective none (.empty []) env none tempDirName =
      some (placeholder ++ '/' :: "./a//b".toList) := rfl
  obtain ⟨s, hload, -, hjoin, -⟩ := tempDir_of_placeholder haccounts hhome (by decide) hraw
    (by decide) hdir htemp (by decide) (not_placeholder_infix_of_noBrace (by decide)) (by decide)
  exact ⟨s, hload, hjoin (by decide)⟩

/-- A placeholder for the top is no join: the text of the temporary directory starts with two slashes,
and these stay two. -/
theorem placeholder_of_root_is_no_join :
    let accounts := oneAccount "root".toList "/root".toList
    let home := "/home/u".toList
    let r := "tmp".toList
    let env := withDirectories home ['/'] (placeholder ++ '/' :: r)
    let root : FilePath := ⟨.top, []⟩
    home.head? = some '/' ∧ (ofText ['/']).expandHome accounts (some home) = .ok root ∧ r ≠ [] ∧
      r.head? ≠ some '/' ∧ ¬placeholder <:+: r ∧ ¬(ofText r).StartsWithTilde ∧
      ∃ s, load none accounts (.empty []) env none = .ok s ∧ s.outputDir = some root ∧
        s.tempDir = some ⟨.doubleTop, [r]⟩ ∧ s.tempDir ≠ some (root.join (ofText r)) := by
  intro accounts home r env root
  have hload : load none accounts (.empty []) env none =
      .ok ⟨some root, some ⟨.doubleTop, [r]⟩, true⟩ := rfl
  refine ⟨rfl, rfl, by decide, by decide, not_placeholder_infix_of_noBrace (by decide), by decide, _,
    hload, rfl, rfl, ?_⟩
  intro hjoined
  cases hjoined

end Settings

end MipTexture
