import MipTexture.FileTree

/-!
# How a file tree grows

Making directories adds directories where nothing was, each at one of the paths above the one that was
asked for, also when it stops at an error. Writing a file changes one place. Where a path leads depends
on the directories on its way alone, so while they stay directories it leads to the same place.

Main statements: `made_makeDirectories` and `written_of_made`.
-/

namespace MipTexture

/-- The path above another after its first `k` names. -/
def FilePath.above (p : FilePath) (k : Nat) : FilePath := ⟨p.anchor, p.parts.take k⟩

namespace FilePath

theorem above_length (p : FilePath) : p.above p.parts.length = p := by
  simp only [above, List.take_length]

theorem parent_of_nil {p : FilePath} (h : p.parts = []) : p.parent = p := by
  obtain ⟨anchor, parts⟩ := p
  subst h
  rfl

theorem above_parent (p : FilePath) (k : Nat) :
    p.parent.above k = p.above (min k (p.parts.length - 1)) := by
  simp only [above, parent, List.dropLast_eq_take, List.take_take]

end FilePath

namespace FileTree

/-! ### Paths that lead to a place -/

section

variable {t : FileTree} {place found : Place} {name : Text}

theorem follow_cons_eq_ok_iff {rest : List Text} : t.follow place (name :: rest) = .ok found ↔
    ∃ next, t.enter place name = .ok next ∧ t.follow next rest = .ok found := by
  rw [follow]
  cases t.enter place name <;> simp

theorem locate_eq_ok_iff {p : FilePath} : t.locate p = .ok place ↔
    t.unencodable p.text = none ∧ '\x00' ∉ p.text ∧ byteLength p.text ≤ maxPathBytes ∧
      t.follow (t.start p.anchor) p.parts = .ok place := by
  unfold locate
  cases hencoded : t.unencodable p.text with
  | some reason => simp
  | none =>
    by_cases hnull : '\x00' ∈ p.text
    · simp [hnull]
    · by_cases hlong : maxPathBytes < byteLength p.text
      · simp [hnull, hlong, Nat.not_le.mpr hlong]
      · simp only [if_neg hnull, if_neg hlong]
        cases t.follow (t.start p.anchor) p.parts with
        | error problem =>
          constructor
          · intro h
            cases h
          · rintro ⟨-, -, -, h⟩
            cases h
        | ok last =>
          constructor
          · intro h
            exact ⟨trivial, hnull, Nat.not_lt.mp hlong, congrArg Except.ok (Except.ok.inj h)⟩
          · rintro ⟨-, -, -, h⟩
            exact congrArg Except.ok (Except.ok.inj h)

end

/-! ### Paths in a tree with more directories -/

/-- Directories of a tree are directories of another, in which paths start and are encoded the same
way. -/
structure KeepsDirectories (t t' : FileTree) : Prop where
  workingDirectory : t'.workingDirectory = t.workingDirectory
  unencodable : t'.unencodable = t.unencodable
  directory : ∀ place, t.node place = some .directory → t'.node place = some .directory

namespace KeepsDirectories

variable {t t' t'' : FileTree}

theorem refl (t : FileTree) : t.KeepsDirectories t := ⟨rfl, rfl, fun _ h => h⟩

theorem trans (h : t.KeepsDirectories t') (h' : t'.KeepsDirectories t'') : t.KeepsDirectories t'' :=
  ⟨h'.workingDirectory.trans h.workingDirectory, h'.unencodable.trans h.unencodable,
    fun place hplace => h'.directory place (h.directory place hplace)⟩

theorem enter (h : t.KeepsDirectories t') {place next : Place} {name : Text}
    (hnext : t.enter place name = .ok next) : t'.enter place name = .ok next := by
  unfold FileTree.enter at hnext ⊢
  cases hnode : t.node place with
  | none =>
    rw [hnode] at hnext
    cases hnext
  | some n =>
    cases n with
    | file data =>
      rw [hnode] at hnext
      cases hnext
    | directory =>
      rw [hnode] at hnext
      rw [h.directory place hnode]
      exact hnext

theorem follow (h : t.KeepsDirectories t') {place found : Place} {names : List Text}
    (hfound : t.follow place names = .ok found) : t'.follow place names = .ok found := by
  induction names generalizing place with
  | nil => exact hfound
  | cons name rest ih =>
    obtain ⟨next, hnext, hrest⟩ := follow_cons_eq_ok_iff.mp hfound
    exact follow_cons_eq_ok_iff.mpr ⟨next, h.enter hnext, ih hrest⟩

theorem start (h : t.KeepsDirectories t') (a : Anchor) : t'.start a = t.start a := by
  cases a with
  | here => exact h.workingDirectory
  | top => rfl
  | doubleTop => rfl

theorem locate (h : t.KeepsDirectories t') {p : FilePath} {place : Place}
    (hplace : t.locate p = .ok place) : t'.locate p = .ok place := by
  obtain ⟨hencoded, hnull, hshort, hfollow⟩ := locate_eq_ok_iff.mp hplace
  refine locate_eq_ok_iff.mpr ⟨?_, hnull, hshort, ?_⟩
  · rw [h.unencodable, hencoded]
  · rw [h.start]
    exact h.follow hfollow

end KeepsDirectories

/-- Whatever is put where no directory was, the directories stay. -/
theorem keepsDirectories_put {t : FileTree} {place : Place} (h : t.node place ≠ some .directory)
    (n : Node) : t.KeepsDirectories (t.put place n) := by
  refine ⟨workingDirectory_put t place n, unencodable_put t place n, ?_⟩
  intro other hother
  have hne : other ≠ place := by
    rintro rfl
    exact h hother
  rw [node_put_of_ne hne, hother]

theorem ne_nil_of_node {t : FileTree} {place : Place} (h : t.node place ≠ some .directory) :
    place ≠ [] := by
  rintro rfl
  exact h rfl

/-- Why a path leads nowhere: it has no encoded form, or a null character in it, or else the system says
why. -/
theorem locate_eq_error {t : FileTree} {p : FilePath} {e : Error} (h : t.locate p = .error e) :
    (∃ reason, t.unencodable p.text = some reason ∧ e = .refused (.unencodable reason)) ∨
      (t.unencodable p.text = none ∧ '\x00' ∈ p.text ∧ e = .refused .nullByte) ∨
      (t.unencodable p.text = none ∧ '\x00' ∉ p.text ∧ ∃ cause : SystemError, e = .system cause) := by
  unfold locate at h
  split at h
  · rename_i reason hreason
    exact .inl ⟨reason, hreason, (Except.error.inj h).symm⟩
  · rename_i hencoded
    refine .inr ?_
    split at h
    · rename_i hnull
      exact .inl ⟨hencoded, hnull, (Except.error.inj h).symm⟩
    · rename_i hnull
      refine .inr ⟨hencoded, hnull, ?_⟩
      split at h
      · exact ⟨_, (Except.error.inj h).symm⟩
      · cases hfollow : t.follow (t.start p.anchor) p.parts with
        | ok found =>
          rw [hfollow] at h
          cases h
        | error problem =>
          rw [hfollow] at h
          exact ⟨_, (Except.error.inj h).symm⟩

/-! ### Making directories -/

/-- Nothing changed but that directories were made at places where nothing was, to which the path or a
path above it leads. -/
structure DirectoriesMade (t t' : FileTree) (p : FilePath) : Prop where
  workingDirectory : t'.workingDirectory = t.workingDirectory
  unencodable : t'.unencodable = t.unencodable
  node : ∀ place, t'.node place = t.node place ∨
    (t.node place = none ∧ t'.node place = some .directory ∧
      ∃ k ≤ p.parts.length, t'.locate (p.above k) = .ok place)

namespace DirectoriesMade

variable {t t' t'' : FileTree} {p : FilePath}

theorem refl (t : FileTree) (p : FilePath) : DirectoriesMade t t p :=
  ⟨rfl, rfl, fun _ => Or.inl rfl⟩

theorem node_of_some (h : DirectoriesMade t t' p) {place : Place} {n : Node}
    (hnode : t.node place = some n) : t'.node place = some n := by
  rcases h.node place with hsame | ⟨hnone, -, -⟩
  · rw [hsame, hnode]
  · rw [hnone] at hnode
    cases hnode

theorem keepsDirectories (h : DirectoriesMade t t' p) : t.KeepsDirectories t' :=
  ⟨h.workingDirectory, h.unencodable, fun _ hnode => h.node_of_some hnode⟩

/-- First the directories above, then the directory itself. -/
theorem trans_parent (hparent : DirectoriesMade t t' p.parent) (h : DirectoriesMade t' t'' p) :
    DirectoriesMade t t'' p where
  workingDirectory := h.workingDirectory.trans hparent.workingDirectory
  unencodable := h.unencodable.trans hparent.unencodable
  node place := by
    rcases h.node place with hsame | ⟨hnone, hmade, k, hk, hplace⟩
    · rcases hparent.node place with hbefore | ⟨hnone, hmade, k, hk, hplace⟩
      · exact Or.inl (hsame.trans hbefore)
      · rw [FilePath.above_parent] at hplace
        refine Or.inr ⟨hnone, hsame.trans hmade, _, ?_, h.keepsDirectories.locate hplace⟩
        exact Nat.le_trans (Nat.min_le_right _ _) (Nat.sub_le _ _)
    · rcases hparent.node place with hbefore | ⟨-, hearlier, -⟩
      · exact Or.inr ⟨hbefore ▸ hnone, hmade, k, hk, hplace⟩
      · rw [hnone] at hearlier
        cases hearlier

end DirectoriesMade

theorem makeDirectory_eq_ok {t t' : FileTree} {p : FilePath} (h : t.makeDirectory p = .ok t') :
    ∃ place, t.locate p = .ok place ∧ t.node place = none ∧ t.put place .directory = t' := by
  unfold makeDirectory at h
  split at h
  · cases h
  · rename_i place hplace
    split at h
    · cases h
    · rename_i hnone
      exact ⟨place, hplace, hnone, Except.ok.inj h⟩

theorem made_makeDirectory {t t' : FileTree} {p : FilePath} (h : t.makeDirectory p = .ok t') :
    DirectoriesMade t t' p := by
  obtain ⟨place, hplace, hnone, rfl⟩ := makeDirectory_eq_ok h
  have hvacant : t.node place ≠ some .directory := by simp [hnone]
  -- No directory went away, so the path leads to the same place in the new tree.
  have hkeeps := keepsDirectories_put hvacant .directory
  refine ⟨hkeeps.workingDirectory, hkeeps.unencodable, ?_⟩
  intro other
  by_cases hother : other = place
  · subst hother
    refine Or.inr ⟨hnone, node_put (ne_nil_of_node hvacant), p.parts.length, Nat.le_refl _, ?_⟩
    rw [FilePath.above_length]
    exact hkeeps.locate hplace
  · exact Or.inl (node_put_of_ne hother)

/-- Making directories only adds directories on the way, also when it stops at an error. -/
theorem made_makeDirectories (t : FileTree) (p : FilePath) :
    DirectoriesMade t (t.makeDirectories p).2 p := by
  -- Where the directory above was asked for first, what that made comes before what this path adds.
  fun_induction makeDirectories t p with
  | case1 p t' hmade => exact made_makeDirectory hmade
  | case2 p place hmade hroot => exact .refl t p
  | case3 p place hmade hparts hshorter e t' hparent ih =>
    rw [hparent] at ih
    exact ih.trans_parent (.refl t' p)
  | case4 p place hmade hparts hshorter done t' hparent t'' hagain ih =>
    rw [hparent] at ih
    exact ih.trans_parent (made_makeDirectory hagain)
  | case5 p place hmade hparts hshorter done t' hparent again hagain ih
  | case6 p place hmade hparts hshorter done t' hparent e hagain hother ih =>
    rw [hparent] at ih
    exact ih.trans_parent (.refl t' p)
  | case7 p e hmade hother => exact .refl t p

theorem isDirectory_of_made {t t' : FileTree} {p : FilePath} (h : t.makeDirectory p = .ok t') :
    t'.isDirectory p = true := by
  obtain ⟨place, hplace, hnone, rfl⟩ := makeDirectory_eq_ok h
  have hvacant : t.node place ≠ some .directory := by simp [hnone]
  have hthere := (keepsDirectories_put hvacant .directory).locate hplace
  unfold isDirectory find
  rw [hthere]
  simp only [Except.map, node_put (ne_nil_of_node hvacant)]

theorem isDirectory_of_orPresent {t : FileTree} {p : FilePath} {e : Error}
    (h : t.orPresent p e = .ok ()) : t.isDirectory p = true := by
  unfold orPresent at h
  split at h
  · split at h
    · assumption
    · cases h
  · cases h

/-- Directories that were made without an error are there. -/
theorem isDirectory_of_makeDirectories (t : FileTree) (p : FilePath) :
    (t.makeDirectories p).1 = .ok () → (t.makeDirectories p).2.isDirectory p = true := by
  -- The path itself is tried last, whether or not the directory above it had to be made first.
  fun_cases makeDirectories t p with
  | case1 t' hmade => exact fun _ => isDirectory_of_made hmade
  | case2 place hmade hroot => exact nofun
  | case3 place hmade hparts hshorter e t' hparent => exact nofun
  | case4 place hmade hparts hshorter done t' hparent t'' hagain =>
    exact fun _ => isDirectory_of_made hagain
  | case5 place hmade hparts hshorter done t' hparent again hagain => exact nofun
  | case6 place hmade hparts hshorter done t' hparent e hagain hother
  | case7 e hmade hother => exact isDirectory_of_orPresent

/-! ### Writing a file -/

/-- The path leads to the place of the file that was written, where no directory was. Elsewhere nothing
changed but that directories were made where nothing was, to which the paths above lead. -/
structure FileWritten (t t' : FileTree) (p : FilePath) (data : Bytes) (place : Place) : Prop where
  workingDirectory : t'.workingDirectory = t.workingDirectory
  unencodable : t'.unencodable = t.unencodable
  located : t'.locate p = .ok place
  written : t'.node place = some (.file data)
  replaced : t.node place ≠ some .directory
  others : ∀ other, other ≠ place → t'.node other = t.node other ∨
    (t.node other = none ∧ t'.node other = some .directory ∧
      ∃ k < p.parts.length, t'.locate (p.above k) = .ok other)

theorem FileWritten.keepsDirectories {t t' : FileTree} {p : FilePath} {data : Bytes} {place : Place}
    (h : FileWritten t t' p data place) : t.KeepsDirectories t' := by
  refine ⟨h.workingDirectory, h.unencodable, ?_⟩
  intro other hother
  have hne : other ≠ place := by
    rintro rfl
    exact h.replaced hother
  rcases h.others other hne with hsame | ⟨hnone, -, -⟩
  · rw [hsame, hother]
  · rw [hnone] at hother
    cases hother

theorem writeFile_eq_ok {t t' : FileTree} {p : FilePath} {data : Bytes}
    (h : t.writeFile p data = .ok t') :
    ∃ place, t.locate p = .ok place ∧ t.node place ≠ some .directory ∧
      t.put place (.file data) = t' := by
  unfold writeFile at h
  split at h
  · cases h
  · rename_i place hplace
    split at h
    · cases h
    · rename_i hvacant
      exact ⟨place, hplace, hvacant, Except.ok.inj h⟩

theorem writeFile_of_isDirectory {t : FileTree} {p : FilePath} (h : t.isDirectory p = true)
    (data : Bytes) : t.writeFile p data = .error (.system (.path .isDirectory p.text)) := by
  unfold isDirectory find at h
  unfold writeFile
  cases hplace : t.locate p with
  | error e =>
    rw [hplace] at h
    cases h
  | ok place =>
    rw [hplace] at h
    cases hnode : t.node place with
    | none => simp [Except.map, hnode] at h
    | some n =>
      cases n with
      | file data => simp [Except.map, hnode] at h
      | directory => simp only [hnode]

/-- A file that is written after the directories above it were made. -/
theorem written_of_made {t made t' : FileTree} {p : FilePath} {data : Bytes}
    (hmade : DirectoriesMade t made p.parent) (hthere : made.isDirectory p.parent = true)
    (h : made.writeFile p data = .ok t') : ∃ place, FileWritten t t' p data place := by
  have hpositive : 0 < p.parts.length := by
    refine List.length_pos_iff.mpr fun hparts => ?_
    -- A path without names is its own parent, and no file is written over a directory.
    rw [FilePath.parent_of_nil hparts] at hthere
    rw [writeFile_of_isDirectory hthere] at h
    cases h
  obtain ⟨place, hplace, hvacant, rfl⟩ := writeFile_eq_ok h
  have hkeeps := keepsDirectories_put hvacant (.file data)
  refine ⟨place, ⟨hmade.workingDirectory, hmade.unencodable, hkeeps.locate hplace,
    node_put (ne_nil_of_node hvacant), ?_, ?_⟩⟩
  · intro hdirectory
    exact hvacant (hmade.node_of_some hdirectory)
  · intro other hother
    rw [node_put_of_ne hother]
    rcases hmade.node other with hsame | ⟨hnone, hdirectory, k, hk, habove⟩
    · exact Or.inl hsame
    · rw [FilePath.above_parent] at habove
      refine Or.inr ⟨hnone, hdirectory, min k (p.parts.length - 1), ?_, hkeeps.locate habove⟩
      omega

end FileTree

end MipTexture
