import MipTexture.Proofs.FileRequests
import MipTexture.Proofs.PathText

/-!
# Where pictures go by default

The default name of a picture is the stem of the texture, a separator and the number of the level. A
number has no letters, so the last `p` before the suffix is that of the separator, whatever the stem
looks like, and stem and number are found again around it. Different names below one directory lead to
different places, so an export never writes over another picture than its own.

Main statements: `TextureFile.default_pictures_apart` for two names, `TextureFile.exportLevel_keeps_other`
for an export, and for runs of requests `FileRequest.node_treeAfter_of_spares`.
-/

namespace MipTexture

namespace Numeral

/-- The number that a decimal numeral writes. -/
def value : Text → Int
  | '-' :: digits => -(Nat.ofDigitChars 10 digits 0 : Int)
  | digits => Nat.ofDigitChars 10 digits 0

theorem value_of_head {digits : Text} (h : digits.head? ≠ some '-') :
    value digits = Nat.ofDigitChars 10 digits 0 := by
  unfold value
  split
  · exact absurd rfl h
  · rfl

theorem isDigit_toDigits {n : Nat} {c : Char} (h : c ∈ Nat.toDigits 10 n) : c.isDigit = true :=
  Nat.isDigit_of_mem_toDigits (by decide) (by decide) h

theorem value_decimal (n : Int) : value (decimal n) = n := by
  unfold decimal sign
  by_cases hnegative : n < 0
  · rw [if_pos hnegative]
    show -(Nat.ofDigitChars 10 (Nat.toDigits 10 n.natAbs) 0 : Int) = n
    rw [Nat.ofDigitChars_ten_toDigits]
    omega
  · have hhead : (Nat.toDigits 10 n.natAbs).head? ≠ some '-' := by
      intro hminus
      have hdigit := isDigit_toDigits (List.mem_of_mem_head? hminus)
      exact absurd hdigit (by decide)
    rw [if_neg hnegative, List.nil_append, value_of_head hhead, Nat.ofDigitChars_ten_toDigits]
    omega

theorem decimal_inj {a b : Int} : decimal a = decimal b ↔ a = b := by
  constructor
  · intro h
    rw [← value_decimal a, h, value_decimal]
  · rintro rfl
    rfl

theorem notMem_decimal {c : Char} (hdigit : c.isDigit = false) (hminus : c ≠ '-') (n : Int) :
    c ∉ decimal n := by
  unfold decimal sign
  intro hmem
  rcases List.mem_append.mp hmem with hsign | hdigits
  · split at hsign
    · exact hminus (List.mem_singleton.mp hsign)
    · cases hsign
  · rw [isDigit_toDigits hdigits] at hdigit
    cases hdigit

end Numeral

namespace Text

variable {s s' t t' more : Text} {c : Char}

theorem eq_nil_of_notMem (ht : c ∉ t) (h : c :: t = more ++ c :: t') : more = [] := by
  cases more with
  | nil => rfl
  | cons x rest =>
    have htail : t = rest ++ c :: t' := (List.cons.inj h).2
    simp [htail] at ht

/-- What stands around the last of a character is known from the whole. -/
theorem append_cons_inj (ht : c ∉ t) (ht' : c ∉ t') (h : s ++ c :: t = s' ++ c :: t') :
    s = s' ∧ t = t' := by
  rcases List.append_eq_append_iff.mp h with ⟨more, hs, hrest⟩ | ⟨more, hs, hrest⟩
  · obtain rfl := eq_nil_of_notMem ht hrest
    exact ⟨by rw [hs, List.append_nil], (List.cons.inj hrest).2⟩
  · obtain rfl := eq_nil_of_notMem ht' hrest
    exact ⟨by rw [hs, List.append_nil], (List.cons.inj hrest).2.symm⟩

end Text

/-! ### Places in one directory -/

namespace FileTree

variable {t : FileTree}

theorem enter_eq_ok {place next : Place} {name : Text} (hname : name ≠ ['.', '.'])
    (h : t.enter place name = .ok next) : next = place ++ [name] := by
  unfold enter at h
  split at h
  · cases h
  · cases h
  · rw [if_neg hname] at h
    split at h
    · cases h
    · exact (Except.ok.inj h).symm

theorem follow_concat {place found : Place} {names : List Text} {name : Text}
    (hname : name ≠ ['.', '.']) (h : t.follow place (names ++ [name]) = .ok found) :
    ∃ above, found = above ++ [name] := by
  induction names generalizing place with
  | nil =>
    obtain ⟨next, hnext, hlast⟩ := follow_cons_eq_ok_iff.mp h
    rw [follow, Except.ok.injEq] at hlast
    exact ⟨place, hlast ▸ enter_eq_ok hname hnext⟩
  | cons first rest ih =>
    obtain ⟨next, -, hrest⟩ := follow_cons_eq_ok_iff.mp h
    exact ih hrest

/-- Two names of a directory that are no way up lead to the same place only if they are the same. -/
theorem name_eq_of_locate {dir : FilePath} {name name' : Text} {place : Place}
    (hname : name ≠ ['.', '.']) (hname' : name' ≠ ['.', '.'])
    (h : t.locate ⟨dir.anchor, dir.parts ++ [name]⟩ = .ok place)
    (h' : t.locate ⟨dir.anchor, dir.parts ++ [name']⟩ = .ok place) : name = name' := by
  obtain ⟨-, -, -, hfollow⟩ := locate_eq_ok_iff.mp h
  obtain ⟨-, -, -, hfollow'⟩ := locate_eq_ok_iff.mp h'
  obtain ⟨above, hplace⟩ := follow_concat hname hfollow
  obtain ⟨above', hplace'⟩ := follow_concat hname' hfollow'
  have hsame : above ++ [name] = above' ++ [name'] := hplace.symm.trans hplace'
  exact (List.append_singleton_inj.mp hsame).2

end FileTree

namespace TextureFile

/-! ### Names -/

section

variable {p q : FilePath} {a b : Int}

theorem pictureName_eq_iff : pictureName p a = pictureName q b ↔ p.stem = q.stem ∧ a = b := by
  constructor
  · intro h
    have hnumber (n : Int) : 'p' ∉ Numeral.decimal n :=
      Numeral.notMem_decimal (by decide) (by decide) n
    have hwhole : (p.stem ++ "_mi".toList) ++ 'p' :: Numeral.decimal a =
        (q.stem ++ "_mi".toList) ++ 'p' :: Numeral.decimal b := by
      simpa [pictureName] using List.append_cancel_right h
    obtain ⟨hstem, hlevel⟩ := Text.append_cons_inj (hnumber a) (hnumber b) hwhole
    exact ⟨List.append_cancel_right hstem, Numeral.decimal_inj.mp hlevel⟩
  · rintro ⟨hstem, rfl⟩
    rw [pictureName, hstem, pictureName]

theorem slash_notMem_stem (hp : p.Proper) : '/' ∉ p.stem := by
  have hname : '/' ∉ p.name := by
    unfold FilePath.name
    cases hlast : p.parts.getLast? with
    | none => exact List.not_mem_nil
    | some last => exact (hp last (List.mem_of_getLast? hlast)).2.2
  unfold FilePath.stem FilePath.dropSuffix
  dsimp only
  split
  · exact hname
  · exact fun hmem => hname (List.mem_of_mem_take hmem)

theorem five_le_length_pictureName : 5 ≤ (pictureName p a).length := by
  simp only [pictureName, List.length_append]
  have hseparator : "_mip".toList.length = 4 := by decide
  have hsuffix : ".png".toList.length = 4 := by decide
  omega

theorem properName_pictureName (hp : p.Proper) (level : Int) :
    FilePath.ProperName (pictureName p level) := by
  have hlength : 5 ≤ (pictureName p level).length := five_le_length_pictureName
  refine ⟨?_, ?_, ?_⟩
  · intro hnil
    simp [hnil] at hlength
  · intro hdot
    simp [hdot] at hlength
  · have hstem := slash_notMem_stem hp
    have hnumber : '/' ∉ Numeral.decimal level :=
      Numeral.notMem_decimal (by decide) (by decide) level
    simp [pictureName, hstem, hnumber]

/-- The default name is one more name below the directory. -/
theorem pictureIn_eq (hp : p.Proper) (dir : FilePath) (level : Int) :
    pictureIn dir p level = ⟨dir.anchor, dir.parts ++ [pictureName p level]⟩ := by
  have hname := properName_pictureName hp level
  have hparts : (FilePath.ofText (pictureName p level)).parts = [pictureName p level] :=
    FilePath.names_of_proper hname
  have hhead : (pictureName p level).head? ≠ some '/' :=
    fun hslash => hname.2.2 (List.mem_of_mem_head? hslash)
  rw [pictureIn, FilePath.join, if_pos (FilePath.anchor_ofText_of_head hhead), hparts]

theorem ne_dots_pictureName : pictureName p a ≠ ['.', '.'] := by
  intro hdots
  have hlength := five_le_length_pictureName (p := p) (a := a)
  simp [hdots] at hlength

end

/-! ### Exports to default names -/

section

variable {lib : Option Imaging} {t : FileTree} {f g : TextureFile} {dir : FilePath} {a b : Int}

theorem destination_default (hdir : f.settings.outputDir = some dir) (level : Int) :
    f.destination level none = .ok (pictureIn dir f.path level) := by
  unfold destination
  rw [hdir]

/-- A file at a default name stays when a file is begun at another one of the directory. -/
theorem node_of_begun_other {p q : FilePath} {t' : FileTree} (hp : p.Proper) (hq : q.Proper)
    (hother : ¬(p.stem = q.stem ∧ a = b)) (hbegun : Begun t t' (pictureIn dir q b))
    {place : Place} {data : Bytes} (hplace : t.locate (pictureIn dir p a) = .ok place)
    (hfile : t.node place = some (.file data)) : t'.node place = some (.file data) := by
  obtain ⟨_, written, hwritten⟩ := hbegun
  -- The directories stay, so both names are looked up in the tree that the export leaves.
  have hne : place ≠ written := by
    rintro rfl
    have hthere := hwritten.keepsDirectories.locate hplace
    have hhere := hwritten.located
    rw [pictureIn_eq hp] at hthere
    rw [pictureIn_eq hq] at hhere
    have hname := FileTree.name_eq_of_locate ne_dots_pictureName ne_dots_pictureName hthere hhere
    exact hother (pictureName_eq_iff.mp hname)
  obtain hsame | ⟨hnone, -, -⟩ := hwritten.others place hne
  · rw [hsame, hfile]
  · rw [hnone] at hfile
    cases hfile

/-- An export to a default name leaves the file at any other default name of the directory, also when
saving the picture fails. -/
theorem exportLevel_keeps_other (hlib : ∀ l ∈ lib, l.SavesFile) {p : FilePath} (hp : p.Proper)
    (hg : g.path.Proper) (hdir : g.settings.outputDir = some dir)
    (hother : ¬(p.stem = g.path.stem ∧ a = b)) {place : Place} {data : Bytes}
    (hplace : t.locate (pictureIn dir p a) = .ok place)
    (hfile : t.node place = some (.file data)) :
    (exportLevel lib t g b none).2.node place = some (.file data) := by
  have heffect := effect_exportLevel hlib t g b none
  have hdefault (path : FilePath) (hpath : g.destination b none = .ok path) :
      path = pictureIn dir g.path b := by
    rw [destination_default hdir] at hpath
    exact (Except.ok.inj hpath).symm
  cases hanswer : (exportLevel lib t g b none).1.answer with
  | error e =>
    obtain ⟨-, hsame⟩ | ⟨path, _, hpath, -, hstopped⟩ := heffect.failed e hanswer
    · rw [hsame, hfile]
    · rcases hstopped with hmade | hbegun
      · exact hmade.node_of_some hfile
      · rw [hdefault path hpath] at hbegun
        exact node_of_begun_other hp hg hother hbegun hplace hfile
  | ok x =>
    obtain ⟨hpath, -, hsaved⟩ := heffect.exported x hanswer
    have hbegun := hsaved.written
    rw [hdefault x.path hpath] at hbegun
    exact node_of_begun_other hp hg hother hbegun hplace hfile

end

end TextureFile

/-! ### Runs of requests -/

namespace FileRequest

/-- The requests that write no picture, or one with another default name in the directory. -/
inductive Spares (dir p : FilePath) (a : Int) : FileRequest → Prop
  | reads (request : FileRequest) (h : ∀ f level given, request ≠ .exportLevel f level given) :
    Spares dir p a request
  | exports (g : TextureFile) (b : Int) (hg : g.path.Proper)
    (hdir : g.settings.outputDir = some dir) (hother : ¬(p.stem = g.path.stem ∧ a = b)) :
    Spares dir p a (.exportLevel g b none)

variable {lib : Option Imaging} {dir p : FilePath} {a : Int} {place : Place} {data : Bytes}

theorem node_run_of_spares (hlib : ∀ l ∈ lib, l.SavesFile) {t : FileTree} {request : FileRequest}
    (hp : p.Proper)
    (hspares : Spares dir p a request)
    (hplace : t.locate (TextureFile.pictureIn dir p a) = .ok place)
    (hfile : t.node place = some (.file data)) :
    (request.run lib t).2.node place = some (.file data) := by
  cases hspares with
  | reads _ h => rw [tree_run_of_not_export lib h, hfile]
  | exports g b hg hdir hother =>
    exact TextureFile.exportLevel_keeps_other hlib hp hg hdir hother hplace hfile

/-- A picture at its default name is still there after requests that export other stems or levels. -/
theorem node_treeAfter_of_spares (hlib : ∀ l ∈ lib, l.SavesFile) {t : FileTree}
    {requests : List FileRequest} (hp : p.Proper)
    (hspares : ∀ request ∈ requests, Spares dir p a request)
    (hplace : t.locate (TextureFile.pictureIn dir p a) = .ok place)
    (hfile : t.node place = some (.file data)) :
    (treeAfter lib requests t).node place = some (.file data) := by
  induction requests generalizing t with
  | nil => exact hfile
  | cons request rest ih =>
    have hfirst := hspares request List.mem_cons_self
    have hrest := fun other hmem => hspares other (List.mem_cons_of_mem request hmem)
    -- A request keeps the directories, so the picture is looked up at the same place after it.
    have hlater := (grown_run hlib request t).directories.locate hplace
    exact ih hrest hlater (node_run_of_spares hlib hp hfirst hplace hfile)

end FileRequest

end MipTexture
