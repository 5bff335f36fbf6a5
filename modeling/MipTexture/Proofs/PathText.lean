import MipTexture.FilePath.Home

/-!
# The text of a path, read again

A path is printed with one slash between its names, and reading takes the names from between the
slashes, so a path whose names are proper is found again in its text. When the text goes on after
another slash, the names that follow are added. Only a path without names is different: its text is
nothing but slashes, and one more of them makes two of one and more than two of two.

Main statements: `ofText_text` and `ofText_text_slash`.
-/

namespace MipTexture

namespace FilePath

/-! ### Names between slashes -/

theorem splitSlashes_append_slash (s t : Text) :
    splitSlashes (s ++ '/' :: t) = splitSlashes s ++ splitSlashes t := by
  induction s with
  | nil => simp only [List.nil_append, splitSlashes, if_true, List.singleton_append]
  | cons c rest ih =>
    simp only [List.cons_append, splitSlashes, ih]
    split
    · rfl
    · cases hrest : splitSlashes rest with
      | nil => exact absurd hrest (splitSlashes_ne_nil rest)
      | cons piece others => rfl

theorem splitSlashes_of_noSlash {piece : Text} (h : '/' ∉ piece) : splitSlashes piece = [piece] := by
  induction piece with
  | nil => rfl
  | cons c rest ih =>
    have hc : c ≠ '/' := fun heq => h (heq ▸ List.mem_cons_self)
    have hrest : '/' ∉ rest := fun hmem => h (List.mem_cons_of_mem c hmem)
    rw [splitSlashes, if_neg hc, ih hrest]

theorem names_append_slash (s t : Text) : names (s ++ '/' :: t) = names s ++ names t := by
  rw [names, splitSlashes_append_slash, List.filter_append, names, names]

theorem names_slash (t : Text) : names ('/' :: t) = names t := names_append_slash [] t

theorem isName_of_proper {piece : Text} (h : ProperName piece) : isName piece = true := by
  simp only [isName, h.1, h.2.1, decide_false, Bool.or_false, Bool.not_false]

theorem names_of_proper {piece : Text} (h : ProperName piece) : names piece = [piece] := by
  simp only [names, splitSlashes_of_noSlash h.2.2, List.filter_cons, isName_of_proper h, if_true,
    List.filter_nil]

theorem names_joinSlashes {parts : List Text} (h : ∀ piece ∈ parts, ProperName piece) :
    names (joinSlashes parts) = parts := by
  induction parts with
  | nil => rfl
  | cons piece others ih =>
    have hpiece := names_of_proper (h piece List.mem_cons_self)
    have hothers := ih fun other hother => h other (List.mem_cons_of_mem piece hother)
    cases others with
    | nil => exact hpiece
    | cons next rest =>
      rw [joinSlashes, names_append_slash, hpiece, hothers]
      · rfl
      · exact List.cons_ne_nil next rest

theorem names_anchor_append (a : Anchor) (t : Text) : names (a.text ++ t) = names t := by
  cases a with
  | here => rfl
  | top => exact names_slash t
  | doubleTop => exact (names_slash ('/' :: t)).trans (names_slash t)

theorem names_text {p : FilePath} (hp : p.Proper) : names p.text = p.parts := by
  unfold text
  split
  · rename_i hnothing
    rw [hnothing.2]
    rfl
  · rw [names_anchor_append, names_joinSlashes hp]

/-! ### Slashes at the start -/

/-- The number of slashes at the start of a text. -/
def leadingSlashes (t : Text) : Nat := (t.takeWhile (· = '/')).length

theorem anchor_ofText (t : Text) : (ofText t).anchor = .ofSlashes (leadingSlashes t) := rfl

theorem leadingSlashes_slash (t : Text) : leadingSlashes ('/' :: t) = leadingSlashes t + 1 := by
  simp only [leadingSlashes, List.takeWhile_cons, decide_true, if_true, List.length_cons]

theorem leadingSlashes_of_head {t : Text} (h : t.head? ≠ some '/') : leadingSlashes t = 0 := by
  cases t with
  | nil => rfl
  | cons c rest =>
    have hc : c ≠ '/' := fun heq => h (congrArg some heq)
    simp only [leadingSlashes, List.takeWhile_cons, hc, decide_false, Bool.false_eq_true, if_false,
      List.length_nil]

theorem anchor_ofText_of_head {t : Text} (h : t.head? ≠ some '/') : (ofText t).anchor = .here := by
  rw [anchor_ofText, leadingSlashes_of_head h]
  rfl

theorem anchor_ofText_of_slash {t : Text} (h : t.head? = some '/') : (ofText t).anchor ≠ .here := by
  cases t with
  | nil => cases h
  | cons c rest =>
    obtain rfl : c = '/' := Option.some.inj h
    rw [anchor_ofText, leadingSlashes_slash, Anchor.ofSlashes, if_neg (Nat.succ_ne_zero _)]
    split <;> exact Anchor.noConfusion

theorem leadingSlashes_anchor (a : Anchor) (t : Text) :
    leadingSlashes (a.text ++ t) = a.text.length + leadingSlashes t := by
  cases a with
  | here => exact (Nat.zero_add _).symm
  | top => exact (leadingSlashes_slash t).trans (Nat.add_comm _ 1)
  | doubleTop =>
    show leadingSlashes ('/' :: '/' :: t) = 2 + leadingSlashes t
    rw [leadingSlashes_slash, leadingSlashes_slash]
    omega

theorem ofSlashes_length_text (a : Anchor) : Anchor.ofSlashes a.text.length = a := by
  cases a <;> rfl

theorem head?_joinSlashes {parts : List Text} (h : ∀ piece ∈ parts, ProperName piece) :
    (joinSlashes parts).head? ≠ some '/' := by
  cases parts with
  | nil => exact nofun
  | cons piece others =>
    obtain ⟨hne, -, hslash⟩ := h piece List.mem_cons_self
    obtain ⟨c, rest, rfl⟩ := List.exists_cons_of_ne_nil hne
    have hc : c ≠ '/' := fun heq => hslash (heq ▸ List.mem_cons_self)
    cases others <;> simpa only [joinSlashes, List.cons_append, List.head?_cons, ne_eq,
      Option.some.injEq] using hc

/-! ### Whole paths -/

theorem leadingSlashes_text {p : FilePath} (hp : p.Proper) :
    leadingSlashes p.text = p.anchor.text.length := by
  unfold text
  split
  · rename_i hnothing
    rw [hnothing.1]
    rfl
  · rw [leadingSlashes_anchor, leadingSlashes_of_head (head?_joinSlashes hp)]
    rfl

theorem ext {p q : FilePath} (hanchor : p.anchor = q.anchor) (hparts : p.parts = q.parts) :
    p = q := by
  obtain ⟨a, parts⟩ := p
  obtain rfl : a = q.anchor := hanchor
  obtain rfl : parts = q.parts := hparts
  rfl

theorem ofText_text {p : FilePath} (hp : p.Proper) : ofText p.text = p := by
  refine ext ?_ (names_text hp)
  rw [anchor_ofText, leadingSlashes_text hp, ofSlashes_length_text]

/-- A path that is only slashes. -/
def IsRoot (p : FilePath) : Prop := p.anchor ≠ .here ∧ p.parts = []

instance (p : FilePath) : Decidable p.IsRoot := inferInstanceAs (Decidable (_ ∧ _))

theorem head?_text_of_not_root {p : FilePath} (hp : p.Proper) (hroot : ¬p.IsRoot) :
    ∃ body, p.text = p.anchor.text ++ body ∧ body ≠ [] ∧ body.head? ≠ some '/' := by
  unfold text
  split
  · rename_i hnothing
    rw [hnothing.1]
    exact ⟨['.'], rfl, List.cons_ne_nil _ _, by decide⟩
  · rename_i hsomething
    refine ⟨joinSlashes p.parts, rfl, ?_, head?_joinSlashes hp⟩
    intro hempty
    have hparts : p.parts = [] := by rw [← names_joinSlashes hp, hempty]; rfl
    exact hroot ⟨fun hanchor => hsomething ⟨hanchor, hparts⟩, hparts⟩

/-- The text of a path followed by a slash and more names is the path joined with them. -/
theorem ofText_text_slash {p : FilePath} (hp : p.Proper) (hroot : ¬p.IsRoot) {t : Text}
    (ht : t.head? ≠ some '/') : ofText (p.text ++ '/' :: t) = p.join (ofText t) := by
  obtain ⟨body, htext, hne, hhead⟩ := head?_text_of_not_root hp hroot
  have hbody : (body ++ '/' :: t).head? ≠ some '/' := by
    obtain ⟨c, rest, rfl⟩ := List.exists_cons_of_ne_nil hne
    exact hhead
  rw [join, if_pos (anchor_ofText_of_head ht)]
  refine ext ?_ ?_
  · rw [anchor_ofText, htext, List.append_assoc, leadingSlashes_anchor, leadingSlashes_of_head hbody]
    exact ofSlashes_length_text p.anchor
  · rw [ofText, names_append_slash, names_text hp]
    rfl

/-- After a path that is only slashes, one more slash changes how many there are. -/
theorem ofText_root_slash {p : FilePath} (hroot : p.IsRoot) {t : Text} (ht : t.head? ≠ some '/') :
    ofText (p.text ++ '/' :: t) =
      ⟨if p.anchor = .top then .doubleTop else .top, (ofText t).parts⟩ := by
  obtain ⟨anchor, parts⟩ := p
  obtain ⟨hanchor, rfl⟩ : anchor ≠ .here ∧ parts = [] := hroot
  have hslashes : leadingSlashes ('/' :: t) = 1 := by
    rw [leadingSlashes_slash, leadingSlashes_of_head ht]
  cases anchor with
  | here => exact absurd rfl hanchor
  | top =>
    refine ext ?_ ((names_anchor_append .top _).trans (names_slash t))
    show Anchor.ofSlashes (leadingSlashes (Anchor.top.text ++ '/' :: t)) = _
    rw [leadingSlashes_anchor, hslashes]
    rfl
  | doubleTop =>
    refine ext ?_ ((names_anchor_append .doubleTop _).trans (names_slash t))
    show Anchor.ofSlashes (leadingSlashes (Anchor.doubleTop.text ++ '/' :: t)) = _
    rw [leadingSlashes_anchor, hslashes]
    rfl

end FilePath

end MipTexture
