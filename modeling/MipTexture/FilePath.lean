import MipTexture.Text.Lower

/-!
# File paths

A path is where it starts and the names on the way. Reading a path from text drops what does not matter:
repeated slashes, slashes at the end and names that are a single dot. Two dots stay, because what is
above a directory is known only to the file tree. Exactly two slashes at the start stay two.

Main statements: a path that is read has only names that a path can have (`proper_ofText`).
-/

namespace MipTexture

inductive Anchor where
  | here
  | top
  | doubleTop
  deriving Repr, DecidableEq

namespace Anchor

def text : Anchor → Text
  | .here => []
  | .top => ['/']
  | .doubleTop => ['/', '/']

def ofSlashes (count : Nat) : Anchor :=
  if count = 0 then .here else if count = 2 then .doubleTop else .top

end Anchor

structure FilePath where
  anchor : Anchor
  parts : List Text
  deriving Repr, DecidableEq

namespace FilePath

def splitSlashes : Text → List Text
  | [] => [[]]
  | c :: rest =>
    if c = '/' then [] :: splitSlashes rest
    else
      match splitSlashes rest with
      | [] => [[c]]
      | piece :: others => (c :: piece) :: others

def joinSlashes : List Text → Text
  | [] => []
  | [piece] => piece
  | piece :: others => piece ++ '/' :: joinSlashes others

def isName (piece : Text) : Bool := !(piece = [] || piece = ['.'])

def names (t : Text) : List Text := (splitSlashes t).filter isName

def ofText (t : Text) : FilePath :=
  ⟨.ofSlashes (t.takeWhile (· = '/')).length, names t⟩

/-- The text of a path. A path that leads nowhere is a single dot. -/
def text (p : FilePath) : Text :=
  if p.anchor = .here ∧ p.parts = [] then ['.'] else p.anchor.text ++ joinSlashes p.parts

/-- A path seen from another: a path that starts at the top stays what it is. -/
def join (p q : FilePath) : FilePath :=
  if q.anchor = .here then ⟨p.anchor, p.parts ++ q.parts⟩ else q

def parent (p : FilePath) : FilePath := { p with parts := p.parts.dropLast }

def name (p : FilePath) : Text := p.parts.getLast?.getD []

/-- A name without its suffix. A suffix starts at the last dot, which is neither the first nor the last
character. -/
def dropSuffix (name : Text) : Text :=
  let suffix := (name.reverse.takeWhile (· ≠ '.')).reverse
  let stem := name.take (name.length - suffix.length - 1)
  if stem = [] ∨ suffix = [] then name else stem

def stem (p : FilePath) : Text := dropSuffix p.name

/-- The suffix that tells the format of a file, with its dot and in small letters. Dots at the start of
the name start no suffix; a dot at its end is one. -/
def extension (p : FilePath) : Text :=
  let name := p.name.dropWhile (· = '.')
  let suffix := (name.reverse.takeWhile (· ≠ '.')).reverse
  if suffix.length = name.length then [] else Text.lower ('.' :: suffix)

/-- A name that a path can have: it is not empty, not a single dot, and has no slash. -/
def ProperName (piece : Text) : Prop := piece ≠ [] ∧ piece ≠ ['.'] ∧ '/' ∉ piece

def Proper (p : FilePath) : Prop := ∀ piece ∈ p.parts, ProperName piece

theorem splitSlashes_ne_nil (t : Text) : splitSlashes t ≠ [] := by
  cases t with
  | nil => simp [splitSlashes]
  | cons c rest =>
    unfold splitSlashes
    split
    · simp
    · split <;> simp

theorem slash_notMem_splitSlashes {t piece : Text} (h : piece ∈ splitSlashes t) : '/' ∉ piece := by
  induction t generalizing piece with
  | nil =>
    simp only [splitSlashes, List.mem_cons, List.not_mem_nil, or_false] at h
    simp [h]
  | cons c rest ih =>
    unfold splitSlashes at h
    split at h
    · rcases List.mem_cons.mp h with rfl | hrest
      · simp
      · exact ih hrest
    · rename_i hc
      split at h
      · simp only [List.mem_cons, List.not_mem_nil, or_false] at h
        rw [h]
        simpa using fun heq => hc heq.symm
      · rename_i first others hsplit
        rcases List.mem_cons.mp h with rfl | hrest
        · have hfirst : '/' ∉ first := ih (by rw [hsplit]; exact List.mem_cons_self)
          simpa [hfirst] using fun heq => hc heq.symm
        · exact ih (by rw [hsplit]; exact List.mem_cons_of_mem _ hrest)

theorem proper_ofText (t : Text) : (ofText t).Proper := by
  intro piece hpiece
  simp only [ofText, names, List.mem_filter, isName, Bool.not_eq_eq_eq_not, Bool.not_true,
    Bool.or_eq_false_iff, decide_eq_false_iff_not] at hpiece
  exact ⟨hpiece.2.1, hpiece.2.2, slash_notMem_splitSlashes hpiece.1⟩

end FilePath

end MipTexture
