import MipTexture.EnvLoader

/-!
# A plain loader

A loader that reads plain lines: the name before the first equals sign and the value after it. It drops a
byte-order mark in front of the text, and takes quotes, blanks and variables as they stand.

Main statements: a text without a line end is one line (`lines_of_noLineEnd`), and a line with an equals
sign after its name is read as the name and what follows (`binding_of_name`).
-/

namespace MipTexture

namespace EnvFile

/-- The lines of a text. A line ends with a line feed, a carriage return, or both in this order. -/
def lines : Text → List Text
  | [] => [[]]
  | '\r' :: '\n' :: rest => [] :: lines rest
  | c :: rest =>
    if c = '\n' ∨ c = '\r' then [] :: lines rest
    else
      match lines rest with
      | [] => [[c]]
      | line :: others => (c :: line) :: others

def binding (line : Text) : Option Binding :=
  match line with
  | [] => none
  | '#' :: _ => none
  | '=' :: _ => none
  | _ =>
    let name := line.takeWhile (· ≠ '=')
    match line.drop name.length with
    | [] => none
    | _ :: value => some ⟨name, value⟩

theorem lines_of_noLineEnd {t : Text} (h : NoLineEnd t) : lines t = [t] := by
  induction t with
  | nil => rfl
  | cons c rest ih =>
    have hc := h c List.mem_cons_self
    have hrest := ih (fun d hd => h d (List.mem_cons_of_mem c hd))
    unfold lines
    split
    · contradiction
    · rename_i heq
      exact absurd (List.cons.inj heq).1 hc.2
    · rename_i d others _ heq
      obtain ⟨rfl, rfl⟩ := List.cons.inj heq
      rw [if_neg (by simp [hc.1, hc.2]), hrest]

theorem binding_of_name {name value : Text} (hname : '=' ∉ name) (hhash : name.head? ≠ some '#')
    (hempty : name ≠ []) : binding (name ++ '=' :: value) = some ⟨name, value⟩ := by
  have htake : (name ++ '=' :: value).takeWhile (· ≠ '=') = name := by
    have hall : ∀ c ∈ name, decide (c ≠ '=') = true := by
      intro c hc
      simp only [decide_eq_true_eq]
      rintro rfl
      exact hname hc
    rw [List.takeWhile_append_of_pos hall]
    simp
  unfold binding
  split
  · rename_i heq
    simp at heq
  · rename_i heq
    cases name with
    | nil => exact absurd rfl hempty
    | cons c rest =>
      rw [List.cons_append] at heq
      exact absurd (congrArg some (List.cons.inj heq).1) hhash
  · rename_i heq
    cases name with
    | nil => exact absurd rfl hempty
    | cons c rest =>
      rw [List.cons_append] at heq
      exact absurd ((List.cons.inj heq).1 ▸ List.mem_cons_self) hname
  · simp only [htake, List.drop_left]

def bindings (t : Text) : List Binding := (lines t).filterMap binding

/-- The text without a byte-order mark in front. -/
def dropMark : Text → Text
  | '\uFEFF' :: rest => rest
  | t => t

def ofBytes (data : Bytes) : List Binding :=
  match String.fromUTF8? ⟨data.toArray⟩ with
  | some t => bindings (dropMark t.toList)
  | none => []

end EnvFile

namespace EnvLoader

def plain : EnvLoader where
  load t path env :=
    match t.fileAt path with
    | some data => (.ok (), env.setMissing (EnvFile.merged (EnvFile.ofBytes data)))
    | none => (.ok (), env)

end EnvLoader

end MipTexture
