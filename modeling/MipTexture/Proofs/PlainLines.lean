import MipTexture.EnvLoader.Plain

/-!
# Environment files of plain lines

A file of plain lines, with any of the three line ends after each, is read back by the plain loader as
the bindings of its lines in their order. Everything follows from one equation: the bindings of a text
are those of its first line and those of what stands after the line end.

Main statements: `ofBytes_bytes` for the files of plain lines, `ofBytes_of_noText` for the files that are
no text, and with them `readsPlainLines_plain` for the loader.
-/

namespace MipTexture

namespace EnvFile

/-! ### Lines and line ends -/

theorem lines_cons {c : Char} (hc : c ≠ '\n' ∧ c ≠ '\r') {t first : Text} {others : List Text}
    (ht : lines t = first :: others) : lines (c :: t) = (c :: first) :: others := by
  unfold lines
  split
  · contradiction
  · rename_i heq
    exact absurd (List.cons.inj heq).1 hc.2
  · rename_i d rest _ heq
    obtain ⟨rfl, rfl⟩ := List.cons.inj heq
    rw [if_neg (by simp [hc.1, hc.2]), ht]

theorem lines_append {line t first : Text} {others : List Text} (hline : NoLineEnd line)
    (ht : lines t = first :: others) : lines (line ++ t) = (line ++ first) :: others := by
  induction line with
  | nil => exact ht
  | cons c rest ih =>
    exact lines_cons (hline c List.mem_cons_self)
      (ih fun d hd => hline d (List.mem_cons_of_mem c hd))

theorem lines_feed (t : Text) : lines ('\n' :: t) = [] :: lines t := by
  simp [lines]

theorem lines_carriage_feed (t : Text) : lines ('\r' :: '\n' :: t) = [] :: lines t := rfl

theorem lines_carriage {t : Text} (ht : t.head? ≠ some '\n') :
    lines ('\r' :: t) = [] :: lines t := by
  rw [lines]
  · simp
  · rintro rest - rfl
    exact ht rfl

/-! ### The bindings of a text -/

theorem bindings_of_lines {t first : Text} {others : List Text} (ht : lines t = first :: others) :
    bindings t = (binding first).toList ++ others.filterMap binding := by
  rw [bindings, ht, List.filterMap_cons]
  cases binding first <;> rfl

theorem bindings_feed (t : Text) : bindings ('\n' :: t) = bindings t := by
  rw [bindings_of_lines (lines_feed t)]
  rfl

/-- A carriage return ends a line, also together with a line feed after it, which ends no line of its
own then. -/
theorem exists_lines_end {c : Char} (hc : c = '\n' ∨ c = '\r') (t : Text) :
    ∃ others, lines (c :: t) = [] :: others ∧ others.filterMap binding = bindings t := by
  rcases hc with rfl | rfl
  · exact ⟨lines t, lines_feed t, rfl⟩
  · by_cases ht : t.head? = some '\n'
    · obtain ⟨rest, rfl⟩ := List.head?_eq_some_iff.mp ht
      exact ⟨lines rest, lines_carriage_feed rest, (bindings_feed rest).symm⟩
    · exact ⟨lines t, lines_carriage ht, rfl⟩

theorem bindings_append_end {line : Text} (hline : NoLineEnd line) {c : Char}
    (hc : c = '\n' ∨ c = '\r') (t : Text) :
    bindings (line ++ c :: t) = (binding line).toList ++ bindings t := by
  obtain ⟨others, hlines, hothers⟩ := exists_lines_end hc t
  rw [bindings_of_lines (lines_append hline hlines), List.append_nil, hothers]

theorem bindings_of_noLineEnd {line : Text} (hline : NoLineEnd line) :
    bindings line = (binding line).toList := by
  rw [bindings_of_lines (lines_of_noLineEnd hline)]
  exact List.append_nil _

/-! ### Plain lines -/

theorem PlainName.noLineEnd {name : Text} (h : PlainName name) : NoLineEnd name := by
  intro c hc
  have hblank := (h.characters c hc).1
  constructor
  · rintro rfl
    exact absurd hblank (by decide)
  · rintro rfl
    exact absurd hblank (by decide)

theorem PlainName.binding_append {name : Text} (h : PlainName name) (value : Text) :
    binding (name ++ '=' :: value) = some ⟨name, value⟩ := by
  refine binding_of_name ?_ ?_ h.nonempty
  · intro hequals
    exact (h.characters '=' hequals).2.1 rfl
  · intro hhash
    exact (h.characters '#' (List.mem_of_mem_head? hhash)).2.2 rfl

namespace Line

theorem Plain.noLineEnd_text {line : Line} (h : line.Plain) : NoLineEnd line.text := by
  cases h with
  | empty => exact nofun
  | comment ht =>
    intro c hc
    rcases List.mem_cons.mp hc with rfl | hc
    · decide
    · exact ht c hc
  | entry hname hvalue =>
    intro c hc
    rcases List.mem_append.mp hc with hc | hc
    · exact hname.noLineEnd c hc
    · rcases List.mem_cons.mp hc with rfl | hc
      · decide
      · exact hvalue.line c hc

theorem Plain.binding_text {line : Line} (h : line.Plain) : binding line.text = line.binding? := by
  cases h with
  | empty => rfl
  | comment => rfl
  | entry hname => exact hname.binding_append _

end Line

/-! ### Plain files -/

namespace PlainFile

theorem bindings_append_ending {line : Line} (h : line.Plain) (ending : LineEnd) (t : Text) :
    bindings (line.text ++ ending.text ++ t) = line.binding?.toList ++ bindings t := by
  have hline := h.noLineEnd_text
  rw [List.append_assoc, ← h.binding_text]
  cases ending with
  | feed => exact bindings_append_end hline (Or.inl rfl) t
  | carriage => exact bindings_append_end hline (Or.inr rfl) t
  | carriageFeed =>
    rw [← bindings_feed t]
    exact bindings_append_end hline (Or.inr rfl) ('\n' :: t)

theorem bindings_lines {lines : List (Line × LineEnd)} (h : ∀ line ∈ lines.map Prod.fst, line.Plain)
    (t : Text) :
    bindings (lines.flatMap (fun (line, ending) => line.text ++ ending.text) ++ t) =
      (lines.map Prod.fst).filterMap Line.binding? ++ bindings t := by
  induction lines with
  | nil => rfl
  | cons first rest ih =>
    obtain ⟨line, ending⟩ := first
    have hfirst : line.Plain := h line List.mem_cons_self
    have hrest := ih fun other hother => h other (List.mem_cons_of_mem _ hother)
    rw [List.flatMap_cons, List.append_assoc, bindings_append_ending hfirst, hrest, List.map_cons,
      List.filterMap_cons]
    cases line.binding? <;> rfl

theorem Plain.plainName {f : PlainFile} (h : f.Plain) {b : Binding} (hb : b ∈ f.entries) :
    PlainName b.name := by
  obtain ⟨line, hline, hbinding⟩ := List.mem_filterMap.mp hb
  have hplain : line.Plain := by
    rcases List.mem_append.mp hline with hlines | hlast
    · exact h.lines line hlines
    · rw [List.mem_singleton.mp hlast]
      exact h.last
  cases hplain with
  | empty => cases hbinding
  | comment => cases hbinding
  | entry hname =>
    cases hbinding
    exact hname

theorem bindings_body {f : PlainFile} (h : f.Plain) : bindings f.body = f.entries := by
  have hlast : bindings f.last.text = f.last.binding?.toList := by
    rw [bindings_of_noLineEnd h.last.noLineEnd_text, h.last.binding_text]
  rw [body, bindings_lines h.lines, hlast, entries, List.filterMap_append, List.filterMap_cons]
  cases f.last.binding? <;> rfl

end PlainFile

/-! ### Bytes -/

theorem fromUTF8?_utf8 (t : Text) : String.fromUTF8? ⟨t.utf8.toArray⟩ = some t.toString := by
  have hbytes : (⟨t.utf8.toArray⟩ : ByteArray) = t.toString.toUTF8 :=
    ByteArray.ext Array.toArray_toList
  rw [hbytes, String.toUTF8_eq_toByteArray, String.fromUTF8?, dif_pos t.toString.isValidUTF8]
  rfl

theorem ofBytes_utf8 (t : Text) : ofBytes t.utf8 = bindings (dropMark t) := by
  rw [ofBytes, fromUTF8?_utf8]
  show bindings (dropMark (String.ofList t).toList) = _
  rw [String.toList_ofList]

theorem dropMark_of_head {t : Text} (h : t.head? ≠ some '\uFEFF') : dropMark t = t := by
  unfold dropMark
  split
  · exact absurd rfl h
  · rfl

theorem ofBytes_bytes {f : PlainFile} (h : f.Plain) : ofBytes f.bytes = f.entries := by
  rw [PlainFile.bytes, ofBytes_utf8, dropMark_of_head h.unmarked, PlainFile.bindings_body h]

theorem ofBytes_of_noText {data : Bytes} (h : ∀ t : Text, data ≠ t.utf8) : ofBytes data = [] := by
  unfold ofBytes
  split
  · rename_i s hs
    have hbytes : s.toUTF8 = ⟨data.toArray⟩ := by
      unfold String.fromUTF8? at hs
      split at hs
      · rw [← Option.some.inj hs]
        rfl
      · cases hs
    refine absurd ?_ (h s.toList)
    rw [Text.utf8, Text.toString, String.ofList_toList, hbytes]
  · rfl

end EnvFile

namespace EnvLoader

variable {t : FileTree} {path : Text}

theorem load_plain_of_file {data : Bytes} (env : Environment) (h : t.fileAt path = some data) :
    (plain.load t path env).2 = env.setMissing (EnvFile.merged (EnvFile.ofBytes data)) := by
  simp only [plain, h]

theorem load_plain_of_absent (env : Environment) (h : t.fileAt path = none) :
    (plain.load t path env).2 = env := by
  simp only [plain, h]

theorem readsPlainLines_plain : plain.ReadsPlainLines where
  kept {t path env name value} h := by
    cases hfile : t.fileAt path with
    | none => rw [load_plain_of_absent env hfile, h]
    | some data =>
      rw [load_plain_of_file env hfile]
      exact Environment.setMissing_of_some h _
  absent := load_plain_of_absent
  plain env f hf hfile := by
    rw [load_plain_of_file env hfile, EnvFile.ofBytes_bytes hf]
  noText env data hfile htext := by
    rw [load_plain_of_file env hfile, EnvFile.ofBytes_of_noText htext]
    rfl

end EnvLoader

end MipTexture
