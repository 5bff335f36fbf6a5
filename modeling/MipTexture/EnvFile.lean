import MipTexture.Environment
import MipTexture.Text.Blank

/-!
# Environment files

A plain environment file has lines of three kinds: empty lines, comments, and a name and a value with an
equals sign between them. Names and values are plain when they stand for themselves, so that nothing in
them is a quote, a comment or another variable. What the file says of a name is the value of its last
line, at the place of its first.
-/

namespace MipTexture

/-- The bytes of a text in UTF-8. -/
def Text.utf8 (t : Text) : Bytes := t.toString.toUTF8.data.toList

namespace EnvFile

/-! ### Lines -/

inductive Line where
  | empty
  | comment (text : Text)
  | entry (b : Binding)
  deriving Repr, DecidableEq

inductive LineEnd where
  | feed
  | carriage
  | carriageFeed
  deriving Repr, DecidableEq

def LineEnd.text : LineEnd → Text
  | .feed => ['\n']
  | .carriage => ['\r']
  | .carriageFeed => ['\r', '\n']

def NoLineEnd (t : Text) : Prop := ∀ c ∈ t, c ≠ '\n' ∧ c ≠ '\r'

instance (t : Text) : Decidable (NoLineEnd t) := List.decidableBAll _ t

def isQuote (c : Char) : Bool := c = '\x22' || c = '\x27'

/-- A plain name is not empty. It has no blanks, which a word before it would need, no equals sign and no
number sign, and no quote in front. -/
structure PlainName (name : Text) : Prop where
  nonempty : name ≠ []
  characters : ∀ c ∈ name, isBlank c = false ∧ c ≠ '=' ∧ c ≠ '#'
  first : ∀ c ∈ name.head?, isQuote c = false

instance (name : Text) : Decidable (PlainName name) :=
  -- A search of the text, not of all characters.
  have : Decidable (∀ c ∈ name, isBlank c = false ∧ c ≠ '=' ∧ c ≠ '#') := List.decidableBAll _ name
  have : Decidable (∀ c ∈ name.head?, isQuote c = false) := Option.decidableForallMem _
  decidable_of_iff (name ≠ [] ∧ (∀ c ∈ name, isBlank c = false ∧ c ≠ '=' ∧ c ≠ '#') ∧
    ∀ c ∈ name.head?, isQuote c = false)
    ⟨fun h => ⟨h.1, h.2.1, h.2.2⟩, fun h => ⟨h.nonempty, h.characters, h.first⟩⟩

/-- A number sign after a blank starts a comment, and a brace after a dollar sign a variable. -/
def startsOther (before c : Char) : Bool :=
  (isBlank before && c = '#') || (before = '$' && c = '\x7b')

/-- A plain value is on one line, with no blank around it, no quote in front, and neither a comment nor a
variable inside. -/
structure PlainValue (value : Text) : Prop where
  line : NoLineEnd value
  first : ∀ c ∈ value.head?, isBlank c = false ∧ isQuote c = false
  last : ∀ c ∈ value.getLast?, isBlank c = false
  inside : ∀ pair ∈ value.zip value.tail, startsOther pair.1 pair.2 = false

instance (value : Text) : Decidable (PlainValue value) :=
  have : Decidable (∀ c ∈ value.head?, isBlank c = false ∧ isQuote c = false) :=
    Option.decidableForallMem _
  have : Decidable (∀ c ∈ value.getLast?, isBlank c = false) := Option.decidableForallMem _
  decidable_of_iff (NoLineEnd value ∧ (∀ c ∈ value.head?, isBlank c = false ∧ isQuote c = false) ∧
    (∀ c ∈ value.getLast?, isBlank c = false) ∧
    ∀ pair ∈ value.zip value.tail, startsOther pair.1 pair.2 = false)
    ⟨fun h => ⟨h.1, h.2.1, h.2.2.1, h.2.2.2⟩, fun h => ⟨h.line, h.first, h.last, h.inside⟩⟩

namespace Line

def text : Line → Text
  | .empty => []
  | .comment t => '#' :: t
  | .entry b => b.name ++ '=' :: b.value

def binding? : Line → Option Binding
  | .entry b => some b
  | _ => none

/-- A line that says what it looks like. -/
inductive Plain : Line → Prop
  | empty : Plain .empty
  | comment {t : Text} (h : NoLineEnd t) : Plain (.comment t)
  | entry {b : Binding} (hname : PlainName b.name) (hvalue : PlainValue b.value) : Plain (.entry b)

instance : (line : Line) → Decidable line.Plain
  | .empty => isTrue .empty
  | .comment t => decidable_of_iff (NoLineEnd t) ⟨.comment, fun | .comment h => h⟩
  | .entry b => decidable_of_iff (PlainName b.name ∧ PlainValue b.value)
    ⟨fun h => .entry h.1 h.2, fun | .entry hname hvalue => ⟨hname, hvalue⟩⟩

end Line

/-! ### Files -/

/-- A file of lines with their line ends, and a last line without one. -/
structure PlainFile where
  lines : List (Line × LineEnd)
  last : Line
  deriving Repr, DecidableEq

namespace PlainFile

def body (f : PlainFile) : Text :=
  f.lines.flatMap (fun (line, ending) => line.text ++ ending.text) ++ f.last.text

def bytes (f : PlainFile) : Bytes := f.body.utf8

def entries (f : PlainFile) : List Binding :=
  (f.lines.map Prod.fst ++ [f.last]).filterMap Line.binding?

/-- All lines are plain, and no byte-order mark stands in front of them. -/
structure Plain (f : PlainFile) : Prop where
  lines : ∀ line ∈ f.lines.map Prod.fst, line.Plain
  last : f.last.Plain
  unmarked : f.body.head? ≠ some '\uFEFF'

instance (f : PlainFile) : Decidable f.Plain :=
  decidable_of_iff ((∀ line ∈ f.lines.map Prod.fst, line.Plain) ∧ f.last.Plain ∧
    f.body.head? ≠ some '\uFEFF')
    ⟨fun h => ⟨h.1, h.2.1, h.2.2⟩, fun h => ⟨h.lines, h.last, h.unmarked⟩⟩

end PlainFile

/-! ### What a file says -/

/-- The value that the last binding of a name gives. -/
def value? (vars : List Binding) (name : Text) : Option Text :=
  (vars.reverse.find? (fun b => b.name = name)).map Binding.value

/-- Each name once, where it comes first, with the value that its last binding gives. -/
def merged (vars : List Binding) : List Binding :=
  (vars.map Binding.name).eraseDups.filterMap (fun name => (value? vars name).map (Binding.mk name))

end EnvFile

end MipTexture
