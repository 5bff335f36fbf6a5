import MipTexture.FilePath
import MipTexture.Stream

/-!
# File trees

A file tree says for each place, which is the list of names from the top, whether there is a file or a
directory. A path is followed name by name from a working directory; two dots lead up, and at the top
they lead nowhere.

Main statements: putting something at a place changes the tree there only (`node_put`,
`node_put_of_ne`).
-/

namespace MipTexture

/-- A place in a tree: the names from the top. -/
abbrev Place := List Text

inductive Node where
  | file (data : Bytes)
  | directory
  deriving Repr, DecidableEq

/-- A file tree with the working directory from which relative paths start. The system encodes a path
before it looks for it; `unencodable` says of a text why it has no encoded form, when it has none. -/
structure FileTree where
  nodes : List (Place × Node)
  workingDirectory : Place
  unencodable : Text → Option String

namespace FileTree

/-- What is at a place; the top is always a directory. -/
def node (t : FileTree) (place : Place) : Option Node :=
  if place = [] then some .directory else t.nodes.lookup place

def put (t : FileTree) (place : Place) (n : Node) : FileTree :=
  { t with nodes := (place, n) :: t.nodes.filter (fun entry => !(entry.1 == place)) }

theorem workingDirectory_put (t : FileTree) (place : Place) (n : Node) :
    (t.put place n).workingDirectory = t.workingDirectory := rfl

theorem unencodable_put (t : FileTree) (place : Place) (n : Node) :
    (t.put place n).unencodable = t.unencodable := rfl

private theorem lookup_filter_ne {entries : List (Place × Node)} {place other : Place}
    (h : other ≠ place) :
    (entries.filter (fun entry => !(entry.1 == place))).lookup other = entries.lookup other := by
  induction entries with
  | nil => rfl
  | cons entry rest ih =>
    by_cases hentry : entry.1 = place
    · have hother : (other == entry.1) = false := by
        rw [hentry]
        simpa using h
      rw [List.filter_cons_of_neg (by simp [hentry]), ih]
      obtain ⟨key, n⟩ := entry
      rw [List.lookup_cons, hother]
    · rw [List.filter_cons_of_pos (by simp [hentry])]
      obtain ⟨key, n⟩ := entry
      simp only [List.lookup_cons, ih]

theorem node_put_of_ne {t : FileTree} {place other : Place} {n : Node} (h : other ≠ place) :
    (t.put place n).node other = t.node other := by
  have hne : (other == place) = false := by simpa using h
  simp only [node, put, List.lookup_cons, hne, lookup_filter_ne h]

theorem node_put {t : FileTree} {place : Place} {n : Node} (h : place ≠ []) :
    (t.put place n).node place = some n := by
  simp only [node, put, if_neg h, List.lookup_cons, BEq.rfl]

/-! ### Following a path -/

def maxNameBytes : Nat := 255

def maxPathBytes : Nat := 4095

def byteLength (t : Text) : Nat := (t.map Char.utf8Size).sum

def enter (t : FileTree) (place : Place) (name : Text) : Except PathProblem Place :=
  match t.node place with
  | none => .error .notFound
  | some (.file _) => .error .notDirectory
  | some .directory =>
    if name = ['.', '.'] then .ok place.dropLast
    else if maxNameBytes < byteLength name then .error .nameTooLong
    else .ok (place ++ [name])

/-- The place that names lead to, where nothing need be. -/
def follow (t : FileTree) : Place → List Text → Except PathProblem Place
  | place, [] => .ok place
  | place, name :: rest =>
    match t.enter place name with
    | .error problem => .error problem
    | .ok next => t.follow next rest

def start (t : FileTree) : Anchor → Place
  | .here => t.workingDirectory
  | _ => []

/-- The place that a path leads to. A path without an encoded form or with a null character leads
nowhere, and that is not an error of the system. -/
def locate (t : FileTree) (p : FilePath) : Except Error Place :=
  match t.unencodable p.text with
  | some reason => .error (.refused (.unencodable reason))
  | none =>
    if '\x00' ∈ p.text then .error (.refused .nullByte)
    else if maxPathBytes < byteLength p.text then .error (.system (.path .nameTooLong p.text))
    else (t.follow (t.start p.anchor) p.parts).mapError (fun problem => .system (.path problem p.text))

def find (t : FileTree) (p : FilePath) : Except Error (Option Node) :=
  (t.locate p).map t.node

def isDirectory (t : FileTree) (p : FilePath) : Bool :=
  match t.find p with
  | .ok (some .directory) => true
  | _ => false

/-! ### Operations -/

def readFile (t : FileTree) (p : FilePath) : Except Error Bytes :=
  match t.find p with
  | .error e => .error e
  | .ok none => .error (.system (.path .notFound p.text))
  | .ok (some .directory) => .error (.system (.path .isDirectory p.text))
  | .ok (some (.file data)) => .ok data

/-- A stream on the file at a path, at its start. -/
def openFile (t : FileTree) (p : FilePath) : Except Error Stream := (t.readFile p).map Stream.ofBytes

def writeFile (t : FileTree) (p : FilePath) (data : Bytes) : Except Error FileTree :=
  match t.locate p with
  | .error e => .error e
  | .ok place =>
    match t.node place with
    | some .directory => .error (.system (.path .isDirectory p.text))
    | _ => .ok (t.put place (.file data))

def makeDirectory (t : FileTree) (p : FilePath) : Except Error FileTree :=
  match t.locate p with
  | .error e => .error e
  | .ok place =>
    match t.node place with
    | some _ => .error (.system (.path .occupied p.text))
    | none => .ok (t.put place .directory)

/-- A directory that could not be made is there all the same, or the error counts. -/
def orPresent (t : FileTree) (p : FilePath) (e : Error) : Except Error Unit :=
  match e with
  | .system _ => if t.isDirectory p then .ok () else .error e
  | _ => .error e

/-- A directory at a path, with the directories above it. What was made before an error stays. -/
def makeDirectories (t : FileTree) (p : FilePath) : Except Error Unit × FileTree :=
  match t.makeDirectory p with
  | .ok t' => (.ok (), t')
  | .error (.system (.path .notFound place)) =>
    if h : p.parts = [] then (.error (.system (.path .notFound place)), t)
    else
      have : p.parts.dropLast.length < p.parts.length := by
        have hpos := List.length_pos_iff.mpr h
        rw [List.length_dropLast]
        omega
      match t.makeDirectories p.parent with
      | (.error e, t') => (.error e, t')
      | (.ok _, t') =>
        match t'.makeDirectory p with
        | .ok t'' => (.ok (), t'')
        | .error (.system (.path .notFound place)) => (.error (.system (.path .notFound place)), t')
        | .error e => (t'.orPresent p e, t')
  | .error e => (t.orPresent p e, t)
termination_by p.parts.length
decreasing_by exact this

/-! ### Whole trees -/

/-- The tree with nothing but the working directory and those above it, in which every path has an
encoded form. -/
def empty (workingDirectory : Place) : FileTree :=
  ⟨(List.range workingDirectory.length).map (fun n => (workingDirectory.take (n + 1), .directory)),
    workingDirectory, fun _ => none⟩

def add (t : FileTree) (p : FilePath) (n : Node) : Except Error FileTree :=
  match n with
  | .directory =>
    match t.makeDirectories p with
    | (.error e, _) => .error e
    | (.ok _, t') => .ok t'
  | .file data =>
    match t.makeDirectories p.parent with
    | (.error e, _) => .error e
    | (.ok _, t') => t'.writeFile p data

/-- The text of an entry of a listing: its path below a directory, with a slash after directories. -/
def entryText (below : Place) (entry : Place × Node) : Text :=
  FilePath.joinSlashes (entry.1.drop below.length) ++
    (match entry.2 with
    | .directory => ['/']
    | .file _ => [])

/-- Everything below the working directory, in the order of the characters of its text. -/
def listing (t : FileTree) : List String :=
  let below := t.nodes.filter (fun entry =>
    t.workingDirectory.isPrefixOf entry.1 && decide (t.workingDirectory.length < entry.1.length))
  (below.map (fun entry => (entryText t.workingDirectory entry).toString)).mergeSort
    (fun a b => decide (a ≤ b))

end FileTree

end MipTexture
