import Mathlib.Control.Monad.Basic
import MipTexture.TextureFile
import MipTexture.Proofs.PlainImaging
import MipTexture.Proofs.TreeGrowth

/-!
# Requests to texture files

Reading a texture changes nothing, and answers what decoding the bytes at its path answers, or a failed
read for the reason the system gave. An export has its picture before it changes anything; what it
changes is the file at the path it answers and the directories that were missing above it. The imaging
library may save a picture in any format, as long as it concerns one file.

Main statements: `TextureFile.answers_load`, `TextureFile.exportLevel_of_blocked`,
`TextureFile.effect_exportLevel` and `FileRequest.step_of_requests`.
-/

namespace MipTexture

namespace FileTree

variable {t : FileTree} {p : FilePath}

theorem readFile_of_file {data : Bytes} (h : t.find p = .ok (some (.file data))) :
    t.readFile p = .ok data := by
  unfold readFile
  rw [h]

theorem find_eq_error_iff {e : Error} : t.find p = .error e ↔ t.locate p = .error e := by
  unfold find
  cases t.locate p with
  | error other => simp [Except.map]
  | ok place => simp [Except.map]

theorem readFile_of_find {e : Error} (h : t.find p = .error e) : t.readFile p = .error e := by
  unfold readFile
  rw [h]

theorem locate_of_unencodable {reason : String} (h : t.unencodable p.text = some reason) :
    t.locate p = .error (.refused (.unencodable reason)) := by
  unfold locate
  rw [h]

theorem locate_of_null (hencoded : t.unencodable p.text = none) (hnull : '\x00' ∈ p.text) :
    t.locate p = .error (.refused .nullByte) := by
  unfold locate
  simp only [hencoded, if_pos hnull]

/-- When the system gets to see the path, it says why there is nothing to read. -/
theorem readFile_of_noFile (hencoded : t.unencodable p.text = none) (hnull : '\x00' ∉ p.text)
    (hnone : ∀ data, t.find p ≠ .ok (some (.file data))) :
    ∃ cause : SystemError, t.readFile p = .error (.system cause) := by
  unfold readFile
  cases hfind : t.find p with
  | error e =>
    obtain ⟨_, hreason, -⟩ | ⟨-, hin, -⟩ | ⟨-, -, cause, rfl⟩ :=
      locate_eq_error (find_eq_error_iff.mp hfind)
    · rw [hencoded] at hreason
      cases hreason
    · exact absurd hin hnull
    · exact ⟨cause, rfl⟩
  | ok found =>
    cases found with
    | none => exact ⟨_, rfl⟩
    | some n =>
      cases n with
      | directory => exact ⟨_, rfl⟩
      | file data => exact absurd hfind (hnone data)

end FileTree

namespace Texture

variable {texture : Texture} {n : Int}

theorem level_of_outside (h : n < 0 ∨ texture.levels.length ≤ n) :
    texture.level n = .error (.noLevel n texture.levels.length) := by
  unfold level
  by_cases hnegative : n < 0
  · rw [if_pos hnegative]
  · have hpast : texture.levels[n.toNat]? = none := List.getElem?_eq_none (by omega)
    rw [if_neg hnegative, hpast]

theorem level_eq_error {e : Error} (h : texture.level n = .error e) :
    (n < 0 ∨ texture.levels.length ≤ n) ∧ e = .noLevel n texture.levels.length := by
  have houtside : n < 0 ∨ texture.levels.length ≤ n := by
    unfold level at h
    split at h
    · rename_i hnegative
      exact Or.inl hnegative
    · split at h
      · cases h
      · rename_i hpast
        have hlength := List.getElem?_eq_none_iff.mp hpast
        omega
  rw [level_of_outside houtside] at h
  exact ⟨houtside, (Except.error.inj h).symm⟩

theorem raster_of_noLevel {e : Error} (h : texture.level n = .error e) (lib : Option Imaging) :
    texture.raster lib n = .error e := by
  unfold raster
  rw [h]
  rfl

theorem raster_of_level {found : Level} (h : texture.level n = .ok found) (lib : Option Imaging) :
    texture.raster lib n = found.raster lib (.stored texture.layout.storage) := by
  unfold raster
  rw [h]
  rfl

end Texture

namespace TextureFile

/-! ### Reading -/

/-- What reading the texture at a path answers: what decoding the bytes of the file answers, or a failed
read when the system found no file. A path that the system does not get to see, for it has no encoded
form or a null character, is no reason of the system, and the answer does not name it then. -/
structure Answers (t : FileTree) (path : FilePath) (strict : Bool) (answer : Logged Decoded) :
    Prop where
  found : ∀ data, t.find path = .ok (some (.file data)) →
    answer = Decode.bytes (some path.text.toString) strict data
  unopened : t.unencodable path.text = none → '\x00' ∉ path.text →
    (∀ data, t.find path ≠ .ok (some (.file data))) →
      ∃ cause : SystemError, t.readFile path = .error (.system cause) ∧
        answer = .silent (.error (.unreadable (.system cause) (some path.text.toString)))
  null : t.unencodable path.text = none → '\x00' ∈ path.text →
    answer = .silent (.error (.refused .nullByte))
  unencodable : ∀ reason, t.unencodable path.text = some reason →
    answer = .silent (.error (.refused (.unencodable reason)))

section

variable {t : FileTree} {path : FilePath}

/-- Decoding from a stream on the file decodes its bytes. -/
theorem load_of_readFile {data : Bytes} (h : t.readFile path = .ok data) (strict : Bool) :
    load t path strict = Decode.bytes (some path.text.toString) strict data := by
  have hopened : t.openFile path = .ok (.ofBytes data) := by
    unfold FileTree.openFile
    rw [h]
    rfl
  unfold load
  simp only [hopened]
  rfl

theorem load_of_unopened {e : Error} (h : t.readFile path = .error e) (strict : Bool) :
    load t path strict = .silent (.error (e.asUnreadable (some path.text.toString))) := by
  have hunopened : t.openFile path = .error e := by
    unfold FileTree.openFile
    rw [h]
    rfl
  unfold load
  simp only [hunopened]

theorem load_of_nowhere {e : Error} (h : t.locate path = .error e) (strict : Bool) :
    load t path strict = .silent (.error (e.asUnreadable (some path.text.toString))) :=
  load_of_unopened (FileTree.readFile_of_find (FileTree.find_eq_error_iff.mpr h)) strict

end

theorem answers_load (t : FileTree) (path : FilePath) (strict : Bool) :
    Answers t path strict (load t path strict) where
  found data hfind := load_of_readFile (FileTree.readFile_of_file hfind) strict
  unopened hencoded hnull hnone := by
    obtain ⟨cause, hread⟩ := FileTree.readFile_of_noFile hencoded hnull hnone
    exact ⟨cause, hread, load_of_unopened hread strict⟩
  null hencoded hnull := load_of_nowhere (FileTree.locate_of_null hencoded hnull) strict
  unencodable reason hreason := load_of_nowhere (FileTree.locate_of_unencodable hreason) strict

/-! ### Exports that stop before they write -/

/-- The stages at which an export can stop before it writes, each with its error, in their order. -/
inductive Blocked (lib : Option Imaging) (t : FileTree) (f : TextureFile) (level : Int)
    (given : Option FilePath) : Error → Prop
  | noDestination (hgiven : given = none) (hdir : f.settings.outputDir = none) :
      Blocked lib t f level given (.refused .noDestination)
  | notDecoded {path : FilePath} {e : Error} (hpath : f.destination level given = .ok path)
      (hdecode : (decode t f).answer = .error e) : Blocked lib t f level given e
  | noLevel {path : FilePath} {d : Decoded} (hpath : f.destination level given = .ok path)
      (hdecode : (decode t f).answer = .ok d)
      (hlevel : level < 0 ∨ d.texture.levels.length ≤ level) :
      Blocked lib t f level given (.noLevel level d.texture.levels.length)
  | noPixels {path : FilePath} {d : Decoded} {found : Level} {e : Error}
      (hpath : f.destination level given = .ok path) (hdecode : (decode t f).answer = .ok d)
      (hlevel : d.texture.level level = .ok found)
      (hraster : found.raster lib (.stored d.texture.layout.storage) = .error e) :
      Blocked lib t f level given e

variable {lib : Option Imaging} {t : FileTree} {f : TextureFile} {level : Int}
  {given : Option FilePath}

theorem destination_eq_error_iff {e : Error} :
    f.destination level given = .error e ↔
      given = none ∧ f.settings.outputDir = none ∧ e = .refused .noDestination := by
  unfold destination
  cases given with
  | some path => simp
  | none =>
    cases f.settings.outputDir with
    | some dir => simp
    | none => simp [eq_comm]

/-- The picture of a level, which an export has before it writes. -/
def picture (lib : Option Imaging) (t : FileTree) (f : TextureFile) (level : Int) :
    Except Error Raster :=
  (decode t f).answer.bind (fun d => d.texture.raster lib level)

theorem picture_of_notDecoded {e : Error} (h : (decode t f).answer = .error e) :
    picture lib t f level = .error e := by
  unfold picture
  rw [h]
  rfl

theorem picture_of_decoded {d : Decoded} (h : (decode t f).answer = .ok d) :
    picture lib t f level = d.texture.raster lib level := by
  unfold picture
  rw [h]
  rfl

theorem exportLevel_of_nowhere {e : Error} (hpath : f.destination level given = .error e) :
    exportLevel lib t f level given = (.silent (.error e), t) := by
  unfold exportLevel
  rw [hpath]

theorem exportLevel_of_noPicture {path : FilePath} {e : Error}
    (hpath : f.destination level given = .ok path) (h : picture lib t f level = .error e) :
    exportLevel lib t f level given = (⟨.error e, (decode t f).log⟩, t) := by
  unfold picture at h
  unfold exportLevel
  simp only [hpath, h]

theorem exportLevel_of_picture {path : FilePath} {x : Raster}
    (hpath : f.destination level given = .ok path) (h : picture lib t f level = .ok x) :
    exportLevel lib t f level given =
      (⟨(writePicture lib t path x).1, (decode t f).log⟩, (writePicture lib t path x).2) := by
  unfold picture at h
  unfold exportLevel
  simp only [hpath, h]

theorem exportLevel_of_blocked {e : Error} (h : Blocked lib t f level given e) :
    (exportLevel lib t f level given).1.answer = .error e ∧ (exportLevel lib t f level given).2 = t := by
  cases h with
  | noDestination hgiven hdir =>
    have hnowhere : f.destination level given = .error (.refused .noDestination) :=
      destination_eq_error_iff.mpr ⟨hgiven, hdir, rfl⟩
    rw [exportLevel_of_nowhere hnowhere]
    exact ⟨rfl, rfl⟩
  | notDecoded hpath hdecode =>
    rw [exportLevel_of_noPicture hpath (picture_of_notDecoded hdecode)]
    exact ⟨rfl, rfl⟩
  | noLevel hpath hdecode hlevel =>
    have hraster := Texture.raster_of_noLevel (Texture.level_of_outside hlevel) lib
    rw [exportLevel_of_noPicture hpath ((picture_of_decoded hdecode).trans hraster)]
    exact ⟨rfl, rfl⟩
  | noPixels hpath hdecode hlevel hraster =>
    have hnone := (Texture.raster_of_level hlevel lib).trans hraster
    rw [exportLevel_of_noPicture hpath ((picture_of_decoded hdecode).trans hnone)]
    exact ⟨rfl, rfl⟩

/-- An export without a picture was stopped at one of the stages before it writes. -/
theorem blocked_or_picture (lib : Option Imaging) (t : FileTree) (f : TextureFile) (level : Int)
    (given : Option FilePath) :
    (∃ e, Blocked lib t f level given e) ∨
      ∃ path x, f.destination level given = .ok path ∧ picture lib t f level = .ok x := by
  cases hpath : f.destination level given with
  | error e =>
    obtain ⟨hgiven, hdir, rfl⟩ := destination_eq_error_iff.mp hpath
    exact Or.inl ⟨_, .noDestination hgiven hdir⟩
  | ok path =>
    cases hdecode : (decode t f).answer with
    | error e => exact Or.inl ⟨e, .notDecoded hpath hdecode⟩
    | ok d =>
      rw [picture_of_decoded hdecode]
      cases hlevel : d.texture.level level with
      | error e =>
        obtain ⟨houtside, -⟩ := Texture.level_eq_error hlevel
        exact Or.inl ⟨_, .noLevel hpath hdecode houtside⟩
      | ok found =>
        rw [Texture.raster_of_level hlevel]
        cases hraster : found.raster lib (.stored d.texture.layout.storage) with
        | error e => exact Or.inl ⟨e, .noPixels hpath hdecode hlevel hraster⟩
        | ok x => exact Or.inr ⟨path, x, rfl, rfl⟩

/-! ### Exports that write -/

/-- A file was begun at a path, whatever it holds. -/
def Begun (t t' : FileTree) (path : FilePath) : Prop :=
  ∃ data place, FileTree.FileWritten t t' path data place

/-- The library saved a picture at its path, after the directories above it were made. -/
structure Saved (lib : Option Imaging) (t t' : FileTree) (x : Exported) : Prop where
  library : ∃ l ∈ lib, l.save (t.makeDirectories x.path.parent).2 x.path x.picture = (.ok (), t')
  written : Begun t t' x.path

/-- The trees that a failing save leaves: directories were made at most, or the file was begun. -/
def Stopped (t t' : FileTree) (path : FilePath) : Prop :=
  FileTree.DirectoriesMade t t' path.parent ∨ Begun t t' path

theorem begun_of_writeFile {t made t' : FileTree} {path : FilePath} {data : Bytes}
    (hmade : t.makeDirectories path.parent = (.ok (), made))
    (h : made.writeFile path data = .ok t') : Begun t t' path := by
  have hgrown := FileTree.made_makeDirectories t path.parent
  have hthere := FileTree.isDirectory_of_makeDirectories t path.parent
  rw [hmade] at hgrown hthere
  exact ⟨data, FileTree.written_of_made hgrown (hthere rfl) h⟩

/-- A picture that could be written is the one change beside directories above it. -/
theorem writePicture_cases (hlib : ∀ l ∈ lib, l.SavesFile) (t : FileTree) (path : FilePath)
    (x : Raster) :
    (∃ e, (writePicture lib t path x).1 = .error e ∧
        Stopped t (writePicture lib t path x).2 path) ∨
      ((writePicture lib t path x).1 = .ok ⟨path, x⟩ ∧
        Saved lib t (writePicture lib t path x).2 ⟨path, x⟩) := by
  have hgrown := FileTree.made_makeDirectories t path.parent
  unfold writePicture
  rcases hmade : t.makeDirectories path.parent with ⟨answer, made⟩
  rw [hmade] at hgrown
  cases answer with
  | error e => exact .inl ⟨e, rfl, .inl hgrown⟩
  | ok done =>
    cases lib with
    | none => exact .inl ⟨.noImaging, rfl, .inl hgrown⟩
    | some l =>
      have hl := hlib l rfl
      simp only [savePicture]
      rcases hsave : l.save made path x with ⟨answer, t'⟩
      cases answer with
      | error e =>
        refine .inl ⟨e, rfl, ?_⟩
        rcases hl.failed hsave with hsame | ⟨data, hdata⟩
        · exact .inl (hsame ▸ hgrown)
        · exact .inr (begun_of_writeFile hmade hdata)
      | ok saved =>
        obtain ⟨data, hdata⟩ := hl.saved hsave
        refine .inr ⟨rfl, ⟨l, rfl, ?_⟩, begun_of_writeFile hmade hdata⟩
        rw [hmade]
        exact hsave

/-- What an export does to a tree, with its answer. -/
structure Effect (lib : Option Imaging) (t : FileTree) (f : TextureFile) (level : Int)
    (given : Option FilePath) (answer : Except Error Exported) (t' : FileTree) : Prop where
  blocked : ∀ e, Blocked lib t f level given e → answer = .error e ∧ t' = t
  failed : ∀ e, answer = .error e → (Blocked lib t f level given e ∧ t' = t) ∨
    ∃ path x, f.destination level given = .ok path ∧ picture lib t f level = .ok x ∧
      Stopped t t' path
  exported : ∀ x, answer = .ok x → f.destination level given = .ok x.path ∧
    picture lib t f level = .ok x.picture ∧ Saved lib t t' x

theorem effect_exportLevel (hlib : ∀ l ∈ lib, l.SavesFile) (t : FileTree) (f : TextureFile)
    (level : Int) (given : Option FilePath) :
    Effect lib t f level given (exportLevel lib t f level given).1.answer
      (exportLevel lib t f level given).2 := by
  obtain ⟨e, hblocked⟩ | ⟨path, x, hpath, hpicture⟩ := blocked_or_picture lib t f level given
  · obtain ⟨hanswer, htree⟩ := exportLevel_of_blocked hblocked
    refine ⟨fun _ => exportLevel_of_blocked, ?_, ?_⟩
    · intro other hother
      rw [hanswer] at hother
      cases hother
      exact Or.inl ⟨hblocked, htree⟩
    · intro x hx
      rw [hanswer] at hx
      cases hx
  · refine ⟨fun _ => exportLevel_of_blocked, ?_, ?_⟩
    all_goals rw [exportLevel_of_picture hpath hpicture]
    · intro e he
      obtain ⟨_, -, hstopped⟩ | ⟨hdone, -⟩ := writePicture_cases hlib t path x
      · exact Or.inr ⟨path, x, hpath, hpicture, hstopped⟩
      · rw [hdone] at he
        cases he
    · intro y hy
      obtain ⟨_, hfailed, -⟩ | ⟨hdone, hsaved⟩ := writePicture_cases hlib t path x
      · rw [hfailed] at hy
        cases hy
      · rw [hdone] at hy
        cases hy
        exact ⟨hpath, hpicture, hsaved⟩

end TextureFile

namespace FileRequest

/-! ### One request -/

/-- The requests that only read: the path, the boundary, and what they ask of the decoded file. -/
inductive Reads : FileRequest → FilePath → Bool → (Decoded → FileAnswer) → Prop
  | load (path : FilePath) (strict : Bool) : Reads (.load path strict) path strict .decoded
  | decode (f : TextureFile) : Reads (.decode f) f.path f.settings.strictBoundary .decoded
  | texture (f : TextureFile) :
      Reads (.texture f) f.path f.settings.strictBoundary (fun d => .texture d.texture)
  | txi (f : TextureFile) : Reads (.txi f) f.path f.settings.strictBoundary (fun d => .txi d.txi)

variable {lib : Option Imaging}

theorem run_of_reads {request : FileRequest} {path : FilePath} {strict : Bool}
    {view : Decoded → FileAnswer} (h : Reads request path strict view) (t : FileTree) :
    request.run lib t = ((TextureFile.load t path strict).map view, t) := by
  cases h <;> rfl

/-- What a request does in the tree that it meets. -/
structure Step (lib : Option Imaging) (request : FileRequest) (met : FileTree) : Prop where
  unchanged : (∀ f level given, request ≠ .exportLevel f level given) →
    (request.run lib met).2 = met
  reads : ∀ path strict view, Reads request path strict view →
    ∃ found, TextureFile.Answers met path strict found ∧
      (request.run lib met).1 = found.map view
  exports : ∀ f level given, request = .exportLevel f level given →
    ∃ answer, TextureFile.Effect lib met f level given answer (request.run lib met).2 ∧
      (request.run lib met).1.answer = answer.map .exported

theorem step (hlib : ∀ l ∈ lib, l.SavesFile) (request : FileRequest) (met : FileTree) :
    Step lib request met where
  unchanged := tree_run_of_not_export lib
  reads path strict view h := by
    rw [run_of_reads h]
    exact ⟨_, TextureFile.answers_load met path strict, rfl⟩
  exports f level given h := by
    subst h
    exact ⟨_, TextureFile.effect_exportLevel hlib met f level given, rfl⟩

/-! ### Runs of requests -/

/-- The tree that requests leave. -/
def treeAfter (lib : Option Imaging) (requests : List FileRequest) (t : FileTree) : FileTree :=
  requests.foldl (fun met request => (request.run lib met).2) t

theorem getElem?_runAll (lib : Option Imaging) (before : List FileRequest) (request : FileRequest)
    (after : List FileRequest) (t : FileTree) :
    (runAll lib (before ++ request :: after) t)[before.length]? =
      some (request.run lib (treeAfter lib before t)) := by
  induction before generalizing t with
  | nil => rfl
  | cons first rest ih => exact ih (first.run lib t).2

/-- What is at a place after requests: what was there, a directory where nothing was, or a file that was
written at the destination of one of their exports. -/
inductive Left (t t' : FileTree) (requests : List FileRequest) (place : Place) : Prop
  | kept (h : t'.node place = t.node place)
  | made (hnone : t.node place = none) (h : t'.node place = some .directory)
  | written (f : TextureFile) (level : Int) (given : Option FilePath)
      (hrequest : .exportLevel f level given ∈ requests) (path : FilePath)
      (hpath : f.destination level given = .ok path) (hplace : t'.locate path = .ok place)
      (data : Bytes) (h : t'.node place = some (.file data))

/-- Requests keep the directories of a tree, and all else but what their exports wrote. -/
structure Grown (t t' : FileTree) (requests : List FileRequest) : Prop where
  directories : t.KeepsDirectories t'
  left : ∀ place, Left t t' requests place

theorem Grown.refl (t : FileTree) (requests : List FileRequest) : Grown t t requests :=
  ⟨.refl t, fun _ => .kept rfl⟩

/-- What later requests left in the place of what earlier ones left. -/
theorem Grown.trans {t met t' : FileTree} {earlier later : List FileRequest}
    (hearlier : Grown t met earlier) (hlater : Grown met t' later) :
    Grown t t' (earlier ++ later) := by
  refine ⟨hearlier.directories.trans hlater.directories, ?_⟩
  intro place
  cases hlater.left place with
  | kept hsame =>
    cases hearlier.left place with
    | kept h => exact .kept (hsame.trans h)
    | made hnone h => exact .made hnone (hsame.trans h)
    | written f level given hrequest path hpath hplace data h =>
      exact .written f level given (List.mem_append_left _ hrequest) path hpath
        (hlater.directories.locate hplace) data (hsame.trans h)
  | made hnone h =>
    -- A request takes nothing away, so nothing was there before either.
    cases hearlier.left place with
    | kept hbefore => exact .made (hbefore ▸ hnone) h
    | made _ hmade =>
      rw [hnone] at hmade
      cases hmade
    | written _ _ _ _ _ _ _ _ hfile =>
      rw [hnone] at hfile
      cases hfile
  | written f level given hrequest path hpath hplace data h =>
    exact .written f level given (List.mem_append_right _ hrequest) path hpath hplace data h

theorem grown_of_made {t t' : FileTree} {p : FilePath} (h : FileTree.DirectoriesMade t t' p)
    (requests : List FileRequest) : Grown t t' requests := by
  refine ⟨h.keepsDirectories, ?_⟩
  intro place
  obtain hsame | ⟨hnone, hmade, -⟩ := h.node place
  · exact .kept hsame
  · exact .made hnone hmade

theorem grown_of_begun {t t' : FileTree} {f : TextureFile} {level : Int} {given : Option FilePath}
    {path : FilePath} (hpath : f.destination level given = .ok path)
    (h : TextureFile.Begun t t' path) : Grown t t' [.exportLevel f level given] := by
  obtain ⟨data, place, hwritten⟩ := h
  refine ⟨hwritten.keepsDirectories, ?_⟩
  intro other
  by_cases hother : other = place
  · subst hother
    exact .written f level given List.mem_cons_self path hpath hwritten.located data hwritten.written
  · obtain hsame | ⟨hnone, hmade, -⟩ := hwritten.others other hother
    · exact .kept hsame
    · exact .made hnone hmade

theorem grown_run (hlib : ∀ l ∈ lib, l.SavesFile) (request : FileRequest) (t : FileTree) :
    Grown t (request.run lib t).2 [request] := by
  have hstep := step hlib request t
  by_cases hexport : ∃ f level given, request = .exportLevel f level given
  · obtain ⟨f, level, given, rfl⟩ := hexport
    obtain ⟨answer, heffect, -⟩ := hstep.exports f level given rfl
    cases answer with
    | error e =>
      obtain ⟨-, hsame⟩ | ⟨path, x, hpath, -, hstopped⟩ := heffect.failed e rfl
      · rw [hsame]
        exact .refl t _
      · rcases hstopped with hmade | hbegun
        · exact grown_of_made hmade _
        · exact grown_of_begun hpath hbegun
    | ok x =>
      obtain ⟨hpath, -, hsaved⟩ := heffect.exported x rfl
      exact grown_of_begun hpath hsaved.written
  · rw [hstep.unchanged (fun f level given h => hexport ⟨f, level, given, h⟩)]
    exact .refl t _

theorem grown_runAll (hlib : ∀ l ∈ lib, l.SavesFile) (requests : List FileRequest) (t : FileTree) :
    Grown t (treeAfter lib requests t) requests := by
  induction requests generalizing t with
  | nil => exact .refl t []
  | cons request rest ih => exact (grown_run hlib request t).trans (ih (request.run lib t).2)

/-- In a run of requests each meets the tree that those before it left. A request that reads answers
for the file that is there then. An export that stops before it writes leaves the tree as it is, and
one that answers writes its one file. -/
theorem step_of_requests {lib : Option Imaging} (hlib : ∀ l ∈ lib, l.SavesFile) (t : FileTree)
    (before : List FileRequest) (request : FileRequest) (after : List FileRequest) :
    let met := treeAfter lib before t
    (runAll lib (before ++ request :: after) t)[before.length]? = some (request.run lib met) ∧
      Step lib request met ∧ Grown t met before := by
  intro met
  exact ⟨getElem?_runAll lib before request after t, step hlib request met,
    grown_runAll hlib before t⟩

/-- The first export makes a directory and writes its bitmap there. The second one stops before it writes,
for there is no such level. -/
theorem exports_below_missing_directory :
    let lib : Option Imaging := some .plain
    let data : Bytes :=
      Header.pack ⟨4, 1, 1, 0x04, 1⟩ (List.replicate 4 0) (List.replicate 114 0) ++ [1, 2, 3, 4]
    let t : FileTree :=
      ⟨[([['t']], .directory), ([['t'], ['a']], .file data)], [['t']], fun _ => none⟩
    let f : TextureFile := ⟨⟨.here, [['a']]⟩, ⟨none, none, true⟩⟩
    let d : Decoded :=
      ⟨⟨4, 1, 1, 0x04, 1⟩, ⟨Encoding.raw.layout, [⟨1, 1, 4, [1, 2, 3, 4]⟩]⟩, []⟩
    let x : Exported := ⟨⟨.here, [['o'], ['a', '.', 'b', 'm', 'p']]⟩, ⟨1, 1, [⟨3, 2, 1, 4⟩], rfl⟩⟩
    let first : FileRequest := .exportLevel f 0 (some x.path)
    let second : FileRequest := .exportLevel f 1 (some x.path)
    let met := treeAfter lib [first] t
    (first.run lib t).1.answer = .ok (.exported x) ∧ TextureFile.Saved lib t met x ∧
      (TextureFile.decode met f).answer = .ok d ∧
      (second.run lib met).1.answer = .error (.noLevel 1 1) ∧ (second.run lib met).2 = met := by
  intro lib data t f d x first second met
  have hlib : ∀ l ∈ lib, l.SavesFile := by simpa [lib] using Imaging.savesFile_plain
  have hfirst : (first.run lib t).1.answer = .ok (.exported x) := by decide +kernel
  have hdecoded : (TextureFile.decode met f).answer = .ok d := by decide +kernel
  obtain ⟨-, hstep, -⟩ := step_of_requests hlib t [] first [second]
  obtain ⟨-, hlater, -⟩ := step_of_requests hlib t [first] second []
  obtain ⟨answer, heffect, hanswer⟩ := hstep.exports f 0 (some x.path) rfl
  obtain ⟨answer', heffect', hanswer'⟩ := hlater.exports f 1 (some x.path) rfl
  have hsaved : answer = .ok x := by
    have hmapped := hfirst.symm.trans hanswer
    cases answer with
    | error e => cases hmapped
    | ok y => rw [FileAnswer.exported.inj (Except.ok.inj hmapped)]
  obtain ⟨-, -, hwritten⟩ := heffect.exported x hsaved
  obtain ⟨hblocked, hsame⟩ := heffect'.blocked _ (.noLevel rfl hdecoded (.inr (by decide)))
  refine ⟨hfirst, hwritten, hdecoded, ?_, hsame⟩
  rw [hanswer', hblocked]
  rfl

/-- The system is not asked about a path with a null character, so the answer is no failed read. -/
theorem null_path_is_no_failed_read :
    let t := FileTree.empty [['t']]
    let path : FilePath := ⟨.here, [['a', '\x00', 'b']]⟩
    let answer := ((load path true).run none t).1.answer
    (∀ data, t.find path ≠ .ok (some (.file data))) ∧ answer = .error (.refused .nullByte) ∧
      ∀ (cause : SystemError) (name : Option String),
        answer ≠ .error (.unreadable (.system cause) name) := by
  intro t path answer
  have hnull : '\x00' ∈ path.text := by decide
  have hload := (TextureFile.answers_load t path true).null rfl hnull
  have hanswer : answer = .error (.refused .nullByte) := by
    have hrun : answer = (TextureFile.load t path true).answer.map .decoded := rfl
    rw [hrun, hload]
    rfl
  refine ⟨?_, hanswer, ?_⟩
  · intro data hfound
    rw [FileTree.find_eq_error_iff.mpr (FileTree.locate_of_null rfl hnull)] at hfound
    cases hfound
  · intro cause name hfailed
    rw [hanswer] at hfailed
    cases hfailed

end FileRequest

end MipTexture
