import Registrar.Files.Tree
import Registrar.Settings
import Registrar.Validation

/-!
# Writing generated files

A writer puts generated files below a directory. All files of a run are checked before the first
one is written: no path may be given twice, no file may stand in the way unless the writer
overwrites, and what is written has to be well formed. Then the files are written one after the
other, each with the directories that lead to it.

What a run has done stays done when a later file cannot be written, so the outcome of a run is a
tree in any case, with the routes that were written and the fault that ended the run, if any.
-/

namespace Registrar

/-- Where and how files are written. -/
structure Writer where
  directory : Files.Route
  output : OutputSetting
  deriving DecidableEq, Repr

/-- What comes of a run. -/
structure WriteOutcome where
  tree : Files.Tree
  written : List Files.Route
  fault : Option Fault
  deriving DecidableEq, Repr

/-- The first path that is given again behind the paths before it. -/
def firstRepeated? : List String → List String → Option String
  | _, [] => none
  | seen, path :: rest =>
      if path ∈ seen then some path else firstRepeated? (path :: seen) rest

/-- No path is repeated just when all are different, among themselves and from those before. -/
theorem firstRepeated?_eq_none_iff (seen paths : List String) :
    firstRepeated? seen paths = none ↔ paths.Nodup ∧ ∀ path ∈ paths, path ∉ seen := by
  induction paths generalizing seen with
  | nil => simp [firstRepeated?]
  | cons path rest ih =>
      by_cases h : path ∈ seen
      · simp [firstRepeated?, h]
      · simp only [firstRepeated?, h, if_false, ih, List.nodup_cons, List.mem_cons, not_or]
        constructor
        · rintro ⟨distinct, fresh⟩
          refine ⟨⟨fun again => (fresh path again).1 rfl, distinct⟩, ?_⟩
          rintro other (rfl | member)
          · exact h
          · exact (fresh other member).2
        · rintro ⟨⟨once, distinct⟩, fresh⟩
          refine ⟨distinct, fun other member => ⟨?_, fresh other (Or.inr member)⟩⟩
          rintro rfl
          exact once member

/-- Check that no two files have the same path. -/
def checkRepeated (files : List OutputFile) : Except Fault Unit :=
  match firstRepeated? [] (files.map (·.path)) with
  | some path => .error (.duplicatePath path)
  | none => .ok ()

namespace Writer

/-- Where a file is written. -/
def routeOf (writer : Writer) (file : OutputFile) : Files.Route :=
  writer.directory.append (.ofText file.path)

/-- Check one file against the tree and by itself. -/
def check (writer : Writer) (tree : Files.Tree) (file : OutputFile) : Except Fault Unit := do
  let route := writer.routeOf file
  let standing ← (tree.exists? route).mapError .files
  let policy ← writer.output.effective
  if standing ∧ policy.mode = .refuse then throw (.outputExists route.text)
  if policy.validate.truthy then validate file

/-- Check all files before the first one is written. -/
def checkAll (writer : Writer) (tree : Files.Tree) (files : List OutputFile) :
    Except Fault Unit := do
  checkRepeated files
  files.forM (writer.check tree)

/-- Put the content of a file at its route, in one step or in place. -/
def place (policy : OutputPolicy) (tree : Files.Tree) (route : Files.Route) (content : Text) :
    Files.Tree × Option Files.Trouble :=
  if policy.atomic.truthy then
    match tree.replaceFile route content with
    | .ok done => (done, none)
    | .error trouble => (tree, some trouble)
  else tree.writeText route content

/-- Write one file that was checked. The directories that were made for it stay, also when the file
cannot be written. -/
def commit (policy : OutputPolicy) (tree : Files.Tree) (route : Files.Route) (content : Text) :
    Files.Tree × Option Files.Trouble :=
  match tree.makeDirectories route.parent with
  | (made, .error trouble) => (made, some trouble)
  | (made, .ok ()) => place policy made route content

/-- Write files that were checked, up to the first that cannot be written. -/
def commitAll (writer : Writer) (policy : OutputPolicy) :
    Files.Tree → List OutputFile → WriteOutcome
  | tree, [] => ⟨tree, [], none⟩
  | tree, file :: rest =>
      let route := writer.routeOf file
      match commit policy tree route file.content with
      | (after, some trouble) => ⟨after, [], some (.files trouble)⟩
      | (after, none) =>
          let outcome := writer.commitAll policy after rest
          { outcome with written := route :: outcome.written }

/-- Write all files, after checking all of them. -/
def writeAll (writer : Writer) (tree : Files.Tree) (files : List OutputFile) : WriteOutcome :=
  match writer.checkAll tree files, writer.output.effective with
  | .error fault, _ => ⟨tree, [], some fault⟩
  | .ok (), .error fault => ⟨tree, [], if files = [] then none else some fault⟩
  | .ok (), .ok policy => writer.commitAll policy tree files

/-- Nothing is written unless every check passes. -/
theorem writeAll_of_checkAll_error {writer : Writer} {tree : Files.Tree}
    {files : List OutputFile} {fault : Fault} (h : writer.checkAll tree files = .error fault) :
    writer.writeAll tree files = ⟨tree, [], some fault⟩ := by
  simp [writeAll, h]

/-- Write one file, after checking it. -/
def write (writer : Writer) (tree : Files.Tree) (file : OutputFile) : WriteOutcome :=
  writer.writeAll tree [file]

end Writer

end Registrar
