import Registrar.Files.Route
import Registrar.Files.Trouble

/-!
# File trees

A file tree gives for every place what stands there: a directory, a file with its content, or a
link with its target. A place is the list of names from the root on, and the root is always a
directory. Routes are followed through links, as far as links may lead.

The operations here are the single steps of writing: make a directory, write a file in place, put
a file at a place in one step. Each of them changes one entry or none.
-/

namespace Registrar.Files

/-- The names from the root to an entry. -/
abbrev Place := List String

/-- What stands at a place. -/
inductive Node where
  | directory
  | file (content : String)
  | link (target : String)
  deriving DecidableEq, Repr

/-- The entries of a file tree. -/
structure Tree where
  entries : List (Place × Node)
  deriving DecidableEq, Repr

namespace Tree

/-- What stands at a place. -/
def node? (tree : Tree) (place : Place) : Option Node :=
  if place = [] then some .directory
  else (tree.entries.find? fun entry => entry.1 = place).map (·.2)

/-- Put a node into entries, in its place if it has one. -/
def setEntry (place : Place) (node : Node) : List (Place × Node) → List (Place × Node)
  | [] => [(place, node)]
  | entry :: rest =>
      if entry.1 = place then (place, node) :: rest else entry :: setEntry place node rest

/-- Put a node at a place. -/
def set (tree : Tree) (place : Place) (node : Node) : Tree :=
  ⟨setEntry place node tree.entries⟩

theorem find?_setEntry_self (place : Place) (node : Node) (entries : List (Place × Node)) :
    (setEntry place node entries).find? (fun entry => entry.1 = place) = some (place, node) := by
  induction entries with
  | nil => simp [setEntry]
  | cons entry rest ih =>
      by_cases h : entry.1 = place <;> simp [setEntry, h, ih]

theorem find?_setEntry_ne {place other : Place} (h : other ≠ place) (node : Node)
    (entries : List (Place × Node)) :
    (setEntry place node entries).find? (fun entry => entry.1 = other) =
      entries.find? (fun entry => entry.1 = other) := by
  induction entries with
  | nil => simp [setEntry, Ne.symm h]
  | cons entry rest ih =>
      by_cases here : entry.1 = place
      · simp [setEntry, here, Ne.symm h]
      · simp [setEntry, here, List.find?_cons, ih]

theorem node?_set_self {place : Place} (inside : place ≠ []) (tree : Tree) (node : Node) :
    (tree.set place node).node? place = some node := by
  simp [set, node?, inside, find?_setEntry_self]

/-- Putting a node at a place leaves every other place as it is. -/
theorem node?_set_ne {place other : Place} (h : other ≠ place) (tree : Tree) (node : Node) :
    (tree.set place node).node? other = tree.node? other := by
  simp only [set, node?, find?_setEntry_ne h]

theorem setEntry_eq_self {place : Place} {node : Node} {entries : List (Place × Node)}
    (stands : (entries.find? fun entry => entry.1 = place).map (·.2) = some node) :
    setEntry place node entries = entries := by
  induction entries with
  | nil => cases stands
  | cons entry rest ih =>
      rw [setEntry]
      by_cases here : entry.1 = place
      · rw [List.find?_cons_of_pos (by simpa using here)] at stands
        rw [if_pos here, ← here, ← Option.some.inj stands]
      · rw [List.find?_cons_of_neg (by simpa using here)] at stands
        rw [if_neg here, ih stands]

/-- To put at a place what stands there changes nothing. -/
theorem set_eq_self {tree : Tree} {place : Place} {node : Node} (inside : place ≠ [])
    (stands : tree.node? place = some node) : tree.set place node = tree := by
  rw [node?, if_neg inside] at stands
  rw [set, setEntry_eq_self stands]

/-- What becomes of the last step of a route. -/
inductive Ending where
  /-- What stands at the end is taken as it is, also a link. -/
  | taken
  /-- A link at the end is followed. -/
  | followed
  /-- A link at the end is followed to where a file can be written. A name with a slash behind it
  is a directory's. -/
  | written
  deriving DecidableEq, Repr

/-- The steps to the target of a link. A slash at the end is a last step without a name, which stays
in place and so asks for a directory. -/
def targetSteps (target : String) : List String :=
  let names := ((segments target.toList).map String.ofList).filter (· ≠ "")
  if target.toList.getLast? = some '/' then names ++ [""] else names

/-- The most bytes that a name may have. -/
def greatestName : Nat := 255

/-- The most bytes that the text of a route may have. -/
def greatestPath : Nat := 4095

/-- Follow steps from a directory. The result is the place that is reached with what stands there,
which is nothing if only the last step leads nowhere. A link is handed on with the place that its
target starts from and the steps that are left. -/
def follow (tree : Tree) (ending : Ending)
    (again : Place → List String → Except Trouble (Place × Option Node)) :
    Place → List String → Except Trouble (Place × Option Node)
  | place, [] => .ok (place, some .directory)
  | place, name :: rest =>
      if name = "" ∨ name = "." then follow tree ending again place rest
      else if name = ".." then follow tree ending again place.dropLast rest
      else if ending = .written ∧ rest = [""] then .error .isDirectory
      else if greatestName < name.utf8ByteSize then .error .nameTooLong
      else
        let next := place ++ [name]
        match tree.node? next with
        | none => if rest = [] then .ok (next, none) else .error .missing
        | some .directory => follow tree ending again next rest
        | some (.file content) =>
            if rest = [] then .ok (next, some (.file content)) else .error .notDirectory
        | some (.link target) =>
            if rest = [] ∧ ending = .taken then .ok (next, some (.link target))
            else
              again (if target.toList.head? = some '/' then [] else place)
                (targetSteps target ++ rest)

/-- Follow steps through at most a given number of links. -/
def followLinks (tree : Tree) (ending : Ending) :
    Nat → Place → List String → Except Trouble (Place × Option Node)
  | 0 => follow tree ending fun _ _ => .error .linkLoop
  | links + 1 => follow tree ending (followLinks tree ending links)

/-- The most links that a route may lead through. -/
def greatestLinks : Nat := 40

/-- The place that a route leads to from the root, with what stands there. -/
def locate (tree : Tree) (ending : Ending) (route : Route) :
    Except Trouble (Place × Option Node) :=
  if route.hasBadName then .error .badName
  else if greatestPath < route.text.utf8ByteSize then .error .nameTooLong
  else followLinks tree ending greatestLinks [] route.parts

/-- Whether a route leads to anything. A route that is too long cannot even be asked for. -/
def exists? (tree : Tree) (route : Route) : Except Trouble Bool :=
  match tree.locate .followed route with
  | .ok (_, found) => .ok found.isSome
  | .error .nameTooLong => .error .nameTooLong
  | .error _ => .ok false

/-- Whether a route leads to a directory. -/
def isDirectory (tree : Tree) (route : Route) : Bool :=
  match tree.locate .followed route with
  | .ok (_, some .directory) => true
  | _ => false

/-- The content of the file that a route leads to. -/
def content? (tree : Tree) (route : Route) : Option String :=
  match tree.locate .followed route with
  | .ok (_, some (.file content)) => some content
  | _ => none

/-- Make one directory. -/
def makeDirectory (tree : Tree) (route : Route) : Except Trouble Tree :=
  match tree.locate .taken route with
  | .ok (_, some _) => .error (.inTheWay route.text)
  | .ok (place, none) => .ok (tree.set place .directory)
  | .error trouble => .error trouble

/-- What comes of a directory that could not be made: a directory that stands there is as good. -/
def orStands (tree : Tree) (route : Route) (trouble : Trouble) : Tree × Except Trouble Unit :=
  (tree, if tree.isDirectory route then .ok () else .error trouble)

/-- Make a directory whose parent should be there. -/
def makeLast (tree : Tree) (route : Route) : Tree × Except Trouble Unit :=
  match tree.makeDirectory route with
  | .ok made => (made, .ok ())
  | .error .missing => (tree, .error .missing)
  | .error trouble => orStands tree route trouble

/-- Make a directory and all that is missing on the way, given the steps from the last one on. What
was made stays, also when a later step fails. -/
def makeAllFrom (root : String) : List String → Tree → Tree × Except Trouble Unit
  | [], tree => makeLast tree ⟨root, []⟩
  | name :: outer, tree =>
      let route : Route := ⟨root, (name :: outer).reverse⟩
      match tree.makeDirectory route with
      | .error .missing =>
          match makeAllFrom root outer tree with
          | (made, .ok ()) => makeLast made route
          | (made, .error trouble) => (made, .error trouble)
      | .ok made => (made, .ok ())
      | .error trouble => orStands tree route trouble

/-- Make a directory and all that is missing on the way. -/
def makeDirectories (tree : Tree) (route : Route) : Tree × Except Trouble Unit :=
  makeAllFrom route.root route.parts.reverse tree

/-- Write a file where a route leads to, through a link at its end. -/
def writeInPlace (tree : Tree) (route : Route) (content : String) : Except Trouble Tree :=
  match tree.locate .written route with
  | .ok (_, some .directory) => .error .isDirectory
  | .ok (place, _) => .ok (tree.set place (.file content))
  | .error trouble => .error trouble

/-- Write a text where a route leads to. The file is opened, and so made or emptied, before the text is
encoded. -/
def writeText (tree : Tree) (route : Route) (content : Text) : Tree × Option Trouble :=
  match tree.writeInPlace route content.written with
  | .ok done => (done, content.unencodable?.map .unencodable)
  | .error trouble => (tree, some trouble)

/-- Check that a file can be made in a directory. -/
def checkDirectory (tree : Tree) (route : Route) : Except Trouble Unit :=
  match tree.locate .followed route with
  | .ok (_, some .directory) => .ok ()
  | .ok (_, some _) => .error .notDirectory
  | .ok (_, none) => .error .missing
  | .error trouble => .error trouble

/-- Put a file that was made under another name at the end of a route, in the place of a file or a
link that stands there. -/
def putAt (tree : Tree) (route : Route) (content : String) : Except Trouble Tree :=
  if route.parts.getLast?.getD ".." = ".." then .error .busy
  else
    match tree.locate .taken route with
    | .ok (_, some .directory) => .error .isDirectory
    | .ok (place, _) => .ok (tree.set place (.file content))
    | .error trouble => .error trouble

/-- How many bytes the name of an unfinished file has more than the name of the finished one: two
dots in front and behind, eight characters of its own, and an ending of four. -/
def unfinishedExcess : Nat := 14

/-- Check that a file can be made beside the end of a route, for what is to be put there. The directory is
found as if there were no links on the way. -/
def checkBeside (tree : Tree) (route : Route) : Except Trouble Unit := do
  if route.hasBadName then throw .badName
  let directory := route.parent.flatten
  let name := route.parts.getLast?.getD ""
  if greatestPath < (directory.append ⟨"", [name]⟩).text.utf8ByteSize + unfinishedExcess then
    throw .nameTooLong
  tree.checkDirectory directory
  if greatestName < name.utf8ByteSize + unfinishedExcess then throw .nameTooLong

/-- What is written of a text that can be encoded. -/
def encoded (content : Text) : Except Trouble String :=
  match content.unencodable? with
  | some cause => .error (.unencodable cause)
  | none => .ok content.written

/-- Write a text in one step: a file is made for it in the same directory first, and put in place when the
text is in it. If the text cannot be encoded the file is taken away again. -/
def replaceFile (tree : Tree) (route : Route) (content : Text) : Except Trouble Tree := do
  tree.checkBeside route
  tree.putAt route (← encoded content)

end Tree

end Registrar.Files
