import Registrar.Proofs.Files.Ends

/-!
# Unfinished files

A file that is written in one step is first made in the same directory, under a name of its own, and then
gets the name it is to have. If its content cannot be encoded, or it cannot be given that name, it is taken away
again. For a name under which nothing stands this has the outcome that the one step has: the same end, and the
same tree place by place. So no unfinished file is left, whether the file can be written or not.

## Implementation notes

The one step asks for no name, and so nothing in a run depends on it. Here the name is any of the right
length, and where nothing stands is asked of the tree in which the unfinished file is made. There may be links
in that tree: the unfinished file is made where the directory is found without them, the finished one where
they lead, and a way that leads to a directory does not pass a place where nothing stands.
-/

namespace Registrar.Files

/-- The name of a file while it is unfinished, with what makes it the only one of its name. -/
def unfinishedName (name own : String) : String :=
  "." ++ name ++ "." ++ own ++ ".tmp"

theorem size_unfinishedName (name : String) {own : String} (eight : own.utf8ByteSize = 8) :
    (unfinishedName name own).utf8ByteSize = name.utf8ByteSize + Tree.unfinishedExcess := by
  have dot : ".".utf8ByteSize = 1 := by decide
  have ending : ".tmp".utf8ByteSize = 4 := by decide
  simp only [unfinishedName, String.utf8ByteSize_append, dot, ending, eight, Tree.unfinishedExcess]
  omega

theorem plainName_unfinishedName {name own : String} (eight : own.utf8ByteSize = 8) :
    PlainName (unfinishedName name own) := by
  have size := size_unfinishedName name eight
  refine ⟨?_, ?_, ?_⟩ <;>
    · intro short
      rw [short, Tree.unfinishedExcess] at size
      have few : "".utf8ByteSize < 14 ∧ ".".utf8ByteSize < 14 ∧ "..".utf8ByteSize < 14 := by decide
      omega

theorem unfinishedName_ne {name own : String} (eight : own.utf8ByteSize = 8) :
    unfinishedName name own ≠ name := by
  intro same
  have size := size_unfinishedName name eight
  rw [same, Tree.unfinishedExcess] at size
  omega

/-- The route to the file that a route leads to while it is unfinished. -/
def Route.unfinished (route : Route) (own : String) : Route :=
  route.parent.flatten.append ⟨"", [unfinishedName (route.parts.getLast?.getD "") own]⟩

namespace Tree

/-- Take away what stands at a place. -/
def remove (tree : Tree) (place : Place) : Tree :=
  ⟨tree.entries.filter fun entry => entry.1 ≠ place⟩

/-- Make a file where nothing stands. -/
def makeFile (tree : Tree) (route : Route) (content : String) : Except Trouble (Tree × Place) :=
  match tree.locate .taken route with
  | .ok (_, some _) => .error (.inTheWay route.text)
  | .ok (place, none) => .ok (tree.set place (.file content), place)
  | .error trouble => .error trouble

/-- Give the file at a place the name at the end of a route. -/
def rename (tree : Tree) (place : Place) (route : Route) : Except Trouble Tree :=
  match tree.node? place with
  | some (.file content) => (tree.putAt route content).map (·.remove place)
  | _ => .error .missing

/-- Write a text through an unfinished file, which is taken away if the text cannot be encoded or the file not
be renamed. -/
def replaceThrough (own : String) (tree : Tree) (route : Route) (content : Text) :
    Tree × Except Trouble Unit :=
  let name := unfinishedName (route.parts.getLast?.getD "") own
  match tree.makeFile (route.parent.flatten.append ⟨"", [name]⟩) content.written with
  | .error trouble => (tree, .error trouble)
  | .ok (made, place) =>
      match encoded content >>= fun _ => made.rename place route with
      | .error trouble => (made.remove place, .error trouble)
      | .ok done => (done, .ok ())

section Entries

variable {place goal : Place} {node : Node} {entries : List (Place × Node)} {tree : Tree}

theorem setEntry_of_absent (absent : ∀ entry ∈ entries, entry.1 ≠ place) (node : Node) :
    setEntry place node entries = entries ++ [(place, node)] := by
  induction entries with
  | nil => rfl
  | cons entry rest ih =>
      obtain ⟨here, later⟩ := List.forall_mem_cons.mp absent
      rw [setEntry, if_neg here, ih later, List.cons_append]

theorem filter_of_absent (absent : ∀ entry ∈ entries, entry.1 ≠ place) :
    entries.filter (fun entry => entry.1 ≠ place) = entries := by
  rw [List.filter_eq_self]
  intro entry member
  simpa using absent entry member

/-- An entry behind others is taken away from them, also if another one was put among them. -/
theorem filter_setEntry_concat (absent : ∀ entry ∈ entries, entry.1 ≠ place) (apart : place ≠ goal)
    (node other : Node) :
    (setEntry goal other (entries ++ [(place, node)])).filter (fun entry => entry.1 ≠ place) =
      setEntry goal other entries := by
  induction entries with
  | nil => simp [setEntry, apart, Ne.symm apart]
  | cons entry rest ih =>
      obtain ⟨here, later⟩ := List.forall_mem_cons.mp absent
      rw [List.cons_append, setEntry, setEntry]
      by_cases same : entry.1 = goal
      · rw [if_pos same, if_pos same, List.filter_cons_of_pos (by simpa using Ne.symm apart),
          List.filter_append, filter_of_absent later]
        simp
      · rw [if_neg same, if_neg same, List.filter_cons_of_pos (by simpa using here), ih later]

theorem absent_of_node? (inside : place ≠ []) (free : tree.node? place = none) :
    ∀ entry ∈ tree.entries, entry.1 ≠ place := by
  rw [node?, if_neg inside, Option.map_eq_none_iff, List.find?_eq_none] at free
  simpa using free

/-- A file that is made where nothing stands and taken away leaves the tree as it was. -/
theorem set_remove (inside : place ≠ []) (free : tree.node? place = none) (node : Node) :
    (tree.set place node).remove place = tree := by
  have absent := absent_of_node? inside free
  rw [remove, set, setEntry_of_absent absent, List.filter_append, filter_of_absent absent]
  simp

/-- If another is put somewhere in the meantime, that one is left. -/
theorem set_set_remove (inside : place ≠ []) (free : tree.node? place = none) (apart : place ≠ goal)
    (node other : Node) :
    ((tree.set place node).set goal other).remove place = tree.set goal other := by
  have absent := absent_of_node? inside free
  simp only [remove, set, setEntry_of_absent absent, filter_setEntry_concat absent apart]

end Entries

variable {tree : Tree} {root own name : String} {above : List String} {route : Route}

section Making

/-- What has to be known of the name of an unfinished file: its own part has eight bytes, none of them null,
and nothing stands under it beside the end of the route. -/
structure Fresh (tree : Tree) (own : String) (route : Route) : Prop where
  eight : own.utf8ByteSize = 8
  named : '\x00' ∉ own.toList
  free : tree.node? (route.parts.dropLast ++ [unfinishedName (route.parts.getLast?.getD "") own]) = none

/-- The same of any route in any tree: what stands is asked for where the unfinished file is made. -/
structure Vacant (tree : Tree) (own : String) (route : Route) : Prop where
  eight : own.utf8ByteSize = 8
  named : '\x00' ∉ own.toList
  free : ∀ place node, tree.locate .taken (route.unfinished own) ≠ .ok (place, some node)

/-- Check that an unfinished file can be made. -/
def checkUnfinished (tree : Tree) (root : String) (above : List String) (name : String) :
    Except Trouble Unit :=
  if Route.hasBadName ⟨root, above ++ [name]⟩ then .error .badName
  else if greatestPath < (Route.text ⟨root, above ++ [name]⟩).utf8ByteSize + unfinishedExcess then
    .error .nameTooLong
  else
    match tree.checkDirectory ⟨root, above⟩ with
    | .error trouble => .error trouble
    | .ok () =>
        if greatestName < name.utf8ByteSize + unfinishedExcess then .error .nameTooLong else .ok ()

theorem checkUnfinished_eq_ok (checked : tree.checkUnfinished root above name = .ok ()) :
    Route.hasBadName ⟨root, above ++ [name]⟩ = false ∧ tree.checkDirectory ⟨root, above⟩ = .ok () := by
  rw [checkUnfinished] at checked
  split at checked
  · cases checked
  rename_i named
  split at checked
  · cases checked
  cases directory : tree.checkDirectory ⟨root, above⟩ with
  | error trouble =>
      rw [directory] at checked
      cases checked
  | ok done => exact ⟨by simpa using named, rfl⟩

theorem mem_of_mem_flattenFrom {place names : List String}
    (member : name ∈ Route.flattenFrom place names) : name ∈ place ∨ name ∈ names := by
  induction names generalizing place with
  | nil => exact .inl member
  | cons first rest ih =>
      rw [Route.flattenFrom] at member
      split at member
      · rcases ih member with before | later
        · exact .inl (List.dropLast_subset place before)
        · exact .inr (List.mem_cons_of_mem first later)
      · rcases ih member with before | later
        · rcases List.mem_append.mp before with here | last
          · exact .inl here
          · exact .inr (List.mem_singleton.mp last ▸ List.mem_cons_self)
        · exact .inr (List.mem_cons_of_mem first later)

theorem hasBadName_flatten (named : route.hasBadName = false) : route.flatten.hasBadName = false := by
  rw [Route.hasBadName, List.any_eq_false] at named ⊢
  intro name member
  rcases mem_of_mem_flattenFrom member with nowhere | inside
  · cases nowhere
  · exact named name inside

theorem hasBadName_concat :
    Route.hasBadName ⟨root, above ++ [name]⟩ =
      (Route.hasBadName ⟨root, above⟩ || name.toList.contains '\x00') := by
  simp [Route.hasBadName]

/-- The directory of a route is there if it is found when the route is taken without its detours, and the route
ends in a name or a step to the parent. -/
structure Grounded (tree : Tree) (route : Route) : Prop where
  named : route.parent.flatten.hasBadName = route.parent.hasBadName
  directory : tree.checkDirectory route.parent.flatten = .ok () → tree.isDirectory route.parent = true
  ordinary : ∀ name, route.parts.getLast? = some name → name ≠ "" ∧ name ≠ "."

theorem isDirectory_of_checkDirectory (checked : tree.checkDirectory route = .ok ()) :
    tree.isDirectory route = true := by
  rw [checkDirectory] at checked
  split at checked
  · rename_i goal located
    exact isDirectory_iff.mpr ⟨goal, located⟩
  · cases checked
  · cases checked
  · cases checked

theorem grounded_of_plain (plain : route.Plain) : tree.Grounded route := by
  have front : route.parent.Plain := fun name member => plain name (List.dropLast_subset _ member)
  have straight := Route.flatten_of_plain front
  refine ⟨by rw [straight], fun checked => ?_, fun name last => ?_⟩
  · rw [straight] at checked
    exact isDirectory_of_checkDirectory checked
  · have here := plain name (List.mem_of_getLast? last)
    exact ⟨here.1, here.2.1⟩

/-- The directory of a route that stands is free of bad names. -/
theorem grounded_of_isDirectory (standing : tree.isDirectory route.parent = true)
    (ordinary : ∀ name, route.parts.getLast? = some name → name ≠ "" ∧ name ≠ ".") :
    tree.Grounded route := by
  obtain ⟨goal, located⟩ := isDirectory_iff.mp standing
  rw [locate] at located
  split at located
  · cases located
  rename_i named
  rw [Bool.not_eq_true] at named
  exact ⟨by rw [hasBadName_flatten named, named], fun _ => standing, ordinary⟩

theorem Grounded.hasBadName_eq (grounded : tree.Grounded route)
    (flat : route.parent.flatten = ⟨root, above⟩) (last : route.parts.getLast?.getD "" = name) :
    route.hasBadName = Route.hasBadName ⟨root, above ++ [name]⟩ := by
  have alike := grounded.named
  rw [flat] at alike
  rw [hasBadName_concat, alike, ← last]
  obtain ⟨root, parts⟩ := route
  rcases List.eq_nil_or_concat parts with rfl | ⟨front, name, rfl⟩
  · simp [Route.hasBadName, Route.parent]
  · simp [Route.hasBadName, Route.parent]

/-- What is asked of a route before a file is put in place in one step is whether an unfinished one can be
made. -/
theorem checkBeside_eq (grounded : tree.Grounded route) (flat : route.parent.flatten = ⟨root, above⟩)
    (last : route.parts.getLast?.getD "" = name) :
    tree.checkBeside route = tree.checkUnfinished root above name := by
  have named := grounded.hasBadName_eq flat last
  have whole : Route.append ⟨root, above⟩ ⟨"", [name]⟩ = ⟨root, above ++ [name]⟩ := rfl
  simp only [checkBeside, named, flat, last, whole, checkUnfinished]
  split
  · rfl
  split
  · rfl
  cases tree.checkDirectory ⟨root, above⟩ with
  | error trouble => rfl
  | ok done =>
      simp only [bind, Except.bind]
      split
      · rfl
      · rfl

theorem replaceFile_eq_bind (grounded : tree.Grounded route) (flat : route.parent.flatten = ⟨root, above⟩)
    (last : route.parts.getLast?.getD "" = name) (content : Text) :
    tree.replaceFile route content =
      tree.checkUnfinished root above name >>= fun _ => encoded content >>= tree.putAt route := by
  rw [replaceFile, checkBeside_eq grounded flat last]

theorem flatten_parent_concat (plain : Route.Plain ⟨root, above ++ [name]⟩) :
    (Route.parent ⟨root, above ++ [name]⟩).flatten = ⟨root, above⟩ := by
  have front : Route.Plain ⟨root, above⟩ := fun other member => plain other (List.mem_append_left _ member)
  rw [Route.parent_concat, Route.flatten_of_plain front]

theorem checkBeside_concat (tree : Tree) (plain : Route.Plain ⟨root, above ++ [name]⟩) :
    tree.checkBeside ⟨root, above ++ [name]⟩ = tree.checkUnfinished root above name :=
  checkBeside_eq (grounded_of_plain plain) (flatten_parent_concat plain) (by simp)

/-- An unfinished file is made when nothing speaks against it. -/
theorem makeFile_unfinished (vacant : tree.Vacant own route) (flat : route.parent.flatten = ⟨root, above⟩)
    (last : route.parts.getLast?.getD "" = name) (content : String) :
    (∃ trouble, tree.checkUnfinished root above name = .error trouble ∧
      tree.makeFile (route.unfinished own) content = .error trouble) ∨
    ∃ goal, tree.checkUnfinished root above name = .ok () ∧
      tree.node? (goal ++ [unfinishedName name own]) = none ∧
      tree.makeFile (route.unfinished own) content =
        .ok (tree.set (goal ++ [unfinishedName name own]) (.file content),
          goal ++ [unfinishedName name own]) := by
  have plain : PlainName (unfinishedName name own) := plainName_unfinishedName vacant.eight
  have named : Route.hasBadName ⟨root, above ++ [unfinishedName name own]⟩ =
      Route.hasBadName ⟨root, above ++ [name]⟩ := by
    simp [Route.hasBadName, unfinishedName, vacant.named]
  have size : (Route.text ⟨root, above ++ [unfinishedName name own]⟩).utf8ByteSize =
      (Route.text ⟨root, above ++ [name]⟩).utf8ByteSize + unfinishedExcess := by
    obtain ⟨before, each⟩ := Route.exists_size_text root above
    rw [each, each, size_unfinishedName name vacant.eight]
    omega
  have way : route.unfinished own = ⟨root, above ++ [unfinishedName name own]⟩ := by
    rw [Route.unfinished, flat, last]
    rfl
  have free := vacant.free
  rw [makeFile, checkUnfinished]
  rw [way] at free ⊢
  by_cases bad : Route.hasBadName ⟨root, above ++ [name]⟩ = true
  · rw [if_pos bad, locate_badName (named.trans bad)]
    exact .inl ⟨.badName, rfl, rfl⟩
  rw [locate_concat plain (by simpa [named] using bad), size] at free ⊢
  rw [if_neg bad]
  by_cases long : greatestPath < (Route.text ⟨root, above ++ [name]⟩).utf8ByteSize + unfinishedExcess
  · rw [if_pos long, if_pos long]
    exact .inl ⟨.nameTooLong, rfl, rfl⟩
  rw [if_neg long] at free
  rw [if_neg long, if_neg long, checkDirectory]
  cases located : tree.locate .followed ⟨root, above⟩ with
  | error trouble => exact .inl ⟨trouble, rfl, rfl⟩
  | ok found =>
      obtain ⟨goal, node⟩ := found
      cases node with
      | none => exact .inl ⟨.missing, rfl, rfl⟩
      | some node =>
          cases node with
          | file content => exact .inl ⟨.notDirectory, rfl, rfl⟩
          | link target => exact .inl ⟨.notDirectory, rfl, rfl⟩
          | directory =>
              have fits : fitsName (unfinishedName name own) = true ↔
                  ¬ greatestName < name.utf8ByteSize + unfinishedExcess := by
                simp [fitsName, size_unfinishedName name vacant.eight]
              by_cases large : greatestName < name.utf8ByteSize + unfinishedExcess
              · exact .inl ⟨.nameTooLong, by simp [large], by simp [foundIn, fits, large]⟩
              · rw [located] at free
                have nothing : tree.node? (goal ++ [unfinishedName name own]) = none := by
                  cases stands : tree.node? (goal ++ [unfinishedName name own]) with
                  | none => rfl
                  | some node =>
                      exact absurd (by simp [foundIn, fits, large, stands])
                        (free (goal ++ [unfinishedName name own]) node)
                exact .inr ⟨goal, by simp [large], nothing, by simp [foundIn, fits, large, nothing]⟩

theorem Fresh.free_concat (fresh : tree.Fresh own ⟨root, above ++ [name]⟩) :
    tree.node? (above ++ [unfinishedName name own]) = none := by
  simpa using fresh.free

/-- A name that is fresh in a tree without links is vacant. -/
theorem Fresh.vacant (fresh : tree.Fresh own ⟨root, above ++ [name]⟩) (unlinked : tree.Unlinked)
    (plain : Route.Plain ⟨root, above ++ [name]⟩) : tree.Vacant own ⟨root, above ++ [name]⟩ := by
  refine ⟨fresh.eight, fresh.named, ?_⟩
  intro place node located
  have front : Route.Plain ⟨root, above⟩ := fun other member => plain other (List.mem_append_left _ member)
  have way : Route.unfinished ⟨root, above ++ [name]⟩ own = ⟨root, above ++ [unfinishedName name own]⟩ := by
    rw [Route.unfinished, flatten_parent_concat plain]
    simp [Route.append]
  rw [way] at located
  by_cases bad : Route.hasBadName ⟨root, above ++ [unfinishedName name own]⟩ = true
  · rw [locate_badName bad] at located
    cases located
  rw [locate_concat (plainName_unfinishedName fresh.eight) (by simpa using bad)] at located
  split at located
  · cases located
  obtain ⟨goal, found, -, rfl, stands⟩ := foundIn_eq_ok located
  obtain rfl : goal = above := eq_parts_of_locate unlinked front found
  rw [fresh.free_concat] at stands
  cases stands

end Making

section Outcome

/-- What comes of a step that gives a new tree if it is made: without one the tree stays as it is. -/
def endOf (tree : Tree) : Except Trouble Tree → Tree × Except Trouble Unit
  | .error trouble => (tree, .error trouble)
  | .ok after => (after, .ok ())

/-- How the writing of a file ends, and what stands at each place then. -/
def outcomeOf (tree : Tree) : Except Trouble Tree → (Place → Option Node) × Except Trouble Unit
  | .error trouble => (tree.node?, .error trouble)
  | .ok after => (after.node?, .ok ())

theorem outcomeOf_eq (tree : Tree) (result : Except Trouble Tree) :
    tree.outcomeOf result = ((tree.endOf result).1.node?, (tree.endOf result).2) := by
  cases result <;> rfl

theorem replaceThrough_eq_endOf (own : String) (tree : Tree) (route : Route) (content : Text) :
    tree.replaceThrough own route content =
      match tree.makeFile (route.unfinished own) content.written with
      | .error trouble => (tree, .error trouble)
      | .ok (made, place) =>
          endOf (made.remove place) (encoded content >>= fun _ => made.rename place route) := by
  have way : route.parent.flatten.append ⟨"", [unfinishedName (route.parts.getLast?.getD "") own]⟩ =
      route.unfinished own := rfl
  rw [replaceThrough, way]
  cases tree.makeFile (route.unfinished own) content.written with
  | error trouble => rfl
  | ok found =>
      cases made : encoded content >>= fun _ => found.1.rename found.2 route <;> simp only [made, endOf]

/-- An unfinished file is renamed just when one step puts the file in place, and is gone in any case. -/
theorem rename_unfinished (grounded : tree.Grounded route) (flat : route.parent.flatten = ⟨root, above⟩)
    (last : route.parts.getLast?.getD "" = name) (checked : tree.checkUnfinished root above name = .ok ())
    (eight : own.utf8ByteSize = 8) {goal : Place}
    (free : tree.node? (goal ++ [unfinishedName name own]) = none) (content : String) :
    let place := goal ++ [unfinishedName name own]
    let made := tree.set place (.file content)
    endOf (made.remove place) (made.rename place route) = endOf tree (tree.putAt route content) := by
  intro place made
  have inside : place ≠ [] := by simp [place]
  have stands : made.node? place = some (.file content) := node?_set_self inside ..
  have gone : made.remove place = tree := set_remove inside free (.file content)
  simp only [rename, stands, gone]
  rw [Writer.putAt_eq_putFound, Writer.putAt_eq_putFound]
  by_cases busy : route.parts.getLast?.getD ".." = ".."
  · rw [if_pos busy, if_pos busy]
    rfl
  rw [if_neg busy, if_neg busy]
  obtain ⟨start, parts⟩ := route
  obtain ⟨front, other, rfl, downward⟩ := exists_concat_of_ordinary busy
  obtain rfl : name = other := by simpa using last.symm
  have parent := Route.parent_concat start front name
  have plain : PlainName name := by
    have letters := grounded.ordinary name (by simp)
    exact ⟨letters.1, letters.2, downward⟩
  have apart : unfinishedName name own ≠ name := unfinishedName_ne eight
  obtain ⟨named, directory⟩ := checkUnfinished_eq_ok checked
  rw [← grounded.hasBadName_eq flat (by simp)] at named
  rw [← flat] at directory
  have standing : tree.isDirectory ⟨start, front⟩ = true := parent ▸ grounded.directory directory
  rw [locate_beside plain named standing free apart]
  cases located : tree.locate .taken ⟨start, front ++ [name]⟩ with
  | error trouble => rfl
  | ok found =>
      obtain ⟨there, node⟩ := found
      obtain ⟨above, rfl⟩ := exists_concat_of_locate plain named located
      have beside : place ≠ above ++ [name] := fun same =>
        apart (List.singleton_inj.mp (List.append_inj' same rfl).2)
      have left : (made.set (above ++ [name]) (.file content)).remove place =
          tree.set (above ++ [name]) (.file content) :=
        set_set_remove inside free beside (.file content) _
      cases node with
      | none => exact congrArg (·, Except.ok ()) left
      | some node =>
          cases node with
          | directory => rfl
          | file earlier => exact congrArg (·, Except.ok ()) left
          | link target => exact congrArg (·, Except.ok ()) left

/-- To write a file through an unfinished one is to write it in one step. -/
theorem replaceThrough_eq (grounded : tree.Grounded route) (vacant : tree.Vacant own route)
    (content : Text) :
    tree.replaceThrough own route content = endOf tree (tree.replaceFile route content) := by
  obtain ⟨⟨root, above⟩, flat⟩ : ∃ directory, route.parent.flatten = directory := ⟨_, rfl⟩
  obtain ⟨name, last⟩ : ∃ name, route.parts.getLast?.getD "" = name := ⟨_, rfl⟩
  rw [replaceThrough_eq_endOf, replaceFile_eq_bind grounded flat last]
  rcases makeFile_unfinished vacant flat last content.written with
    ⟨trouble, refused, unmade⟩ | ⟨goal, checked, free, made⟩
  · rw [refused, unmade]
    rfl
  · rw [checked, made]
    cases whole : encoded content with
    | error trouble => exact congrArg (·, Except.error trouble) (set_remove (by simp) free _)
    | ok text =>
        obtain rfl := encoded_eq_ok_iff.mp whole
        exact rename_unfinished grounded flat last checked vacant.eight free text

/-- In a tree without links it is enough that nothing stands beside the end of a plain route. -/
theorem replaceThrough_outcome (unlinked : tree.Unlinked) (plain : route.Plain)
    (inside : route.parts ≠ []) (fresh : tree.Fresh own route) (content : Text) :
    let through := tree.replaceThrough own route content
    (through.1.node?, through.2) = outcomeOf tree (tree.replaceFile route content) := by
  intro through
  obtain ⟨root, parts⟩ := route
  obtain ⟨above, name, rfl⟩ : ∃ above name, parts = above ++ [name] :=
    ⟨_, _, (List.dropLast_append_getLast inside).symm⟩
  rw [outcomeOf_eq, ← replaceThrough_eq (grounded_of_plain plain) (fresh.vacant unlinked plain)]

/-- A directory at the end of the route: the unfinished file is taken away again. -/
example :
    let tree : Tree := ⟨[(["out"], .directory), (["out", "A.ts"], .directory)]⟩
    let through := tree.replaceThrough "0a1b2c3d" ⟨"/", ["out", "A.ts"]⟩ "text"
    through.2 = .error .isDirectory ∧ through.1.node? ["out", ".A.ts.0a1b2c3d.tmp"] = none := by
  decide +kernel

end Outcome

end Tree

end Registrar.Files
