import Registrar.Proofs.Files.Trying

/-!
# In one step or in place

A file is put in place in one step or written where it is to stand. In a tree without links both come to the
same for every file of a run, unless the file is cramped or would be left empty. A cramped file could be
written, but the name that it needs while it is unfinished is too long: it is refused in one step only. A file
whose content cannot be encoded is refused both ways, but in place there is an empty file then.

## Implementation notes

Where a file is to stand is found past the steps to the parent that its directory may have, the unfinished one
where these are undone before. Without links the two are the same place.
-/

namespace Registrar

namespace Files

/-- A file that could be written, if it did not need a longer name while it is unfinished. -/
structure Route.Cramped (route : Route) : Prop where
  named : route.hasBadName = false
  name_short : (route.parts.getLast?.getD "").utf8ByteSize ≤ Tree.greatestName
  text_short : route.text.utf8ByteSize ≤ Tree.greatestPath
  unfinished_long :
    Tree.greatestPath < (route.parent.flatten.append ⟨"", [route.parts.getLast?.getD ""]⟩).text.utf8ByteSize +
        Tree.unfinishedExcess ∨
      Tree.greatestName < (route.parts.getLast?.getD "").utf8ByteSize + Tree.unfinishedExcess

theorem Route.cramped_iff {route : Route} :
    route.Cramped ↔ route.hasBadName = false ∧
      (route.parts.getLast?.getD "").utf8ByteSize ≤ Tree.greatestName ∧
      route.text.utf8ByteSize ≤ Tree.greatestPath ∧
      (Tree.greatestPath < (route.parent.flatten.append ⟨"", [route.parts.getLast?.getD ""]⟩).text.utf8ByteSize +
          Tree.unfinishedExcess ∨
        Tree.greatestName < (route.parts.getLast?.getD "").utf8ByteSize + Tree.unfinishedExcess) :=
  ⟨fun ⟨named, name_short, text_short, long⟩ => ⟨named, name_short, text_short, long⟩,
    fun ⟨named, name_short, text_short, long⟩ => ⟨named, name_short, text_short, long⟩⟩

instance (route : Route) : Decidable route.Cramped :=
  decidable_of_iff' _ Route.cramped_iff

theorem Route.cramped_concat_iff {root name : String} {front above : List String}
    (named : Route.hasBadName ⟨root, front ++ [name]⟩ = false)
    (flat : Route.flatten ⟨root, front⟩ = ⟨root, above⟩) :
    Route.Cramped ⟨root, front ++ [name]⟩ ↔
      ¬ (Tree.greatestPath < (Route.text ⟨root, front ++ [name]⟩).utf8ByteSize ∨
        Tree.greatestName < name.utf8ByteSize) ∧
      (Tree.greatestPath < (Route.text ⟨root, above ++ [name]⟩).utf8ByteSize + Tree.unfinishedExcess ∨
        Tree.greatestName < name.utf8ByteSize + Tree.unfinishedExcess) := by
  have last : (front ++ [name]).getLast?.getD "" = name := by simp
  have parent := Route.parent_concat root front name
  have beside : Route.append ⟨root, above⟩ ⟨"", [name]⟩ = ⟨root, above ++ [name]⟩ := rfl
  constructor
  · rintro ⟨-, name_short, text_short, unfinished_long⟩
    simp only [last, parent, flat, beside] at name_short unfinished_long
    exact ⟨by omega, unfinished_long⟩
  · rintro ⟨fits, unfinished_long⟩
    refine ⟨named, ?_, by omega, ?_⟩
    · simp only [last]
      omega
    · simp only [last, parent, flat, beside]
      exact unfinished_long

namespace Tree

variable {tree : Tree} {place goal : Place} {names : List String} {name root : String} {above : List String}
  {route : Route}

/-- A place is reached by its own names. -/
def Reachable (tree : Tree) (place : Place) : Prop :=
  (∀ name ∈ place, PlainName name) ∧
    tree.followLinks .followed greatestLinks [] place = .ok (place, some .directory)

theorem followLinks_concat_of_unlinked (unlinked : tree.Unlinked)
    (plain : ∀ other ∈ above ++ [name], PlainName other) :
    tree.followLinks .followed greatestLinks [] (above ++ [name]) =
      foundIn tree name (tree.followLinks .followed greatestLinks [] above) := by
  rw [← followLinks_concat (plain name (by simp)), followLinks_eq, followLinks_eq]
  exact follow_ending unlinked fun other member => (plain other member).1

theorem Reachable.dropLast (reachable : tree.Reachable place) (unlinked : tree.Unlinked) :
    tree.Reachable place.dropLast := by
  rcases List.eq_nil_or_concat place with rfl | ⟨above, name, rfl⟩
  · exact reachable
  · rw [List.concat_eq_append] at *
    obtain ⟨plain, followed⟩ := reachable
    rw [followLinks_concat_of_unlinked unlinked plain] at followed
    obtain ⟨directory, found, -, whole, -⟩ := foundIn_eq_ok followed
    obtain rfl := (List.append_inj' whole rfl).1
    rw [List.dropLast_concat]
    exact ⟨fun other member => plain other (List.mem_append_left _ member), found⟩

theorem Reachable.concat (reachable : tree.Reachable place) (unlinked : tree.Unlinked)
    (plain : PlainName name) (fits : fitsName name = true)
    (stands : tree.node? (place ++ [name]) = some .directory) : tree.Reachable (place ++ [name]) := by
  obtain ⟨all, followed⟩ := reachable
  have whole : ∀ other ∈ place ++ [name], PlainName other := by
    intro other member
    rcases List.mem_append.mp member with before | last
    · exact all other before
    · exact List.mem_singleton.mp last ▸ plain
  refine ⟨whole, ?_⟩
  rw [followLinks_concat_of_unlinked unlinked whole, followed, foundIn, if_pos fits, stands]

/-- Steps that lead to a directory lead there also when the steps to the parent are undone before. -/
theorem Reachable.flattenFrom (reachable : tree.Reachable place) (unlinked : tree.Unlinked)
    (moving : ∀ name ∈ names, name ≠ "" ∧ name ≠ ".")
    (followed : tree.followLinks .followed greatestLinks place names = .ok (goal, some .directory)) :
    goal = Route.flattenFrom place names ∧ tree.Reachable goal := by
  rw [followLinks_eq] at followed
  induction names generalizing place with
  | nil =>
      obtain ⟨rfl, -⟩ := Prod.mk.inj (Except.ok.inj followed)
      exact ⟨rfl, reachable⟩
  | cons first rest ih =>
      obtain ⟨here, later⟩ := List.forall_mem_cons.mp moving
      rw [Route.flattenFrom]
      by_cases parent : first = ".."
      · subst parent
        rw [follow_up] at followed
        rw [if_pos rfl]
        exact ih (reachable.dropLast unlinked) later followed
      have plain : PlainName first := ⟨here.1, here.2, parent⟩
      rw [if_neg parent]
      obtain ⟨short, step⟩ := follow_plain plain followed
      cases stands : tree.node? (place ++ [first]) with
      | none =>
          simp only [stands] at step
          cases step.2
      | some node =>
          cases node with
          | file content =>
              simp only [stands] at step
              cases step.2
          | link target => exact absurd stands (unlinked _ target)
          | directory =>
              simp only [stands] at step
              exact ih (reachable.concat unlinked plain (by simpa [fitsName] using short) stands) later step

/-- Without links a directory is found also when the steps to the parent are undone before. -/
theorem checkDirectory_flatten (unlinked : tree.Unlinked) (moving : route.Moving)
    (standing : tree.isDirectory route = true) (short : route.flatten.text.utf8ByteSize ≤ greatestPath) :
    tree.checkDirectory route.flatten = .ok () := by
  obtain ⟨goal, located⟩ := isDirectory_iff.mp standing
  rw [locate] at located
  split at located
  · cases located
  split at located
  · cases located
  rename_i named _
  have start : tree.Reachable [] := ⟨by simp, by rw [followLinks_eq, follow]⟩
  obtain ⟨straight, -, found⟩ := start.flattenFrom unlinked moving located
  have again : tree.locate .followed route.flatten = .ok (goal, some .directory) := by
    rw [locate, hasBadName_flatten (by simpa using named), if_neg (by simp), if_neg (Nat.not_lt.mpr short)]
    exact straight ▸ found
  rw [checkDirectory, again]

section One

/-- Without links a file is put where its route leads whether a link at the end is followed or not. -/
theorem putAt_eq_writeInPlace (unlinked : tree.Unlinked) (moving : route.Moving)
    (ordinary : route.parts.getLast?.getD ".." ≠ "..") (content : String) :
    tree.putAt route content = tree.writeInPlace route content := by
  rw [Writer.putAt_eq_putFound, if_neg ordinary, Writer.writeInPlace_eq_putFound,
    locate_ending unlinked (fun name member => (moving name member).1) .taken .written]

/-- Below a directory a file cannot be written for the length of its name just when the name is too long, or
the text of its route is. -/
theorem writeInPlace_eq_nameTooLong_iff (unlinked : tree.Unlinked)
    (moving : Route.Moving ⟨root, above ++ [name]⟩) (plain : PlainName name)
    (named : Route.hasBadName ⟨root, above ++ [name]⟩ = false)
    (standing : tree.isDirectory ⟨root, above⟩ = true) (content : String) :
    tree.writeInPlace ⟨root, above ++ [name]⟩ content = .error .nameTooLong ↔
      greatestPath < (Route.text ⟨root, above ++ [name]⟩).utf8ByteSize ∨
        greatestName < name.utf8ByteSize := by
  obtain ⟨goal, located⟩ := isDirectory_iff.mp standing
  rw [Writer.writeInPlace_eq_putFound,
    locate_ending unlinked (fun name member => (moving name member).1) .written .taken,
    locate_concat plain named, located]
  by_cases long : greatestPath < (Route.text ⟨root, above ++ [name]⟩).utf8ByteSize
  · simp [long, Writer.putFound]
  · rw [if_neg long, foundIn]
    by_cases short : name.utf8ByteSize ≤ greatestName
    · have fits : fitsName name = true := by simpa [fitsName] using short
      simp only [fits, long, Nat.not_lt.mpr short, or_self, iff_false, if_true]
      cases tree.node? (goal ++ [name]) with
      | none => simp [Writer.putFound]
      | some node => cases node <;> simp [Writer.putFound]
    · have large : ¬ fitsName name = true := by simpa [fitsName] using short
      simp [large, Nat.lt_of_not_le short, Writer.putFound]

/-- Below a directory an unfinished file can be made just when its name and the text of its route are short
enough. -/
theorem checkUnfinished_of_isDirectory (unlinked : tree.Unlinked) (moving : route.Moving)
    (standing : tree.isDirectory route = true) (flat : route.flatten = ⟨root, above⟩) (letters : name ≠ "")
    (named : Route.hasBadName ⟨root, above ++ [name]⟩ = false) :
    tree.checkUnfinished root above name =
      if greatestPath < (Route.text ⟨root, above ++ [name]⟩).utf8ByteSize + unfinishedExcess ∨
        greatestName < name.utf8ByteSize + unfinishedExcess then .error .nameTooLong
      else .ok () := by
  rw [checkUnfinished, if_neg (by simp [named])]
  by_cases long : greatestPath < (Route.text ⟨root, above ++ [name]⟩).utf8ByteSize + unfinishedExcess
  · rw [if_pos long, if_pos (.inl long)]
  · have less := Route.size_text_le_concat root above letters
    have directory := checkDirectory_flatten unlinked moving standing (by rw [flat]; omega)
    rw [flat] at directory
    simp only [long, directory, if_false, false_or]

/-- Without links, a file can be written in place below a directory only if an unfinished one can be made there,
unless it is cramped: then no unfinished one can be made. -/
theorem checkBeside_below_directory (unlinked : tree.Unlinked) (moving : route.Moving)
    (ordinary : route.parts.getLast?.getD ".." ≠ "..") (standing : tree.isDirectory route.parent = true)
    (content : String) :
    (route.Cramped → tree.checkBeside route = .error .nameTooLong ∧
      tree.writeInPlace route content ≠ .error .nameTooLong) ∧
    (¬ route.Cramped → ∀ trouble, tree.checkBeside route = .error trouble →
      tree.writeInPlace route content = .error trouble) := by
  have grounded : tree.Grounded route :=
    grounded_of_isDirectory standing fun name last => moving name (List.mem_of_getLast? last)
  obtain ⟨start, parts⟩ := route
  obtain ⟨front, name, rfl, downward⟩ := exists_concat_of_ordinary ordinary
  have parent := Route.parent_concat start front name
  have last : (front ++ [name]).getLast?.getD "" = name := by simp
  have plain : PlainName name := by
    have letters := moving name (by simp)
    exact ⟨letters.1, letters.2, downward⟩
  have upward : Route.Moving ⟨start, front⟩ := fun other member =>
    moving other (List.mem_append_left _ member)
  obtain ⟨above, flat⟩ : ∃ above, Route.flatten ⟨start, front⟩ = ⟨start, above⟩ := ⟨_, rfl⟩
  rw [parent] at standing
  have alike := grounded.hasBadName_eq (parent ▸ flat) last
  rw [checkBeside_eq grounded (parent ▸ flat) last]
  cases named : Route.hasBadName ⟨start, front ++ [name]⟩ with
  | true =>
      have refused : tree.writeInPlace ⟨start, front ++ [name]⟩ content = .error .badName := by
        rw [writeInPlace, locate_badName named]
      constructor
      · intro cramped
        rw [cramped.named] at named
        cases named
      · intro _ trouble unmade
        rw [checkUnfinished, if_pos (alike.symm.trans named)] at unmade
        rw [refused, Except.error.inj unmade]
  | false =>
      have long := writeInPlace_eq_nameTooLong_iff unlinked moving plain named standing content
      rw [checkUnfinished_of_isDirectory unlinked upward standing flat plain.1 (alike.symm.trans named)]
      rw [Route.cramped_concat_iff named flat, ← long]
      constructor
      · rintro ⟨written, unfinished_long⟩
        rw [if_pos unfinished_long]
        exact ⟨rfl, written⟩
      · intro roomy trouble unmade
        split at unmade
        · rename_i unfinished_long
          obtain rfl := Except.error.inj unmade
          by_contra written
          exact roomy ⟨written, unfinished_long⟩
        · cases unmade

/-- Without links, what is written in place of a text that cannot be encoded leaves the tree as it was just when
an empty file stood there. -/
theorem writeText_unencodable_iff (unlinked : tree.Unlinked) (moving : route.Moving) {content : Text}
    {cause : Unencodable} (unencodable : content.unencodable? = some cause) :
    tree.writeText route content = (tree, some (.unencodable cause)) ↔ tree.content? route = some "" := by
  have empty : content.written = "" := Text.written_of_unencodable? (by simp [unencodable])
  have harmless := encodesNothing_locate tree .followed route
  have whole : tree.writeInPlace route "" = Writer.putFound tree "" (tree.locate .followed route) := by
    rw [Writer.writeInPlace_eq_putFound,
      locate_ending unlinked (fun name member => (moving name member).1) .written .followed]
  rw [writeText, content?, empty, unencodable, whole]
  cases located : tree.locate .followed route with
  | error trouble =>
      refine iff_of_false (fun same => ?_) (by simp)
      have encoding := harmless trouble located
      rw [Option.some.inj (Prod.mk.inj same).2] at encoding
      cases encoding
  | ok found =>
      obtain ⟨goal, node⟩ := found
      cases node with
      | none =>
          have stands : none = tree.node? goal := (reached_of_locate located (by simp)).2.1
          refine iff_of_false (fun same => ?_) (by simp)
          have put := (Prod.mk.inj same).1
          have there := node?_set_self (ne_nil_of_free stands.symm) tree (.file "")
          rw [put, ← stands] at there
          cases there
      | some node =>
          cases node with
          | directory =>
              refine iff_of_false (fun same => ?_) (by simp)
              cases (Prod.mk.inj same).2
          | link target =>
              have stands : some (.link target) = tree.node? goal := (reached_of_locate located (by simp)).2.1
              exact absurd stands.symm (unlinked goal target)
          | file earlier =>
              have stands : some (.file earlier) = tree.node? goal := (reached_of_locate located (by simp)).2.1
              have inside : goal ≠ [] := by
                rintro rfl
                cases stands
              constructor
              · intro same
                have put := (Prod.mk.inj same).1
                have there := node?_set_self inside tree (.file "")
                rw [put, ← stands] at there
                exact congrArg some (Node.file.inj (Option.some.inj there))
              · intro held
                rw [Option.some.inj held] at stands
                have kept := set_eq_self inside stands.symm
                simp only [Writer.putFound, kept, Option.map_some]

end One

end Tree

/-- A path of names between slashes, none of them empty, a dot or a step to the parent. -/
def OrdinaryPath (path : String) : Prop :=
  ∀ name ∈ (segments path.toList).map String.ofList, PlainName name

instance (path : String) : Decidable (OrdinaryPath path) :=
  inferInstanceAs (Decidable (∀ name ∈ (segments path.toList).map String.ofList, PlainName name))

theorem segments_ne_nil (cs : List Char) : segments cs ≠ [] := by
  cases cs with
  | nil => simp [segments]
  | cons c rest =>
      rw [segments]
      split
      · simp
      · split <;> simp

/-- A route that goes on by an ordinary path ends in a name. -/
theorem OrdinaryPath.getLast?_append {path : String} (ordinary : OrdinaryPath path) (route : Route) :
    (route.append (.ofText path)).parts.getLast?.getD ".." ≠ ".." := by
  have names : (Route.ofText path).parts = (segments path.toList).map String.ofList := by
    rw [Route.ofText, namesIn, List.filter_eq_self]
    intro name member
    simpa using ⟨(ordinary name member).1, (ordinary name member).2.1⟩
  obtain ⟨front, last, split⟩ : ∃ front last, (segments path.toList).map String.ofList = front ++ [last] := by
    rcases List.eq_nil_or_concat ((segments path.toList).map String.ofList) with empty | ⟨front, last, split⟩
    · exact absurd (List.map_eq_nil_iff.mp empty) (segments_ne_nil _)
    · exact ⟨front, last, by rw [split, List.concat_eq_append]⟩
  have plain : PlainName last := ordinary last (by simp [split])
  have ending : (route.append (.ofText path)).parts.getLast? = some last := by
    rw [Route.append]
    split
    · simp [names, split]
    · simp [names, split]
  rw [ending]
  exact plain.2.2

end Files

namespace Writer

open Files Files.Tree

variable {writer : Writer} {policy stepwise direct : OutputPolicy} {tree last : Tree} {route : Route}
  {content : String} {file : OutputFile} {files : List OutputFile}

/-- A file that a run would write in place, but not in one step: the directories on its way can be made, and it
is cramped. -/
def Cramps (tree : Tree) (route : Route) : Prop :=
  (tree.makeDirectories route.parent).2 = .ok () ∧ route.Cramped

/-- A file whose content cannot be encoded, where the directories on its way can be made, and an unfinished file in
them. In one step it is the content that is refused. In place a directory that stands there is refused first, and
otherwise an empty file is left behind, so this is the same only where one stands already. -/
structure Spoils (tree : Tree) (route : Route) (content : Text) : Prop where
  made : (tree.makeDirectories route.parent).2 = .ok ()
  unencodable : content.unencodable? ≠ none
  beside : (tree.makeDirectories route.parent).1.checkBeside route = .ok ()
  held : (tree.makeDirectories route.parent).1.content? route ≠ some ""

/-- Without links, a file is placed in one step as in place, unless it is cramped or would be left empty. -/
theorem place_stepwise (one_step : stepwise.atomic.truthy = true) (in_place : direct.atomic.truthy = false)
    (unlinked : tree.Unlinked) (moving : route.Moving) (ordinary : route.parts.getLast?.getD ".." ≠ "..")
    (standing : tree.isDirectory route.parent = true) (content : Text) :
    (route.Cramped → (place stepwise tree route content).2 = some .nameTooLong ∧
      (place direct tree route content).2 ≠ some .nameTooLong) ∧
    (¬ route.Cramped → (place stepwise tree route content = place direct tree route content ↔
      ¬ (content.unencodable? ≠ none ∧ tree.checkBeside route = .ok () ∧ tree.content? route ≠ some ""))) := by
  obtain ⟨cramped, roomy⟩ := checkBeside_below_directory unlinked moving ordinary standing content.written
  rw [place, place, if_pos one_step, if_neg (by simp [in_place]), replaceFile]
  constructor
  · intro long
    obtain ⟨refused, written⟩ := cramped long
    rw [refused]
    refine ⟨rfl, ?_⟩
    rw [writeText]
    cases result : tree.writeInPlace route content.written with
    | ok after => cases content.unencodable? <;> simp
    | error trouble =>
        rw [result] at written
        simpa using written
  · intro short
    cases beside : tree.checkBeside route with
    | error trouble =>
        rw [writeText, roomy short trouble beside]
        simp [bind, Except.bind]
    | ok done =>
        cases unencodable : content.unencodable? with
        | none =>
            have whole : encoded content = .ok content.written := by rw [encoded, unencodable]
            have put := putAt_eq_writeInPlace unlinked moving ordinary content.written
            rw [whole, writeText, unencodable]
            simp only [bind, Except.bind, put]
            cases tree.writeInPlace route content.written <;> simp
        | some cause =>
            have whole : encoded content = .error (.unencodable cause) := by rw [encoded, unencodable]
            have emptied := writeText_unencodable_iff unlinked moving unencodable
            rw [whole]
            simp only [bind, Except.bind]
            rw [eq_comm, emptied]
            simp

/-- Without links, a file is committed in one step as in place, unless it is cramped or would be left empty. If
it is cramped, only one of both is refused for the length of a name. -/
theorem commit_stepwise (one_step : stepwise.atomic.truthy = true) (in_place : direct.atomic.truthy = false)
    (unlinked : tree.Unlinked) (moving : route.Moving) (ordinary : route.parts.getLast?.getD ".." ≠ "..")
    (content : Text) :
    (Cramps tree route → (commit stepwise tree route content).2 = some .nameTooLong ∧
      (commit direct tree route content).2 ≠ some .nameTooLong) ∧
    (¬ Cramps tree route → (commit stepwise tree route content = commit direct tree route content ↔
      ¬ Spoils tree route content)) := by
  have parts : Spoils tree route content ↔ (tree.makeDirectories route.parent).2 = .ok () ∧
      content.unencodable? ≠ none ∧ (tree.makeDirectories route.parent).1.checkBeside route = .ok () ∧
        (tree.makeDirectories route.parent).1.content? route ≠ some "" :=
    ⟨fun ⟨made, unencodable, beside, held⟩ => ⟨made, unencodable, beside, held⟩,
      fun ⟨made, unencodable, beside, held⟩ => ⟨made, unencodable, beside, held⟩⟩
  rw [commit, commit, Cramps, parts]
  cases ended : tree.makeDirectories route.parent with
  | mk made result =>
      cases result with
      | error trouble => simp
      | ok done =>
          have grows := grows_makeDirectories tree route.parent
          rw [ended] at grows
          simpa using place_stepwise one_step in_place (grows.unlinked unlinked) moving ordinary
            (isDirectory_of_makeDirectories ended) content

/-- A file that would be left empty is committed neither way. -/
theorem Spoils.refused {content : Text} (spoils : Spoils tree route content) (policy : OutputPolicy) :
    (commit policy tree route content).2 ≠ none := by
  intro committed
  rw [eq_written_of_commit committed] at spoils
  exact spoils.unencodable rfl

theorem cons_written_eq_iff {first second : WriteOutcome} :
    ({ first with written := route :: first.written } : WriteOutcome) =
        { second with written := route :: second.written } ↔ first = second := by
  cases first
  cases second
  simp

/-- Runs that begin with a file that is refused both times have one outcome just when the file leaves one. -/
theorem commitAll_eq_iff_of_refused {rest : List OutputFile} {first second : OutputPolicy}
    (one : (commit first tree (writer.routeOf file) file.content).2 ≠ none)
    (two : (commit second tree (writer.routeOf file) file.content).2 ≠ none) :
    writer.commitAll first tree (file :: rest) = writer.commitAll second tree (file :: rest) ↔
      commit first tree (writer.routeOf file) file.content =
        commit second tree (writer.routeOf file) file.content := by
  rw [commitAll, commitAll]
  generalize commit first tree (writer.routeOf file) file.content = result at one ⊢
  generalize commit second tree (writer.routeOf file) file.content = other at two ⊢
  obtain ⟨after, trouble⟩ := result
  obtain ⟨left, ended⟩ := other
  dsimp only at one two
  obtain ⟨trouble, rfl⟩ := Option.ne_none_iff_exists'.mp one
  obtain ⟨ended, rfl⟩ := Option.ne_none_iff_exists'.mp two
  simp

/-- Without links, files are committed in one step as in place just when the run gets to no file that is cramped
or would be left empty. -/
theorem commitAll_stepwise_iff (one_step : stepwise.atomic.truthy = true)
    (in_place : direct.atomic.truthy = false) (unlinked : tree.Unlinked) (moving : writer.directory.Moving)
    (ordinary : ∀ file ∈ files, OrdinaryPath file.path) :
    writer.commitAll stepwise tree files = writer.commitAll direct tree files ↔
      ∀ file last, writer.Reaches direct tree files file last →
        ¬ Cramps last (writer.routeOf file) ∧ ¬ Spoils last (writer.routeOf file) file.content := by
  induction files generalizing tree with
  | nil =>
      refine ⟨fun _ => ?_, fun _ => rfl⟩
      rintro file last ⟨⟩
  | cons file rest ih =>
      obtain ⟨here, later⟩ := List.forall_mem_cons.mp ordinary
      have onward : (writer.routeOf file).Moving := moving.append (Route.moving_ofText file.path)
      obtain ⟨cramped, roomy⟩ := commit_stepwise one_step in_place unlinked onward
        (here.getLast?_append writer.directory) file.content
      by_cases cramps : Cramps tree (writer.routeOf file)
      · obtain ⟨refused, written⟩ := cramped cramps
        refine iff_of_false ?_ fun none_cramps => (none_cramps file tree (.here tree file rest)).1 cramps
        rw [commitAll, commitAll]
        cases first : commit stepwise tree (writer.routeOf file) file.content with
        | mk after trouble =>
            rw [first] at refused
            obtain rfl : trouble = some .nameTooLong := refused
            cases second : commit direct tree (writer.routeOf file) file.content with
            | mk other result =>
                rw [second] at written
                cases result with
                | none => simp
                | some trouble =>
                    have different : Trouble.nameTooLong ≠ trouble := fun same => written (by rw [same])
                    simp [different]
      by_cases spoils : Spoils tree (writer.routeOf file) file.content
      · refine iff_of_false ?_ fun none_spoils => (none_spoils file tree (.here tree file rest)).2 spoils
        rw [commitAll_eq_iff_of_refused (spoils.refused stepwise) (spoils.refused direct), roomy cramps]
        exact not_not_intro spoils
      rw [commitAll, commitAll, (roomy cramps).mpr spoils]
      cases committed : commit direct tree (writer.routeOf file) file.content with
      | mk after trouble =>
          cases trouble with
          | some trouble =>
              refine iff_of_true rfl ?_
              rintro other last (_ | ⟨first, -⟩)
              · exact ⟨cramps, spoils⟩
              · rw [committed] at first
                cases first
          | none =>
              have becomes := becomes_commit direct tree (writer.routeOf file) file.content
              rw [committed] at becomes
              have linkless : after.Unlinked := fun place target link =>
                unlinked place target (becomes.link link)
              simp only [cons_written_eq_iff]
              rw [ih linkless later]
              constructor
              · rintro none_fails other last (_ | ⟨first, reached⟩)
                · exact ⟨cramps, spoils⟩
                · rw [committed] at first
                  obtain ⟨rfl, -⟩ := Prod.mk.inj first
                  exact none_fails other last reached
              · intro none_fails other last reached
                exact none_fails other last (.later committed reached)

/-- Where files are written is all that committing them takes from a writer. -/
theorem commitAll_eq_of_directory (first second : Writer) (same : first.directory = second.directory)
    (policy : OutputPolicy) (tree : Tree) (files : List OutputFile) :
    first.commitAll policy tree files = second.commitAll policy tree files := by
  have routes (file : OutputFile) : first.routeOf file = second.routeOf file := by
    rw [routeOf, routeOf, same]
  induction files generalizing tree with
  | nil => rfl
  | cons file rest ih =>
      rw [commitAll, commitAll]
      simp only [routes file, ih]

section Overlong

/-- A name that is short enough for a file, but not for an unfinished one. -/
structure Overlong (name : String) : Prop where
  plain : PlainName name
  unbroken : '/' ∉ name.toList
  named : '\x00' ∉ name.toList
  short : name.utf8ByteSize ≤ greatestName
  long : greatestName < name.utf8ByteSize + unfinishedExcess

variable {name : String}

theorem unlinked_empty : Tree.Unlinked ⟨[]⟩ := by
  intro place target
  by_cases root : place = [] <;> simp [node?, root]

theorem makeDirectories_out :
    Tree.makeDirectories ⟨[]⟩ ⟨"/", ["out"]⟩ = (⟨[(["out"], .directory)]⟩, .ok ()) := by
  decide +kernel

/-- A path without a slash is a route with one name. -/
theorem Overlong.ofText (overlong : Overlong name) :
    (Route.ofText "/out").append (.ofText name) = ⟨"/", ["out"] ++ [name]⟩ := by
  have out : Route.ofText "/out" = ⟨"/", ["out"]⟩ := by decide +kernel
  have root : Route.rootOf name.toList = "" := by
    have unbroken := overlong.unbroken
    rw [Route.rootOf.eq_def]
    split <;> simp_all
  have one : namesIn name = [name] := by
    rw [namesIn, segments_of_not_mem overlong.unbroken]
    simp [overlong.plain.1, overlong.plain.2.1]
  rw [out, Route.ofText, root, one]
  rfl

theorem Overlong.moving (overlong : Overlong name) : Route.Moving ⟨"/", ["out"] ++ [name]⟩ := by
  intro other member
  rcases List.mem_append.mp member with above | last
  · rw [List.mem_singleton.mp above]
    decide
  · exact List.mem_singleton.mp last ▸ ⟨overlong.plain.1, overlong.plain.2.1⟩

theorem Overlong.hasBadName (overlong : Overlong name) :
    Route.hasBadName ⟨"/", ["out"] ++ [name]⟩ = false := by
  rw [hasBadName_concat]
  simpa [Route.hasBadName] using overlong.named

theorem Overlong.text_short (overlong : Overlong name) :
    ¬ greatestPath < (Route.text ⟨"/", ["out"] ++ [name]⟩).utf8ByteSize := by
  obtain ⟨before, each⟩ := Route.exists_size_text "/" ["out"]
  have few := each ""
  rw [show (Route.text ⟨"/", ["out"] ++ [""]⟩).utf8ByteSize = 5 by decide +kernel,
    String.utf8ByteSize_empty] at few
  have short := overlong.short
  rw [greatestName] at short
  rw [each, greatestPath]
  omega

/-- In an empty tree a file with such a name passes its check, if its content is not looked at. -/
theorem Overlong.checkAll (overlong : Overlong name) (atomic : Json) (content : String) :
    Writer.checkAll ⟨.ofText "/out", .stated ⟨.refuse, .bool false, atomic⟩⟩ ⟨[]⟩ [⟨name, content⟩] =
      .ok () := by
  have unreached : Tree.locate ⟨[]⟩ .followed ⟨"/", ["out"] ++ [name]⟩ = .error .missing := by
    rw [locate, overlong.hasBadName, if_neg (by simp), if_neg overlong.text_short, followLinks_eq,
      List.singleton_append, follow_step (by decide) (by simp)]
    rfl
  have absent : Tree.exists? ⟨[]⟩ ⟨"/", ["out"] ++ [name]⟩ = .ok false := by
    rw [exists?, unreached]
  refine checkAll_eq_ok_iff.mpr ⟨by simp, fun file member => ?_⟩
  obtain rfl := List.mem_singleton.mp member
  rw [check, routeOf, overlong.ofText, absent]
  rfl

theorem Overlong.cramps (overlong : Overlong name) : Cramps ⟨[]⟩ ⟨"/", ["out"] ++ [name]⟩ := by
  have short := overlong.short
  have fits := overlong.text_short
  refine ⟨by rw [Route.parent_concat, makeDirectories_out], ?_⟩
  exact (Route.cramped_concat_iff overlong.hasBadName rfl).mpr ⟨by omega, .inr overlong.long⟩

theorem Overlong.locate (overlong : Overlong name) :
    Tree.locate ⟨[(["out"], .directory)]⟩ .written ⟨"/", ["out"] ++ [name]⟩ =
      .ok (["out"] ++ [name], none) := by
  have linkless := (grows_makeDirectories ⟨[]⟩ ⟨"/", ["out"]⟩).unlinked unlinked_empty
  rw [makeDirectories_out] at linkless
  have found : Tree.locate ⟨[(["out"], .directory)]⟩ .followed ⟨"/", ["out"]⟩ =
      .ok (["out"], some .directory) := by
    decide +kernel
  rw [locate_ending linkless (fun other member => (overlong.moving other member).1) .written .taken,
    locate_concat overlong.plain overlong.hasBadName, if_neg overlong.text_short, found, foundIn,
    if_pos (by simpa [fitsName] using overlong.short)]
  simp [node?]

/-- A file with such a name is written in place, but refused in one step. -/
theorem Overlong.writeAll (overlong : Overlong name) (content : String) :
    let stepwise : Writer := ⟨.ofText "/out", .stated ⟨.refuse, .bool false, .bool true⟩⟩
    let direct : Writer := ⟨.ofText "/out", .stated ⟨.refuse, .bool false, .bool false⟩⟩
    (stepwise.writeAll ⟨[]⟩ [⟨name, content⟩]).fault = some (.files .nameTooLong) ∧
      (direct.writeAll ⟨[]⟩ [⟨name, content⟩]).fault = none := by
  intro stepwise direct
  have ordinary : (["out"] ++ [name]).getLast?.getD ".." ≠ ".." := by simpa using overlong.plain.2.2
  constructor
  · have one_step : (⟨.refuse, .bool false, .bool true⟩ : OutputPolicy).atomic.truthy = true := rfl
    have in_place : (⟨.refuse, .bool false, .bool false⟩ : OutputPolicy).atomic.truthy = false := rfl
    obtain ⟨refused, -⟩ := (commit_stepwise one_step in_place unlinked_empty overlong.moving ordinary
      content).1 overlong.cramps
    rw [writeAll_of_checkAll_ok rfl (overlong.checkAll _ content), commitAll]
    simp only [routeOf, overlong.ofText]
    cases committed : commit ⟨.refuse, .bool false, .bool true⟩ ⟨[]⟩ ⟨"/", ["out"] ++ [name]⟩ content with
    | mk after trouble =>
        rw [committed] at refused
        obtain rfl : trouble = some .nameTooLong := refused
        rfl
  · rw [writeAll_of_checkAll_ok rfl (overlong.checkAll _ content), commitAll]
    simp only [routeOf, overlong.ofText, commit, Route.parent_concat, makeDirectories_out, place, writeText,
      writeInPlace, overlong.locate]
    rfl

end Overlong

/-- In a tree without links, a run that puts its files in place in one step has the outcome of one that writes
them in place, with the same paths, fault and tree, just when its checks fail or it gets to no file that is
cramped or would be left empty. And it is the run through unfinished files, if names can be had for those. -/
theorem writeAll_stepwise_eq_direct_iff (text : String) (mode : OverwriteMode) (validate : Json)
    {on off : Json} (one_step : on.truthy = true) (in_place : off.truthy = false) {tree : Tree}
    (unlinked : ∀ place target, tree.node? place ≠ some (.link target)) {files : List OutputFile}
    (ordinary : ∀ file ∈ files, OrdinaryPath file.path) :
    let stepwise : Writer := ⟨.ofText text, .stated ⟨mode, validate, on⟩⟩
    let direct : Writer := ⟨.ofText text, .stated ⟨mode, validate, off⟩⟩
    (stepwise.writeAll tree files = direct.writeAll tree files ↔
      (direct.checkAll tree files = .ok () → ∀ file last,
        direct.Reaches ⟨mode, validate, off⟩ tree files file last →
          ¬ Cramps last (direct.routeOf file) ∧ ¬ Spoils last (direct.routeOf file) file.content)) ∧
    ∀ owns, stepwise.Provides owns ⟨mode, validate, on⟩ tree files →
      stepwise.writeAllTrying owns tree files = stepwise.writeAll tree files := by
  intro stepwise direct
  have moving : (Route.ofText text).Moving := Route.moving_ofText text
  have checks : stepwise.checkAll tree files = direct.checkAll tree files := rfl
  constructor
  · cases checked : direct.checkAll tree files with
    | error fault =>
        rw [writeAll_of_checkAll_error checked, writeAll_of_checkAll_error (checks.trans checked)]
        simp
    | ok passed =>
        have same : stepwise.commitAll ⟨mode, validate, on⟩ tree files =
            direct.commitAll ⟨mode, validate, on⟩ tree files := commitAll_eq_of_directory stepwise direct rfl ..
        rw [writeAll_of_checkAll_ok rfl checked, writeAll_of_checkAll_ok rfl (checks.trans checked), same,
          commitAll_stepwise_iff one_step in_place unlinked moving ordinary]
        simp
  · intro owns provides
    have trying : ∀ policy, stepwise.output.effective = .ok policy →
        stepwise.Provides owns policy tree files := by
      rintro policy ⟨⟩
      exact provides
    exact writeAllTrying_eq moving trying

/-- Two files below a directory that is spelled with a step to the parent, one of them over a file that stands
there. -/
theorem writeAll_stepwise_eq_direct_two :
    let stepwise : Writer := ⟨.ofText "/x/../out", .stated ⟨.overwrite, .bool true, .bool true⟩⟩
    let direct : Writer := ⟨.ofText "/x/../out", .stated ⟨.overwrite, .bool true, .bool false⟩⟩
    let tree : Tree := ⟨[(["out"], .directory), (["out", "a.ts"], .file "old")]⟩
    let files : List OutputFile := [⟨"a.ts", "register("⟩, ⟨"b/c.ts", "register("⟩]
    stepwise.writeAll tree files = direct.writeAll tree files ∧
      (direct.writeAll tree files).written.map (·.text) = ["/x/../out/a.ts", "/x/../out/b/c.ts"] ∧
      stepwise.writeAllTrying (fun _ => ["aaaaaaaa"]) tree [⟨"a.ts", "register("⟩] =
        stepwise.writeAll tree [⟨"a.ts", "register("⟩] := by
  intro stepwise direct tree files
  have unlinked : tree.Unlinked := by
    apply (sound_of_entries _ _).unlinked
    · simp [tree]
    · simp [tree, node?]
  have roomy : ∀ file ∈ files, ¬ (direct.routeOf file).Cramped := by decide +kernel
  have encodable : ∀ file ∈ files, file.content.unencodable? = none := by decide
  have free : (tree.makeDirectories (stepwise.routeOf ⟨"a.ts", "register("⟩).parent).1.locate .taken
      ((stepwise.routeOf ⟨"a.ts", "register("⟩).unfinished "aaaaaaaa") =
        .ok (["out", ".a.ts.aaaaaaaa.tmp"], none) := by
    decide +kernel
  have on : (Json.bool true).truthy = true := rfl
  have off : (Json.bool false).truthy = false := rfl
  refine ⟨?_, by decide +kernel, ?_⟩
  · apply (writeAll_stepwise_eq_direct_iff "/x/../out" .overwrite (.bool true) on off unlinked
      (by decide +kernel)).1.mpr
    intro _ file last reached
    exact ⟨fun cramps => roomy file reached.mem cramps.2,
      fun spoils => spoils.unencodable (encodable file reached.mem)⟩
  · apply (writeAll_stepwise_eq_direct_iff "/x/../out" .overwrite (.bool true) on off unlinked
      (by decide +kernel)).2
    rintro file last (_ | ⟨-, ⟨⟩⟩)
    refine ⟨by decide, by decide, "aaaaaaaa", by simp, ?_⟩
    intro place node taken
    rw [free] at taken
    cases taken

/-- A name of 245 bytes can be written in place, but the name of its unfinished file is too long. -/
theorem writeAll_stepwise_refuses_cramped :
    let name := String.ofList (List.replicate 242 'b') ++ ".ts"
    let stepwise : Writer := ⟨.ofText "/out", .stated ⟨.refuse, .bool false, .bool true⟩⟩
    let direct : Writer := ⟨.ofText "/out", .stated ⟨.refuse, .bool false, .bool false⟩⟩
    OrdinaryPath name ∧
      (stepwise.writeAll ⟨[]⟩ [⟨name, "register("⟩]).fault = some (.files .nameTooLong) ∧
      (direct.writeAll ⟨[]⟩ [⟨name, "register("⟩]).fault = none := by
  intro name stepwise direct
  have letters : ∀ c ∈ name.toList, c ≠ '/' ∧ c ≠ '\x00' := by
    intro c member
    rw [String.toList_append, String.toList_ofList, List.mem_append] at member
    rcases member with letter | ending
    · rw [List.eq_of_mem_replicate letter]
      decide
    · revert c
      decide
  have size : name.utf8ByteSize = 245 := by decide +kernel
  have plain : PlainName name := by
    refine ⟨?_, ?_, ?_⟩ <;>
      · intro short
        rw [short] at size
        exact absurd size (by decide)
  clear_value name
  have overlong : Overlong name :=
    { plain
      unbroken := fun member => (letters _ member).1 rfl
      named := fun member => (letters _ member).2 rfl
      short := by simp [size, greatestName]
      long := by simp [size, greatestName, unfinishedExcess] }
  refine ⟨?_, overlong.writeAll _⟩
  intro other member
  rw [segments_of_not_mem overlong.unbroken, List.map_singleton, String.ofList_toList] at member
  exact List.mem_singleton.mp member ▸ plain

end Writer

end Registrar
