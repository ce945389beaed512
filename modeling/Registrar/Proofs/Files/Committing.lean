import Registrar.Proofs.Files.Checking
import Registrar.Proofs.Files.Growth

/-!
# Writing files one after the other

A file is committed when the directories on its way are made and it is put at the place where its route
leads. Files are committed in their order up to the first that cannot be. Of that one there may be directories,
and it is left empty if it was opened in place and its content cannot be encoded. After files were committed,
each place to which one of them leads holds what is written of the last that does, and all other places are as
before, but for directories.

## Implementation notes

Where a route leads is always asked of the tree before the first file, so nothing has to be known of the
trees in between. A file that was emptied counts as committed, with the empty text that is written of it.
-/

namespace Registrar

/-- How the last step of a route is taken when a file is put at its end. -/
def OutputPolicy.ending (policy : OutputPolicy) : Files.Tree.Ending :=
  if policy.atomic.truthy then .taken else .written

namespace Writer

open Files Files.Tree

section Place

variable {policy : OutputPolicy} {tree after : Tree} {route : Route} {content : String}

/-- Put a file where something was found, unless that is a directory. -/
def putFound (tree : Tree) (content : String) : Except Trouble (Place × Option Node) → Except Trouble Tree
  | .ok (_, some .directory) => .error .isDirectory
  | .ok (place, _) => .ok (tree.set place (.file content))
  | .error trouble => .error trouble

theorem writeInPlace_eq_putFound (tree : Tree) (route : Route) (content : String) :
    tree.writeInPlace route content = putFound tree content (tree.locate .written route) := rfl

theorem putAt_eq_putFound (tree : Tree) (route : Route) (content : String) :
    tree.putAt route content =
      if route.parts.getLast?.getD ".." = ".." then .error .busy
      else putFound tree content (tree.locate .taken route) := rfl

theorem putFound_eq_ok {found : Except Trouble (Place × Option Node)}
    (put : putFound tree content found = .ok after) :
    ∃ goal node, found = .ok (goal, node) ∧ node ≠ some .directory ∧
      after = tree.set goal (.file content) := by
  cases found with
  | error trouble => cases put
  | ok found =>
      obtain ⟨goal, node⟩ := found
      cases node with
      | none => exact ⟨goal, none, rfl, by simp, (Except.ok.inj put).symm⟩
      | some node =>
          cases node with
          | directory => cases put
          | file earlier => exact ⟨goal, _, rfl, by simp, (Except.ok.inj put).symm⟩
          | link target => exact ⟨goal, _, rfl, by simp, (Except.ok.inj put).symm⟩

theorem replaceFile_eq_ok_iff {content : Text} :
    tree.replaceFile route content = .ok after ↔
      content.unencodable? = none ∧ tree.checkBeside route = .ok () ∧
        tree.putAt route content.written = .ok after := by
  rw [replaceFile, check_bind_eq_ok_iff, bind_eq_ok_iff]
  simp only [encoded_eq_ok_iff]
  constructor
  · rintro ⟨beside, text, rfl, put⟩
    exact ⟨rfl, beside, put⟩
  · rintro ⟨encodable, beside, put⟩
    exact ⟨beside, _, Text.eq_written_of_unencodable? encodable, put⟩

/-- A file is put where its route leads, unless that is a directory. -/
theorem place_eq_none (placed : place policy tree route content = (after, none)) :
    ∃ goal node, tree.locate policy.ending route = .ok (goal, node) ∧ node ≠ some .directory ∧
      after = tree.set goal (.file content) := by
  rw [place] at placed
  rw [OutputPolicy.ending]
  by_cases atomic : policy.atomic.truthy = true
  · rw [if_pos atomic] at placed ⊢
    cases replaced : tree.replaceFile route content with
    | error trouble => simp [replaced] at placed
    | ok done =>
        obtain rfl : done = after := by simpa [replaced] using placed
        have put := (replaceFile_eq_ok_iff.mp replaced).2.2
        rw [putAt_eq_putFound] at put
        split at put
        · cases put
        · exact putFound_eq_ok put
  · rw [if_neg atomic] at placed ⊢
    cases written : tree.writeInPlace route content with
    | error trouble => simp [writeText, Text.written, written] at placed
    | ok done =>
        obtain rfl : done = after := by simpa [writeText, Text.written, Text.unencodable?, written] using placed
        exact putFound_eq_ok written

/-- What is written can be encoded. -/
theorem eq_written_of_place {content : Text} (placed : place policy tree route content = (after, none)) :
    content = content.written := by
  apply Text.eq_written_of_unencodable?
  rw [place] at placed
  split at placed
  · cases replaced : tree.replaceFile route content with
    | error trouble => simp [replaced] at placed
    | ok done => exact (replaceFile_eq_ok_iff.mp replaced).1
  · rw [writeText] at placed
    split at placed
    · obtain ⟨-, none⟩ := Prod.mk.inj placed
      exact Option.map_eq_none_iff.mp none
    · cases placed

/-- A file that cannot be put in place leaves the tree as it was, or it was emptied. -/
theorem place_eq_some {content : Text} {trouble : Trouble}
    (failed : place policy tree route content = (after, some trouble)) :
    (policy.empties trouble = false ∧ after = tree) ∨
      (policy.empties trouble = true ∧ place policy tree route content.written = (after, none)) := by
  rw [place] at failed
  rw [OutputPolicy.empties, place]
  by_cases atomic : policy.atomic.truthy = true
  · rw [if_pos atomic] at failed
    left
    refine ⟨by simp [atomic], ?_⟩
    split at failed
    · cases failed
    · exact (Prod.mk.inj failed).1.symm
  · rw [if_neg atomic] at failed ⊢
    rw [Bool.not_eq_true] at atomic
    have other := encodesNothing_writeInPlace tree route content.written
    rw [writeText] at failed
    split at failed
    · rename_i done written
      right
      obtain ⟨rfl, refused⟩ := Prod.mk.inj failed
      obtain ⟨cause, -, rfl⟩ := Option.map_eq_some_iff.mp refused
      refine ⟨by simp [atomic, Trouble.isEncoding], ?_⟩
      simp [writeText, Text.written, Text.unencodable?] at written ⊢
      rw [written]
    · rename_i refused
      left
      obtain ⟨rfl, same⟩ := Prod.mk.inj failed
      obtain rfl := Option.some.inj same
      exact ⟨by simp [other _ refused], rfl⟩

/-- A file that is committed is placed after all directories on its way were made. -/
theorem commit_eq_none {content : Text} (done : commit policy tree route content = (after, none)) :
    (tree.makeDirectories route.parent).2 = .ok () ∧
      place policy (tree.makeDirectories route.parent).1 route content = (after, none) := by
  rw [commit] at done
  split at done
  · cases done
  · rename_i made ended
    rw [ended]
    exact ⟨rfl, done⟩

/-- What is committed can be encoded. -/
theorem eq_written_of_commit {content : Text} (done : (commit policy tree route content).2 = none) :
    content = content.written :=
  eq_written_of_place (commit_eq_none (Prod.ext rfl done)).2

/-- Of a file that cannot be committed there are only directories, or it was emptied. -/
theorem commit_eq_some {content : Text} {trouble : Trouble}
    (failed : commit policy tree route content = (after, some trouble)) :
    (policy.empties trouble = false ∧ after = (tree.makeDirectories route.parent).1) ∨
      (policy.empties trouble = true ∧ commit policy tree route content.written = (after, none)) := by
  rw [commit] at failed
  rw [commit]
  have other := encodesNothing_makeDirectories tree route.parent
  split at failed
  · rename_i made trouble ended
    obtain ⟨rfl, same⟩ := Prod.mk.inj failed
    obtain rfl := Option.some.inj same
    rw [ended] at other ⊢
    exact .inl ⟨by simp [OutputPolicy.empties, other _ rfl], rfl⟩
  · rename_i made ended
    rw [ended]
    exact place_eq_some failed

/-- Only a content that cannot be encoded leaves a file empty, and only if it is written in place. -/
theorem unencodable_of_empties {content : Text} {trouble : Trouble}
    (failed : commit policy tree route content = (after, some trouble))
    (empties : policy.empties trouble = true) :
    policy.atomic.truthy = false ∧ content.unencodable? ≠ none := by
  obtain ⟨direct, encoding⟩ : policy.atomic.truthy = false ∧ trouble.isEncoding = true := by
    simpa [OutputPolicy.empties] using empties
  refine ⟨direct, fun encodable => ?_⟩
  rw [commit] at failed
  split at failed
  · rename_i made other ended
    have harmless := encodesNothing_makeDirectories tree route.parent other (congrArg Prod.snd ended)
    obtain rfl := Option.some.inj (Prod.mk.inj failed).2
    rw [harmless] at encoding
    cases encoding
  · rename_i made ended
    have harmless := encodesNothing_writeInPlace made route content.written
    rw [place, if_neg (by simp [direct]), writeText] at failed
    split at failed
    · rw [encodable] at failed
      cases failed
    · rename_i other refused
      obtain rfl := Option.some.inj (Prod.mk.inj failed).2
      rw [harmless _ refused] at encoding
      cases encoding

end Place

/-- What is to be known of a tree in which a file was put at a place, past links. -/
structure Puts (ending : Ending) (tree : Tree) (route : Route) (content : String) (links : List Place)
    (goal : Place) (after : Tree) : Prop where
  leads : tree.Leads ending [] route.parts links goal
  covers : ending.Covers (tree.node? goal)
  becomes : tree.Becomes ending after
  there : after.node? goal = some (.file content)
  elsewhere : ∀ place, place ≠ goal → after.node? place = tree.node? place ∨
    tree.node? place = none ∧ after.node? place = some .directory
  readable : ∀ later, after.Becomes ending later →
    (∀ passed ∈ links, later.node? passed = tree.node? passed) →
      ∀ other, later.node? goal = some (.file other) → later.content? route = some other

section Puts

variable {ending : Ending} {tree made after : Tree} {route : Route} {goal : Place}
  {content : String}

/-- A file that was found where its route leads can be read there later, if the links on the way stand. -/
theorem content?_later {later : Tree} {found : Option Node} {links : List Place}
    (located : tree.locate ending route = .ok (goal, found)) (other : found ≠ some .directory)
    (leads : tree.Leads ending [] route.parts links goal)
    (directories : ∀ place, tree.node? place = some .directory → later.node? place = some .directory)
    (same : ∀ passed ∈ links, later.node? passed = tree.node? passed)
    (stands : later.node? goal = some (.file content)) : later.content? route = some content := by
  rw [locate] at located
  split at located
  · cases located
  split at located
  · cases located
  rename_i named short
  rw [content?, locate, if_neg named, if_neg short,
    leads.followLinks_later directories same stands (by simp) other located]

/-- Making directories and putting a file where the route leads then is all that is done. -/
theorem puts_of_grows (grows : tree.Grows made) {found : Option Node}
    (located : made.locate ending route = .ok (goal, found)) (other : found ≠ some .directory)
    (content : String) :
    ∃ links, Puts ending tree route content links goal (made.set goal (.file content)) := by
  obtain ⟨⟨links, leads⟩, stands, covers⟩ := reached_of_locate located other
  dsimp only at leads stands covers
  rw [stands] at covers
  have becomes := becomes_set covers content
  have inside := ne_nil_of_covers covers
  refine ⟨links, leads.before (grows.becomes ending), (grows.becomes ending).covers covers,
    (grows.becomes ending).trans becomes, node?_set_self inside .., ?_, ?_⟩
  · intro place distinct
    rw [node?_set_ne distinct]
    exact grows.node? place
  · intro later onward same content stands
    apply content?_later located other leads
    · intro place directory
      exact onward.directory (becomes.directory directory)
    · intro passed member
      obtain ⟨target, link⟩ := leads.link_of_mem member
      rw [same passed member, (grows.becomes ending).link link, link]
    · exact stands

theorem puts_of_commit {policy : OutputPolicy} (done : commit policy tree route content = (after, none)) :
    ∃ links goal, Puts policy.ending tree route content links goal after := by
  obtain ⟨goal, found, located, other, rfl⟩ := place_eq_none (commit_eq_none done).2
  obtain ⟨links, puts⟩ := puts_of_grows (grows_makeDirectories tree route.parent) located other content
  exact ⟨links, goal, puts⟩

/-- A file that is committed, or cannot be, changes the tree as files that are put do. -/
theorem becomes_commit (policy : OutputPolicy) (tree : Tree) (route : Route) (content : Text) :
    tree.Becomes policy.ending (commit policy tree route content).1 := by
  cases committed : commit policy tree route content with
  | mk after trouble =>
      cases trouble with
      | none =>
          rw [eq_written_of_commit (congrArg Prod.snd committed)] at committed
          obtain ⟨_, _, puts⟩ := puts_of_commit committed
          exact puts.becomes
      | some trouble =>
          rcases commit_eq_some committed with ⟨-, rfl⟩ | ⟨-, emptied⟩
          · exact (grows_makeDirectories tree route.parent).becomes policy.ending
          · obtain ⟨_, _, puts⟩ := puts_of_commit emptied
            exact puts.becomes

end Puts

/-- Files are committed in their order, as far as they can be encoded. -/
inductive Commits (writer : Writer) (policy : OutputPolicy) :
    Tree → List OutputFile → Tree → Prop
  | nil (tree : Tree) : Commits writer policy tree [] tree
  | cons {tree after last : Tree} {file : OutputFile} {rest : List OutputFile}
      (first : commit policy tree (writer.routeOf file) file.content.written = (after, none))
      (onward : Commits writer policy after rest last) :
      Commits writer policy tree (file :: rest) last

/-- Where the route of a file leads. -/
def LeadsTo (writer : Writer) (policy : OutputPolicy) (tree : Tree) (file : OutputFile)
    (goal : Place) : Prop :=
  ∃ links, tree.Leads policy.ending [] (writer.routeOf file).parts links goal

/-- The last of some files that leads to a place. -/
def LastTo (writer : Writer) (policy : OutputPolicy) (tree : Tree) (files : List OutputFile)
    (goal : Place) (file : OutputFile) : Prop :=
  ∃ earlier later, files = earlier ++ file :: later ∧ writer.LeadsTo policy tree file goal ∧
    ∀ other ∈ later, ¬ writer.LeadsTo policy tree other goal

section Commits

variable {writer : Writer} {policy : OutputPolicy} {tree after last : Tree} {file : OutputFile}
  {files done rest : List OutputFile} {goal place : Place}

theorem LeadsTo.unique {other : Place} (leads : writer.LeadsTo policy tree file goal)
    (again : writer.LeadsTo policy tree file other) : goal = other := by
  obtain ⟨_, way⟩ := leads
  obtain ⟨_, path⟩ := again
  exact (way.unique path).2

theorem LeadsTo.before (leads : writer.LeadsTo policy after file goal)
    (becomes : tree.Becomes policy.ending after) : writer.LeadsTo policy tree file goal := by
  obtain ⟨links, way⟩ := leads
  exact ⟨links, way.before becomes⟩

theorem LastTo.mem (last : writer.LastTo policy tree files goal file) : file ∈ files := by
  obtain ⟨earlier, later, rfl, -⟩ := last
  simp

theorem LastTo.leadsTo (last : writer.LastTo policy tree files goal file) :
    writer.LeadsTo policy tree file goal := by
  obtain ⟨_, _, _, leads, _⟩ := last
  exact leads

/-- If files lead to a place, there is a last one. -/
theorem exists_lastTo (some_file : ∃ file ∈ files, writer.LeadsTo policy tree file goal) :
    ∃ file, writer.LastTo policy tree files goal file := by
  induction files with
  | nil => simp at some_file
  | cons first rest ih =>
      by_cases later : ∃ file ∈ rest, writer.LeadsTo policy tree file goal
      · obtain ⟨file, earlier, behind, rfl, leads, none_behind⟩ := ih later
        exact ⟨file, first :: earlier, behind, rfl, leads, none_behind⟩
      · obtain ⟨file, member, leads⟩ := some_file
        rcases List.mem_cons.mp member with rfl | inside
        · exact ⟨file, [], rest, rfl, leads, fun other member leads => later ⟨other, member, leads⟩⟩
        · exact absurd ⟨file, inside, leads⟩ later

theorem Commits.concat (commits : writer.Commits policy tree done last)
    (next : commit policy last (writer.routeOf file) file.content.written = (after, none)) :
    writer.Commits policy tree (done ++ [file]) after := by
  induction commits with
  | nil => exact .cons next (.nil after)
  | cons first _ ih => exact .cons first (ih next)

theorem Commits.becomes (commits : writer.Commits policy tree done last) :
    tree.Becomes policy.ending last := by
  induction commits with
  | nil => exact .refl _ _
  | cons first _ ih =>
      obtain ⟨_, _, puts⟩ := puts_of_commit first
      exact puts.becomes.trans ih

/-- Each file that is committed leads to a place that can be covered. -/
theorem Commits.exists_goal (commits : writer.Commits policy tree done last) (member : file ∈ done) :
    ∃ goal, writer.LeadsTo policy tree file goal ∧ policy.ending.Covers (tree.node? goal) := by
  induction commits with
  | nil => simp at member
  | cons first _ ih =>
      obtain ⟨links, goal, puts⟩ := puts_of_commit first
      rcases List.mem_cons.mp member with rfl | later
      · exact ⟨goal, ⟨links, puts.leads⟩, puts.covers⟩
      · obtain ⟨other, leads, covers⟩ := ih later
        exact ⟨other, leads.before puts.becomes, puts.becomes.covers covers⟩

/-- Files that are committed later lead to the same places before and after a file. -/
theorem Commits.leadsTo_iff (commits : writer.Commits policy after rest last)
    (becomes : tree.Becomes policy.ending after) (member : file ∈ rest) :
    writer.LeadsTo policy after file goal ↔ writer.LeadsTo policy tree file goal := by
  refine ⟨fun leads => leads.before becomes, fun leads => ?_⟩
  obtain ⟨other, later, -⟩ := commits.exists_goal member
  rwa [leads.unique (later.before becomes)]

/-- A place to which no file leads is as before, but for a directory. -/
theorem Commits.node?_of_none (commits : writer.Commits policy tree done last)
    (none_leads : ∀ file ∈ done, ¬ writer.LeadsTo policy tree file place) :
    last.node? place = tree.node? place ∨
      tree.node? place = none ∧ last.node? place = some .directory := by
  induction commits with
  | nil => exact .inl rfl
  | @cons tree after last file rest first onward ih =>
      obtain ⟨links, goal, puts⟩ := puts_of_commit first
      have distinct : place ≠ goal := by
        rintro rfl
        exact none_leads file List.mem_cons_self ⟨links, puts.leads⟩
      have later := ih fun other member leads =>
        none_leads other (List.mem_cons_of_mem _ member) (leads.before puts.becomes)
      rcases puts.elsewhere place distinct with same | ⟨missing, made⟩
      · rwa [same] at later
      · right
        refine ⟨missing, ?_⟩
        rcases later with kept | ⟨gone, -⟩
        · rw [kept, made]
        · rw [made] at gone
          cases gone

/-- A place to which files lead holds what is written of the last of them. -/
theorem Commits.node?_of_lastTo (commits : writer.Commits policy tree done last)
    (final : writer.LastTo policy tree done goal file) :
    last.node? goal = some (.file file.content.written) := by
  induction commits with
  | nil => exact absurd final.mem (by simp)
  | @cons tree after last first rest committed onward ih =>
      obtain ⟨links, place, puts⟩ := puts_of_commit committed
      obtain ⟨earlier, later, split, leads, none_later⟩ := final
      cases earlier with
      | nil =>
          obtain ⟨rfl, rfl⟩ := List.cons.inj split
          obtain rfl : goal = place := leads.unique ⟨links, puts.leads⟩
          have kept := onward.node?_of_none fun other member again =>
            none_later other member (again.before puts.becomes)
          rw [puts.there] at kept
          simpa using kept
      | cons _ earlier =>
          obtain ⟨rfl, rfl⟩ := List.cons.inj split
          apply ih
          have same {other : OutputFile} (member : other ∈ earlier ++ file :: later) :
              writer.LeadsTo policy after other goal ↔ writer.LeadsTo policy tree other goal :=
            onward.leadsTo_iff puts.becomes member
          refine ⟨earlier, later, rfl, (same (by simp)).mpr leads, ?_⟩
          intro other member again
          exact none_later other member ((same (by simp [member])).mp again)

end Commits

section Runs

variable {writer : Writer} {policy : OutputPolicy} {tree last : Tree} {file : OutputFile}
  {done : List OutputFile}

/-- A run goes on behind files that are committed as if it had begun there. -/
theorem Commits.commitAll_append (commits : writer.Commits policy tree done last)
    (encodable : ∀ file ∈ done, file.content = file.content.written) (rest : List OutputFile) :
    writer.commitAll policy tree (done ++ rest) =
      { writer.commitAll policy last rest with
        written := done.map writer.routeOf ++ (writer.commitAll policy last rest).written } := by
  induction commits with
  | nil => rfl
  | cons first _ ih =>
      obtain ⟨here, later⟩ := List.forall_mem_cons.mp encodable
      rw [← here] at first
      rw [List.cons_append, commitAll]
      simp only [first, ih later, List.map_cons, List.cons_append]

/-- A run commits all files, or those before the first that cannot be committed. -/
theorem commitAll_cases (writer : Writer) (policy : OutputPolicy) (tree : Tree)
    (files : List OutputFile) :
    (∃ last, writer.Commits policy tree files last ∧
      (∀ file ∈ files, file.content = file.content.written) ∧
      writer.commitAll policy tree files = ⟨last, files.map writer.routeOf, none⟩) ∨
    ∃ done file rest last after trouble, files = done ++ file :: rest ∧
      writer.Commits policy tree done last ∧
      (∀ file ∈ done, file.content = file.content.written) ∧
      commit policy last (writer.routeOf file) file.content = (after, some trouble) ∧
      writer.commitAll policy tree files =
        ⟨after, done.map writer.routeOf, some (.files trouble)⟩ := by
  induction files generalizing tree with
  | nil => exact .inl ⟨tree, .nil tree, by simp, rfl⟩
  | cons file more ih =>
      cases committed : commit policy tree (writer.routeOf file) file.content with
      | mk after trouble =>
          cases trouble with
          | none =>
              have encodable := eq_written_of_place (commit_eq_none committed).2
              have first := committed
              rw [encodable] at first
              rcases ih after with ⟨last, commits, others, outcome⟩ |
                ⟨done, blocked, rest, last, final, trouble, rfl, commits, others, failed, outcome⟩
              · refine .inl ⟨last, .cons first commits, List.forall_mem_cons.mpr ⟨encodable, others⟩, ?_⟩
                simp [commitAll, committed, outcome]
              · refine .inr ⟨file :: done, blocked, rest, last, final, trouble, rfl,
                  .cons first commits, List.forall_mem_cons.mpr ⟨encodable, others⟩, failed, ?_⟩
                simp [commitAll, committed, outcome]
          | some trouble =>
              refine .inr ⟨[], file, more, tree, after, trouble, rfl, .nil tree, by simp, committed, ?_⟩
              simp [commitAll, committed]

/-- A run leaves the tree that is there when the files that it has opened are committed, but for
directories. -/
theorem exists_commits_commitAll (writer : Writer) (policy : OutputPolicy) (tree : Tree)
    (files : List OutputFile) :
    ∃ last, writer.Commits policy tree
        (files.take ((writer.commitAll policy tree files).opened policy)) last ∧
      last.Grows (writer.commitAll policy tree files).tree := by
  rcases commitAll_cases writer policy tree files with ⟨last, commits, -, outcome⟩ |
    ⟨done, file, rest, last, after, trouble, rfl, commits, -, stopped, outcome⟩
  · rw [outcome]
    refine ⟨last, ?_, .refl last⟩
    simpa [WriteOutcome.opened, WriteOutcome.emptied] using commits
  · rw [outcome]
    rcases commit_eq_some stopped with ⟨kept, rfl⟩ | ⟨emptied, opened⟩
    · refine ⟨last, ?_, grows_makeDirectories last _⟩
      simpa [WriteOutcome.opened, WriteOutcome.emptied, kept] using commits
    · refine ⟨after, ?_, .refl after⟩
      have more := commits.concat opened
      have front : (done ++ file :: rest).take (done.length + 1) = done ++ [file] := by
        rw [List.take_length_add_append, List.take_succ_cons, List.take_zero]
      simpa [WriteOutcome.opened, WriteOutcome.emptied, emptied, front] using more

/-- A file that passes its check is committed when it is written alone. -/
theorem write_eq_commit (effective : writer.output.effective = .ok policy)
    (passed : writer.check tree file = .ok ()) :
    (writer.write tree file).tree = (commit policy tree (writer.routeOf file) file.content).1 ∧
      (writer.write tree file).fault =
        (commit policy tree (writer.routeOf file) file.content).2.map .files := by
  have checked : writer.checkAll tree [file] = .ok () :=
    checkAll_eq_ok_iff.mpr ⟨by simp, by simpa using passed⟩
  rw [write, writeAll_of_checkAll_ok effective checked, commitAll]
  cases commit policy tree (writer.routeOf file) file.content with
  | mk after trouble =>
      cases trouble with
      | none => simp [commitAll]
      | some trouble => simp

end Runs

end Writer

end Registrar
