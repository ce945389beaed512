import Registrar.Proofs.Files.Unfinished

/-!
# Names for unfinished files

The name of an unfinished file has a part of its own, and one such part after the other is tried until nothing
stands under the name. A writer that goes this way for each file writes as one that puts each file in place in
one step, as long as a name can be had. If a file cannot be written, nothing is lost and nothing but
directories is new, whatever names are tried and whatever links there are, unless the file was opened in place
for a content that cannot be encoded.

## Implementation notes

Which parts are tried, and in what order, is given for each file, so that what is proved holds for every
choice.
-/

namespace Registrar

namespace Files

/-- A route without steps that stay in place, as texts spell them. -/
def Route.Moving (route : Route) : Prop :=
  ∀ name ∈ route.parts, name ≠ "" ∧ name ≠ "."

theorem Route.moving_ofText (text : String) : (Route.ofText text).Moving :=
  fun _ => ne_of_mem_namesIn

theorem Route.Moving.append {route next : Route} (moving : route.Moving) (onward : next.Moving) :
    (route.append next).Moving := by
  intro name member
  rw [Route.append] at member
  split at member
  · exact (List.mem_append.mp member).elim (moving name) (onward name)
  · exact onward name member

namespace Tree

/-- Write a file through an unfinished one under the first of some names under which nothing stands. -/
def replaceTrying (tree : Tree) (route : Route) (content : Text) :
    List String → Tree × Except Trouble Unit
  | [] => (tree, .error (.inTheWay route.text))
  | own :: others =>
      match tree.locate .taken (route.unfinished own) with
      | .ok (_, some _) => tree.replaceTrying route content others
      | _ => tree.replaceThrough own route content

/-- What has to be known of the names that are tried: their own parts have eight bytes, none of them null, and
nothing stands under one of them. -/
structure Usable (tree : Tree) (route : Route) (owns : List String) : Prop where
  eight : ∀ own ∈ owns, own.utf8ByteSize = 8
  named : ∀ own ∈ owns, '\x00' ∉ own.toList
  free : ∃ own ∈ owns, ∀ place node, tree.locate .taken (route.unfinished own) ≠ .ok (place, some node)

/-- Nothing is lost, and nothing but directories is new. -/
structure GainsDirectories (before after : Tree) : Prop where
  kept : ∀ place node, before.node? place = some node → after.node? place = some node
  gained : ∀ place, before.node? place = none →
    after.node? place = none ∨ after.node? place = some .directory

variable {tree after : Tree} {route : Route} {content : Text} {owns : List String}

theorem Grows.gainsDirectories (grows : tree.Grows after) : tree.GainsDirectories after where
  kept place node stands := by
    rw [grows.node?_of_ne_none (by simp [stands]), stands]
  gained place free := by
    rcases grows.node? place with same | ⟨-, made⟩
    · exact .inl (same.trans free)
    · exact .inr made

/-- A file that cannot be written through an unfinished one leaves the tree as it was. -/
theorem replaceThrough_eq_error {own : String} {trouble : Trouble}
    (failed : tree.replaceThrough own route content = (after, .error trouble)) : after = tree := by
  rw [replaceThrough_eq_endOf] at failed
  cases made : tree.makeFile (route.unfinished own) content.written with
  | error other =>
      rw [made] at failed
      exact (Prod.mk.inj failed).1.symm
  | ok result =>
      obtain ⟨middle, place⟩ := result
      rw [made] at failed
      rw [makeFile] at made
      split at made
      · cases made
      · rename_i goal located
        obtain ⟨rfl, rfl⟩ := Prod.mk.inj (Except.ok.inj made)
        have free : tree.node? goal = none := (reached_of_locate located (by simp)).2.1.symm
        dsimp only at failed
        rw [set_remove (ne_nil_of_free free) free] at failed
        generalize encoded content >>= (fun _ => _) = renamed at failed
        cases renamed with
        | error other => exact (Prod.mk.inj failed).1.symm
        | ok done => cases failed
      · cases made

theorem replaceTrying_eq_error {trouble : Trouble}
    (failed : tree.replaceTrying route content owns = (after, .error trouble)) : after = tree := by
  induction owns with
  | nil => exact (Prod.mk.inj failed).1.symm
  | cons own others ih =>
      rw [replaceTrying] at failed
      split at failed
      · exact ih failed
      · exact replaceThrough_eq_error failed

/-- If a name can be had, a file is written through an unfinished one as in one step. -/
theorem replaceTrying_eq (grounded : tree.Grounded route) (usable : tree.Usable route owns)
    (content : Text) :
    tree.replaceTrying route content owns = endOf tree (tree.replaceFile route content) := by
  induction owns with
  | nil =>
      obtain ⟨own, member, -⟩ := usable.free
      cases member
  | cons own others ih =>
      obtain ⟨eight, later⟩ := List.forall_mem_cons.mp usable.eight
      obtain ⟨named, named_later⟩ := List.forall_mem_cons.mp usable.named
      rw [replaceTrying]
      split
      · rename_i place node taken
        apply ih
        refine ⟨later, named_later, ?_⟩
        obtain ⟨free, member, vacant⟩ := usable.free
        rcases List.mem_cons.mp member with rfl | behind
        · exact absurd taken (vacant place node)
        · exact ⟨free, behind, vacant⟩
      · rename_i vacant
        exact replaceThrough_eq grounded ⟨eight, named, vacant⟩ content

end Tree

end Files

namespace Writer

open Files Files.Tree

/-- Put the content of a file at its route, through an unfinished file or in place. -/
def placeTrying (owns : List String) (policy : OutputPolicy) (tree : Tree) (route : Route)
    (content : Text) : Tree × Option Trouble :=
  if policy.atomic.truthy then
    match tree.replaceTrying route content owns with
    | (after, .ok ()) => (after, none)
    | (after, .error trouble) => (after, some trouble)
  else tree.writeText route content

/-- Write one file that was checked, trying names for the unfinished file. -/
def commitTrying (owns : List String) (policy : OutputPolicy) (tree : Tree) (route : Route)
    (content : Text) : Tree × Option Trouble :=
  match tree.makeDirectories route.parent with
  | (made, .error trouble) => (made, some trouble)
  | (made, .ok ()) => placeTrying owns policy made route content

/-- Write files that were checked one after the other by steps, up to the first that cannot be written. -/
def commitAllBy (writer : Writer) (step : Tree → OutputFile → Tree × Option Trouble) :
    Tree → List OutputFile → WriteOutcome
  | tree, [] => ⟨tree, [], none⟩
  | tree, file :: rest =>
      match step tree file with
      | (after, some trouble) => ⟨after, [], some (.files trouble)⟩
      | (after, none) =>
          let outcome := writer.commitAllBy step after rest
          { outcome with written := writer.routeOf file :: outcome.written }

/-- Write all files by steps, after checking all of them. -/
def writeAllBy (writer : Writer) (step : OutputPolicy → Tree → OutputFile → Tree × Option Trouble)
    (tree : Tree) (files : List OutputFile) : WriteOutcome :=
  match writer.checkAll tree files, writer.output.effective with
  | .error fault, _ => ⟨tree, [], some fault⟩
  | .ok (), .error fault => ⟨tree, [], if files = [] then none else some fault⟩
  | .ok (), .ok policy => writer.commitAllBy (step policy) tree files

/-- Write all files, trying names for the unfinished file of each. -/
def writeAllTrying (writer : Writer) (owns : OutputFile → List String) : Tree → List OutputFile →
    WriteOutcome :=
  writer.writeAllBy fun policy tree file =>
    commitTrying (owns file) policy tree (writer.routeOf file) file.content

/-- Write one file, trying names for the unfinished one. -/
def writeTrying (writer : Writer) (owns : List String) (tree : Tree) (file : OutputFile) : WriteOutcome :=
  writer.writeAllTrying (fun _ => owns) tree [file]

section One

variable {writer : Writer} {policy : OutputPolicy} {tree after : Tree} {route : Route} {content : Text}
  {file : OutputFile} {owns : List String}

/-- In place no name is tried. -/
theorem commitTrying_of_direct (direct : policy.atomic.truthy = false) (owns : List String) (tree : Tree)
    (route : Route) (content : Text) :
    commitTrying owns policy tree route content = commit policy tree route content := by
  rw [commitTrying, commit]
  cases tree.makeDirectories route.parent with
  | mk made result =>
      cases result with
      | error trouble => rfl
      | ok done => simp only [placeTrying, place, direct, Bool.false_eq_true, if_false]

/-- Of a file that cannot be committed there are only directories, whatever names are tried, or it was
emptied. -/
theorem commitTrying_eq_some {trouble : Trouble}
    (failed : commitTrying owns policy tree route content = (after, some trouble)) :
    (policy.empties trouble = false ∧ after = (tree.makeDirectories route.parent).1) ∨
      (policy.empties trouble = true ∧ commit policy tree route content = (after, some trouble)) := by
  cases atomic : policy.atomic.truthy with
  | false =>
      rw [commitTrying_of_direct atomic] at failed
      rcases commit_eq_some failed with kept | ⟨emptied, -⟩
      · exact .inl kept
      · exact .inr ⟨emptied, failed⟩
  | true =>
      refine .inl ⟨by simp [OutputPolicy.empties, atomic], ?_⟩
      rw [commitTrying] at failed
      split at failed
      · rename_i made other ended
        rw [ended]
        exact (Prod.mk.inj failed).1.symm
      · rename_i made ended
        rw [ended]
        rw [placeTrying, if_pos atomic] at failed
        split at failed
        · cases failed
        · rename_i last other replaced
          obtain ⟨rfl, -⟩ := Prod.mk.inj failed
          exact replaceTrying_eq_error replaced

/-- If a name can be had, a file is committed as in one step. -/
theorem commitTrying_eq (policy : OutputPolicy) (content : Text)
    (moving : route.Moving) (usable : (tree.makeDirectories route.parent).1.Usable route owns) :
    commitTrying owns policy tree route content = commit policy tree route content := by
  cases atomic : policy.atomic.truthy with
  | false => exact commitTrying_of_direct atomic owns tree route content
  | true =>
      rw [commitTrying, commit]
      cases ended : tree.makeDirectories route.parent with
      | mk made result =>
          cases result with
          | error trouble => rfl
          | ok done =>
              rw [ended] at usable
              have grounded := grounded_of_isDirectory (isDirectory_of_makeDirectories ended)
                fun name last => moving name (List.mem_of_getLast? last)
              dsimp only
              rw [placeTrying, place, if_pos atomic, if_pos atomic, replaceTrying_eq grounded usable content]
              cases made.replaceFile route content <;> rfl

/-- A file that is committed has only added directories if it stood at its place before as it does now. -/
theorem gainsDirectories_of_commit_iff {content : String}
    (committed : commit policy tree route content = (after, none)) :
    ∃ links goal, tree.Leads policy.ending [] route.parts links goal ∧
      (tree.GainsDirectories after ↔ tree.node? goal = some (.file content)) := by
  obtain ⟨links, goal, puts⟩ := puts_of_commit committed
  refine ⟨links, goal, puts.leads, ?_⟩
  have there := puts.there
  constructor
  · rintro ⟨kept, gained⟩
    cases stands : tree.node? goal with
    | none =>
        have new := gained goal stands
        rw [there] at new
        simp at new
    | some node => rw [← kept goal node stands, there]
  · intro same
    refine ⟨fun place node stands => ?_, fun place free => ?_⟩
    · by_cases here : place = goal
      · rw [here] at stands ⊢
        rw [there, ← same, stands]
      · rcases puts.elsewhere place here with left | ⟨missing, -⟩
        · rw [left, stands]
        · rw [stands] at missing
          cases missing
    · have apart : place ≠ goal := by
        rintro rfl
        rw [free] at same
        cases same
      rcases puts.elsewhere place apart with left | ⟨-, made⟩
      · exact .inl (left.trans free)
      · exact .inr made

/-- A file that was opened in place for a content that cannot be encoded, and that was no empty file before. -/
def Spills (writer : Writer) (tree : Tree) (file : OutputFile) (outcome : WriteOutcome) : Prop :=
  ∃ policy, writer.output.effective = .ok policy ∧ outcome.emptied policy = true ∧
    ∃ goal, writer.LeadsTo policy tree file goal ∧ tree.node? goal ≠ some (.file "")

/-- A file that cannot be committed has lost something, or left something but directories, just when it was
emptied and was no empty file before. -/
theorem gainsDirectories_of_stopped_iff {trouble : Trouble}
    (stopped : (policy.empties trouble = false ∧
        after = (tree.makeDirectories (writer.routeOf file).parent).1) ∨
      (policy.empties trouble = true ∧
        commit policy tree (writer.routeOf file) file.content = (after, some trouble))) :
    tree.GainsDirectories after ↔ ¬ (policy.empties trouble = true ∧
      ∃ goal, writer.LeadsTo policy tree file goal ∧ tree.node? goal ≠ some (.file "")) := by
  rcases stopped with ⟨kept, rfl⟩ | ⟨emptied, stopped⟩
  · simp only [kept, Bool.false_eq_true, false_and, not_false_iff, iff_true]
    exact (grows_makeDirectories tree _).gainsDirectories
  · have empty := Text.written_of_unencodable? (unencodable_of_empties stopped emptied).2
    rcases commit_eq_some stopped with ⟨kept, -⟩ | ⟨-, opened⟩
    · rw [kept] at emptied
      cases emptied
    · rw [empty] at opened
      obtain ⟨links, goal, leads, gains⟩ := gainsDirectories_of_commit_iff opened
      rw [gains]
      constructor
      · rintro same ⟨-, other, aimed, different⟩
        obtain rfl : goal = other := LeadsTo.unique ⟨links, leads⟩ aimed
        exact different same
      · intro held
        by_contra different
        exact held ⟨emptied, goal, ⟨links, leads⟩, different⟩

end One

section All

variable {writer : Writer} {policy : OutputPolicy} {tree after last : Tree} {file : OutputFile}
  {files : List OutputFile} {owns : OutputFile → List String}
  {step : Tree → OutputFile → Tree × Option Trouble}

/-- A run gets as far as a file, and to a tree in which it is to be committed: those before it are written. -/
inductive Reaches (writer : Writer) (policy : OutputPolicy) :
    Tree → List OutputFile → OutputFile → Tree → Prop
  | here (tree : Tree) (file : OutputFile) (rest : List OutputFile) :
      Reaches writer policy tree (file :: rest) file tree
  | later {tree after last : Tree} {file other : OutputFile} {rest : List OutputFile}
      (first : commit policy tree (writer.routeOf file) file.content = (after, none))
      (onward : Reaches writer policy after rest other last) :
      Reaches writer policy tree (file :: rest) other last

theorem Reaches.mem (reached : writer.Reaches policy tree files file last) : file ∈ files := by
  induction reached with
  | here => exact List.mem_cons_self
  | later _ _ ih => exact List.mem_cons_of_mem _ ih

/-- For each file a run gets to, names are tried of which one can be had. -/
def Provides (writer : Writer) (owns : OutputFile → List String) (policy : OutputPolicy) (tree : Tree)
    (files : List OutputFile) : Prop :=
  ∀ file last, writer.Reaches policy tree files file last →
    (last.makeDirectories (writer.routeOf file).parent).1.Usable (writer.routeOf file) (owns file)

/-- Steps that commit each file a run gets to make the run. -/
theorem commitAllBy_eq (same : ∀ file last, writer.Reaches policy tree files file last →
      step last file = commit policy last (writer.routeOf file) file.content) :
    writer.commitAllBy step tree files = writer.commitAll policy tree files := by
  induction files generalizing tree with
  | nil => rfl
  | cons file rest ih =>
      rw [commitAllBy, commitAll, same file tree (.here tree file rest)]
      cases committed : commit policy tree (writer.routeOf file) file.content with
      | mk after trouble =>
          cases trouble with
          | some trouble => rfl
          | none =>
              have onward := ih fun other last reached => same other last (.later committed reached)
              simp only [onward]

theorem writeAllBy_eq {step : OutputPolicy → Tree → OutputFile → Tree × Option Trouble}
    (same : ∀ policy, writer.output.effective = .ok policy → ∀ file last,
      writer.Reaches policy tree files file last →
        step policy last file = commit policy last (writer.routeOf file) file.content) :
    writer.writeAllBy step tree files = writer.writeAll tree files := by
  rw [writeAllBy, writeAll]
  cases writer.checkAll tree files with
  | error fault => rfl
  | ok passed =>
      cases effective : writer.output.effective with
      | error fault => rfl
      | ok policy => exact commitAllBy_eq (same policy effective)

/-- If names can be had, a run writes as one that puts each file in place in one step. -/
theorem writeAllTrying_eq (moving : writer.directory.Moving)
    (provides : ∀ policy, writer.output.effective = .ok policy → writer.Provides owns policy tree files) :
    writer.writeAllTrying owns tree files = writer.writeAll tree files := by
  apply writeAllBy_eq
  intro policy effective file last reached
  exact commitTrying_eq policy file.content (moving.append (Route.moving_ofText file.path))
    (provides policy effective file last reached)

/-- If each step that fails leaves nothing but directories behind unless it empties a file, so does a run with
one file. -/
theorem writeAllBy_failed_iff {step : OutputPolicy → Tree → OutputFile → Tree × Option Trouble}
    (stopped : ∀ policy after trouble, step policy tree file = (after, some trouble) →
      (policy.empties trouble = false ∧ after = (tree.makeDirectories (writer.routeOf file).parent).1) ∨
        (policy.empties trouble = true ∧
          commit policy tree (writer.routeOf file) file.content = (after, some trouble)))
    (failed : (writer.writeAllBy step tree [file]).fault ≠ none) :
    tree.GainsDirectories (writer.writeAllBy step tree [file]).tree ↔
      ¬ writer.Spills tree file (writer.writeAllBy step tree [file]) := by
  have unchanged : tree.GainsDirectories tree := (Grows.refl tree).gainsDirectories
  rw [writeAllBy] at failed ⊢
  cases checked : writer.checkAll tree [file] with
  | error fault =>
      refine iff_of_true unchanged ?_
      rintro ⟨policy, -, emptied, -⟩
      have kept := (opened_of_checkAll_error policy checked).1
      rw [writeAll_of_checkAll_error checked] at kept
      rw [kept] at emptied
      cases emptied
  | ok passed =>
      rw [checked] at failed
      cases effective : writer.output.effective with
      | error fault =>
          refine iff_of_true unchanged ?_
          rintro ⟨policy, known, -⟩
          rw [effective] at known
          cases known
      | ok policy =>
          rw [effective] at failed
          simp only [commitAllBy] at failed ⊢
          cases committed : step policy tree file with
          | mk after trouble =>
              cases trouble with
              | none => simp [committed] at failed
              | some trouble =>
                  rw [gainsDirectories_of_stopped_iff (stopped policy after trouble committed)]
                  simp [Spills, effective, WriteOutcome.emptied]

/-- Only a content that cannot be encoded spills, and only if it is written in place. -/
theorem unencodable_of_emptied (effective : writer.output.effective = .ok policy)
    (emptied : (writer.write tree file).emptied policy = true) :
    policy.atomic.truthy = false ∧ file.content.unencodable? ≠ none := by
  cases checked : writer.checkAll tree [file] with
  | error fault =>
      rw [write, (opened_of_checkAll_error policy checked).1] at emptied
      cases emptied
  | ok passed =>
      obtain ⟨-, fault⟩ := write_eq_commit effective ((checkAll_eq_ok_iff.mp checked).2 file (by simp))
      rw [WriteOutcome.emptied, fault] at emptied
      cases committed : commit policy tree (writer.routeOf file) file.content with
      | mk after trouble =>
          rw [committed] at emptied
          cases trouble with
          | none => cases emptied
          | some trouble => exact unencodable_of_empties committed emptied

end All

/-- A file that cannot be written, for whatever reason and at whatever step, loses nothing and leaves nothing
new but directories, whatever links there are, unless it spills, for which its content must be one that cannot
be encoded and be written in place. This is so for a file that is put in place in one step, and also for one
that is written through an unfinished file, whatever names are tried for that. If a name can be had, both come
to the same. -/
theorem write_failed_gains_directories_iff (writer : Writer) (tree : Tree) (file : OutputFile) :
    let route := writer.routeOf file
    let outcome := writer.write tree file
    (outcome.fault ≠ none → (tree.GainsDirectories outcome.tree ↔ ¬ writer.Spills tree file outcome)) ∧
    (writer.Spills tree file outcome → file.content.unencodable? ≠ none ∧
      ∃ policy, writer.output.effective = .ok policy ∧ policy.atomic.truthy = false) ∧
    ∀ owns : List String,
      let through := writer.writeTrying owns tree file
      (through.fault ≠ none → (tree.GainsDirectories through.tree ↔ ¬ writer.Spills tree file through)) ∧
      (writer.directory.Moving → (tree.makeDirectories route.parent).1.Usable route owns →
        through = outcome) := by
  intro route outcome
  have stepwise : outcome = writer.writeAllBy
      (fun policy tree file => commit policy tree (writer.routeOf file) file.content) tree [file] :=
    (writeAllBy_eq fun _ _ _ _ _ => rfl).symm
  refine ⟨?_, ?_, ?_⟩
  · rw [stepwise]
    apply writeAllBy_failed_iff
    intro policy after trouble stopped
    rcases commit_eq_some stopped with kept | ⟨emptied, -⟩
    · exact .inl kept
    · exact .inr ⟨emptied, stopped⟩
  · rintro ⟨policy, effective, emptied, -⟩
    obtain ⟨direct, unencodable⟩ := unencodable_of_emptied effective emptied
    exact ⟨unencodable, policy, effective, direct⟩
  · intro owns through
    constructor
    · exact writeAllBy_failed_iff fun policy after trouble stopped => commitTrying_eq_some stopped
    · intro moving usable
      apply writeAllTrying_eq moving
      rintro policy effective other last (_ | ⟨_, ⟨⟩⟩)
      exact usable

/-- A directory in the place of a file below a link: one directory has been made on the way, and that is all,
also if the first name that is tried for the unfinished file is taken. -/
theorem write_failed_gains_directories_below_link :
    let writer : Writer := ⟨⟨"/", ["out"]⟩, .stated ⟨.overwrite, .bool true, .bool true⟩⟩
    let tree : Tree := ⟨[(["real"], .directory), (["real", "A.ts"], .directory), (["out"], .link "real"),
      (["real", ".A.ts.aaaaaaaa.tmp"], .file "kept")]⟩
    let file : OutputFile := ⟨"new/../A.ts", "register("⟩
    let outcome := writer.write tree file
    let through := writer.writeTrying ["aaaaaaaa", "bbbbbbbb"] tree file
    outcome.fault ≠ none ∧ tree.GainsDirectories outcome.tree ∧
      outcome.tree.node? ["real", "new"] = some .directory ∧ tree.node? ["real", "new"] = none ∧
      through.fault ≠ none ∧ tree.GainsDirectories through.tree ∧ through = outcome := by
  intro writer tree file outcome through
  have failed : outcome.fault ≠ none := by decide +kernel
  have through_failed : through.fault ≠ none := by decide +kernel
  obtain ⟨kept, spilled, tried⟩ := write_failed_gains_directories_iff writer tree file
  have dry : ¬ writer.Spills tree file outcome := fun spills => (spilled spills).1 rfl
  obtain ⟨through_kept, same⟩ := tried ["aaaaaaaa", "bbbbbbbb"]
  have free : (tree.makeDirectories (writer.routeOf file).parent).1.locate .taken
      ((writer.routeOf file).unfinished "bbbbbbbb") = .ok (["real", ".A.ts.bbbbbbbb.tmp"], none) := by
    decide +kernel
  have agree : through = outcome := by
    apply same
    · simp [writer, Route.Moving]
    · refine ⟨by decide, by decide, "bbbbbbbb", by simp, fun place node taken => ?_⟩
      rw [free] at taken
      cases taken
  have dry_through : ¬ writer.Spills tree file through := by
    rw [agree]
    exact dry
  exact ⟨failed, (kept failed).mpr dry, by decide +kernel, by decide +kernel, through_failed,
    (through_kept through_failed).mpr dry_through, agree⟩

/-- A file that stands is left empty if it is written in place with a content that cannot be encoded, and is kept
if it is written in one step. -/
theorem write_failed_empties_file :
    let tree : Tree := ⟨[(["out"], .directory), (["out", "A.ts"], .file "old")]⟩
    let file : OutputFile := ⟨"A.ts", ⟨"register(", [(⟨0xD800, by decide⟩, "")]⟩⟩
    let direct := write ⟨⟨"/", ["out"]⟩, .stated ⟨.overwrite, .bool true, .bool false⟩⟩ tree file
    let stepwise := write ⟨⟨"/", ["out"]⟩, .stated ⟨.overwrite, .bool true, .bool true⟩⟩ tree file
    direct.fault ≠ none ∧ direct.tree.node? ["out", "A.ts"] = some (.file "") ∧
      ¬ tree.GainsDirectories direct.tree ∧
      stepwise.fault = direct.fault ∧ stepwise.tree.node? ["out", "A.ts"] = some (.file "old") := by
  refine ⟨by decide +kernel, by decide +kernel, fun gains => ?_, by decide +kernel, by decide +kernel⟩
  exact absurd (gains.kept ["out", "A.ts"] (.file "old") (by decide +kernel)) (by decide +kernel)

end Writer

end Registrar
