import Registrar.Proofs.CommandLine.Confinement
import Registrar.Proofs.CommandLine.Options
import Registrar.Proofs.Files.Rewriting

/-!
# Running the command again

In a tree without links, a run that ends well can be run again and finds all its files at their routes. If it
is told to overwrite, it puts each file in the place of itself, and if it refuses to, it writes none. Either
way the tree stays as the first run left it.

## Implementation notes

The second run reads its settings and its document from the tree that the first run left. That it reads the
same needs that none of the files that were written is one of them.
-/

namespace Registrar

theorem Settings.overwriting_of_stated {settings : Settings} {policy : OutputPolicy}
    (stated : settings.output = .stated policy) :
    settings.overwriting =
      .ok { settings with output := .stated { policy with mode := .overwrite } } := by
  rw [Settings.overwriting, stated]

/-- To be told to overwrite once more changes nothing. -/
theorem Settings.overwriting_again {settings forced : Settings} (told : settings.overwriting = .ok forced) :
    forced.overwriting = .ok forced := by
  rw [Settings.overwriting] at told
  split at told
  · cases told
    rfl
  · cases told

section Output

variable (settings : Settings) (output : OutputSetting)

theorem Settings.checkDependenciesFrom_output (definition : Definition) (seen : List (String × String))
    (dependencies : List Dependency) :
    ({ settings with output } : Settings).checkDependenciesFrom definition seen dependencies =
      settings.checkDependenciesFrom definition seen dependencies := by
  induction dependencies generalizing seen with
  | nil => rfl
  | cons dependency rest ih =>
      rw [checkDependenciesFrom, checkDependenciesFrom, ih]
      rfl

theorem Settings.checkPathsFrom_output (seen : List (String × String)) (definitions : List Definition) :
    ({ settings with output } : Settings).checkPathsFrom seen definitions =
      settings.checkPathsFrom seen definitions := by
  induction definitions generalizing seen with
  | nil => rfl
  | cons definition rest ih =>
      rw [checkPathsFrom, checkPathsFrom, ih]
      rfl

/-- What is generated does not depend on how it is written. -/
theorem Settings.generate_output (definitions : List Definition) :
    ({ settings with output } : Settings).generate definitions = settings.generate definitions := by
  have modules : ({ settings with output } : Settings).moduleOf = settings.moduleOf := by
    funext definition
    simp only [moduleOf, checkDependencies, checkDependenciesFrom_output]
    rfl
  have files : ({ settings with output } : Settings).fileOf = settings.fileOf := by
    funext definition
    simp only [fileOf, modules]
  rw [generate, generate, files, checkPaths, checkPathsFrom_output]
  rfl

end Output

namespace CommandLine

open Files Files.Tree

/-- Settings whose output section, if they have one, is an object. -/
def SectionsOutput (stated : Json) : Prop :=
  ∀ fields output, stated = .obj fields → Json.field? "output" fields = some output →
    ∃ inner, output = .obj inner

theorem SectionsOutput.setGiven {key : String} {given : Option Json} {stated changed : Json}
    (sections : SectionsOutput stated) (other : "output" ≠ key)
    (set : setGiven key given stated = .ok changed) : SectionsOutput changed := by
  rcases setGiven_cases set with rfl | ⟨fields, value, rfl, rfl⟩
  · exact sections
  · rintro _ output ⟨⟩ found
    rw [Json.field?_setField_ne other] at found
    exact sections fields output rfl found

/-- Settings whose output section is an object have a policy. -/
theorem SectionsOutput.exists_policy {stated : Json} {settings : Settings}
    (sections : SectionsOutput stated) (read : Settings.read stated = .ok settings) :
    ∃ policy, settings.output = .stated policy := by
  cases stated with
  | obj fields =>
      have given := Settings.outputGiven_of_read read
      cases found : Json.field? "output" fields with
      | none =>
          rw [found] at given
          exact ⟨_, (Except.ok.inj given).symm⟩
      | some output =>
          obtain ⟨inner, rfl⟩ := sections fields output rfl found
          rw [found] at given
          obtain ⟨mode, -, same⟩ := Settings.readOutput_obj_eq_ok_iff.mp given
          exact ⟨_, same⟩
  | _ => cases read

/-- The settings of a run that is told to overwrite are those of the run that is not, changed to do so. -/
theorem settingsOf_turnOn {options : Options} {stated : Json} {settings : Settings}
    (understood : settingsOf options stated = .ok settings) :
    settingsOf (options.turnOn .force) stated = settings.overwriting := by
  obtain ⟨read, found, kept⟩ := bind_eq_ok_iff.mp understood
  have told : settingsOf (options.turnOn .force) stated = read.overwriting := by
    rw [settingsOf, found]
    rfl
  rw [told]
  split at kept
  · rw [kept, Settings.overwriting_again kept]
  · rw [pure_eq_ok_iff.mp kept]

theorem exists_policy_of_settingsOf {options : Options} {stated : Json} {settings : Settings}
    (sections : SectionsOutput stated) (understood : settingsOf options stated = .ok settings) :
    ∃ policy, settings.output = .stated policy := by
  obtain ⟨read, found, kept⟩ := bind_eq_ok_iff.mp understood
  obtain ⟨policy, same⟩ := sections.exists_policy found
  split at kept
  · rw [Settings.overwriting_of_stated same] at kept
    cases kept
    exact ⟨_, rfl⟩
  · rw [← pure_eq_ok_iff.mp kept]
    exact ⟨policy, same⟩

theorem readJson_eq_ok_iff {standIns : StandIns} {tree : Tree} {route : Route} {value : Json} :
    readJson standIns tree route = .ok value ↔
      ∃ content, tree.content? route = some content ∧
        Json.readWith standIns.character? content = some value := by
  rw [readJson, content?]
  cases tree.locate .followed route with
  | error trouble => simp
  | ok found =>
      obtain ⟨place, _ | node⟩ := found
      · simp
      · cases node with
        | file content => cases read : Json.readWith standIns.character? content <;> simp [read]
        | directory => simp
        | link target => simp

namespace Plan

variable {tree : Tree} {current : Route} {arguments : List String}

/-- The arguments that name what a run reads: its settings, if they are in a file, and its document. -/
def sources (plan : Plan tree current arguments) : List String :=
  plan.invocation.options.config.toList ++ [plan.invocation.path]

theorem sources_eq (plan : Plan tree current arguments) :
    plan.invocation.sources current = plan.sources.map (resolve current) := rfl

theorem path_mem_sources (plan : Plan tree current arguments) : plan.invocation.path ∈ plan.sources :=
  List.mem_append_right _ (List.mem_singleton_self _)

theorem config_mem_sources (plan : Plan tree current arguments) {path : String}
    (named : plan.invocation.options.config = some path) : path ∈ plan.sources :=
  List.mem_append_left _ (Option.mem_toList.mpr named)

/-- A run spares what it reads when it writes no file in the place of its settings or its document. -/
def SparesSources (plan : Plan tree current arguments) : Prop :=
  ∀ source ∈ plan.sources, ∀ file ∈ plan.files,
    (plan.writer.routeOf file).parts ≠ (resolve current source).parts

/-- The settings of a run have an output section that is an object, or none. -/
def SectionsOutput (plan : Plan tree current arguments) : Prop :=
  ∀ config, fileSettings plan.standIns tree current plan.invocation.options = .ok config →
    CommandLine.SectionsOutput config

theorem exists_policy (plan : Plan tree current arguments) (sections : plan.SectionsOutput) :
    ∃ policy, plan.settings.output = .stated policy :=
  exists_policy_of_settingsOf
    (settingsJson_induction CommandLine.SectionsOutput.setGiven sections plan.configured) plan.understood

/-- All that a run reads can be read. -/
theorem exists_readJson (plan : Plan tree current arguments) {source : String}
    (member : source ∈ plan.sources) :
    ∃ value, readJson plan.standIns tree (resolve current source) = .ok value := by
  rcases List.mem_append.mp member with config | document
  · have configured := plan.configured
    rw [settingsJson_eq, fileSettings, Option.mem_toList.mp config] at configured
    obtain ⟨value, found, -⟩ := bind_eq_ok_iff.mp configured
    exact ⟨value, found⟩
  · rw [List.mem_singleton.mp document]
    exact ⟨plan.document, plan.loaded⟩

/-- A run can be told to overwrite wherever an option may be given. -/
theorem exists_forced {before rest : List String} {policy : OutputPolicy}
    (plan : Plan tree current (before ++ rest)) (taken : takesOption .none before = true)
    (stated : plan.settings.output = .stated policy) :
    ∃ other : Plan tree current (before ++ "--force" :: rest),
      other.writer = ⟨plan.writer.directory, .stated { policy with mode := .overwrite }⟩ ∧
        other.files = plan.files := by
  have understood := settingsOf_turnOn plan.understood
  rw [Settings.overwriting_of_stated stated] at understood
  have named : ("force", Switch.force) ∈ switchNames := by decide
  have other : Switch.force ≠ .help := by decide
  refine ⟨⟨_, plan.stated, plan.document, _, plan.definitions, plan.generated,
    read_insert named other taken plan.asked, plan.configured, plan.loaded, understood, plan.extracted, ?_⟩,
    rfl, rfl⟩
  rw [Settings.generate_output]
  exact plan.made

end Plan

section After

variable {tree : Tree} {directory : String} {arguments : List String} {policy : OutputPolicy}
  {source : String} (plan : Plan tree (.ofText directory) arguments)
  (effective : plan.writer.output.effective = .ok policy)
  (complete : (plan.writer.writeAll tree plan.files).fault = none) (unlinked : tree.Unlinked)

include effective complete

/-- The files of a run that ends well have places of their own. -/
theorem Plan.nodup_parts : (plan.files.map fun file => (plan.writer.routeOf file).parts).Nodup := by
  obtain ⟨checked, -⟩ := Writer.exists_commits effective complete
  exact Writer.nodup_parts_routeOf plan.exists_id (Writer.checkAll_eq_ok_iff.mp checked).1

include unlinked

/-- What a run reads and spares has the same content afterwards. -/
theorem Plan.content?_later (spares : plan.SparesSources) (member : source ∈ plan.sources) :
    (plan.writer.writeAll tree plan.files).tree.content? (resolve (.ofText directory) source) =
      tree.content? (resolve (.ofText directory) source) := by
  obtain ⟨value, read⟩ := plan.exists_readJson member
  obtain ⟨content, found, -⟩ := readJson_eq_ok_iff.mp read
  obtain ⟨-, commits⟩ := Writer.exists_commits effective complete
  rw [found]
  exact commits.content?_of_other unlinked (fun file among => (plan.plain_routeOf file among).1)
    (resolve_plain directory source) found (spares source member)

/-- The characters that stand in for surrogates are the same afterwards. -/
theorem Plan.standIns_later (spares : plan.SparesSources) :
    plan.invocation.standIns (plan.writer.writeAll tree plan.files).tree (.ofText directory) =
      plan.standIns := by
  rw [Plan.standIns, Invocation.standIns, Invocation.standIns, plan.sources_eq]
  congr 1
  apply List.filterMap_congr
  intro route among
  obtain ⟨source, member, rfl⟩ := List.mem_map.mp among
  exact plan.content?_later effective complete unlinked spares member

/-- What a run reads and spares holds the same value afterwards. -/
theorem Plan.readJson_later (spares : plan.SparesSources) (member : source ∈ plan.sources) {value : Json}
    (read : readJson plan.standIns tree (resolve (.ofText directory) source) = .ok value) :
    readJson plan.standIns (plan.writer.writeAll tree plan.files).tree (resolve (.ofText directory) source) =
      .ok value := by
  rw [readJson_eq_ok_iff] at read ⊢
  rwa [plan.content?_later effective complete unlinked spares member]

/-- What a run reads and spares can be named again. -/
theorem Plan.checkInput_later (spares : plan.SparesSources) (member : source ∈ plan.sources)
    (passed : checkInput tree (.ofText directory) source = .ok ()) :
    checkInput (plan.writer.writeAll tree plan.files).tree (.ofText directory) source = .ok () := by
  obtain ⟨value, read⟩ := plan.exists_readJson member
  have again := plan.readJson_later effective complete unlinked spares member read
  obtain ⟨content, found, -⟩ := readJson_eq_ok_iff.mp again
  rw [checkInput] at passed ⊢
  split at passed
  · cases passed
  · rename_i named
    rw [if_neg named, Writer.exists?_of_content? found]

/-- The output of a run that has written files is a directory, so it can be named again. -/
theorem Plan.checkOutput_later (nonempty : plan.files ≠ [])
    (passed : checkOutput tree (.ofText directory) plan.invocation.output = .ok ()) :
    checkOutput (plan.writer.writeAll tree plan.files).tree (.ofText directory) plan.invocation.output =
      .ok () := by
  obtain ⟨file, member⟩ := List.exists_mem_of_ne_nil plan.files nonempty
  obtain ⟨-, commits⟩ := Writer.exists_commits effective complete
  have linkless := commits.unlinked unlinked
  obtain ⟨_, -, read⟩ := Writer.readsBack_of_complete effective complete unlinked plan.plain_routeOf
    (plan.nodup_parts effective complete) file member
  have plain := (plan.plain_routeOf file member).1
  obtain ⟨id, path⟩ := plan.exists_id file member
  rw [Writer.routeOf_eq path, List.append_assoc] at read plain
  have located := locate_of_content? linkless plain read .followed
  have front := locate_front linkless plain (List.cons_ne_nil _ _) located .followed
  rw [checkOutput] at passed ⊢
  split at passed
  · cases passed
  · rename_i named
    have free : isFile (plan.writer.writeAll tree plan.files).tree
        (resolve (.ofText directory) plan.invocation.output) = false := by
      have route : resolve (.ofText directory) plan.invocation.output =
          ⟨plan.writer.directory.root, plan.writer.directory.parts⟩ := rfl
      rw [isFile, content?, route, front]
      rfl
    rw [if_neg named, free]
    rfl

/-- The command line of a run can be read again. -/
theorem Plan.read_later (nonempty : plan.files ≠ []) (spares : plan.SparesSources) :
    Invocation.read (plan.writer.writeAll tree plan.files).tree (.ofText directory) arguments =
      .ok plan.invocation := by
  obtain ⟨found, unasked, valid, input, place⟩ := read_eq_ok_iff.mp plan.asked
  refine read_eq_ok_iff.mpr ⟨found, unasked, fun setting member => ?_, ?_, ?_⟩
  · have passed := valid setting member
    cases setting with
    | language => exact passed
    | config =>
        rw [Options.check] at passed ⊢
        cases named : plan.invocation.options.config with
        | none => rfl
        | some path =>
            rw [named] at passed
            exact plan.checkInput_later effective complete unlinked spares
              (plan.config_mem_sources named) passed
  · exact plan.checkInput_later effective complete unlinked spares plan.path_mem_sources input
  · exact plan.checkOutput_later effective complete unlinked nonempty place

/-- The settings of a run can be read again. -/
theorem Plan.settingsJson_later (spares : plan.SparesSources) :
    settingsJson plan.standIns (plan.writer.writeAll tree plan.files).tree (.ofText directory)
      plan.invocation.options = .ok plan.stated := by
  have configured := plan.configured
  rw [← Plan.standIns] at configured
  rw [settingsJson_eq, bind_eq_ok_iff] at configured ⊢
  obtain ⟨value, read, changed⟩ := configured
  refine ⟨value, ?_, changed⟩
  rw [fileSettings] at read ⊢
  cases named : plan.invocation.options.config with
  | none =>
      rw [named] at read
      exact read
  | some path =>
      rw [named] at read
      exact plan.readJson_later effective complete unlinked spares (plan.config_mem_sources named) read

/-- A run that has written files and spared what it read comes to the same plan again. -/
theorem Plan.exists_again (nonempty : plan.files ≠ []) (spares : plan.SparesSources) :
    ∃ other : Plan (plan.writer.writeAll tree plan.files).tree (.ofText directory) arguments,
      other.writer = plan.writer ∧ other.files = plan.files := by
  have asked := plan.read_later effective complete unlinked nonempty spares
  have configured := plan.settingsJson_later effective complete unlinked spares
  have loaded := plan.readJson_later effective complete unlinked spares plan.path_mem_sources plan.loaded
  have standIns := plan.standIns_later effective complete unlinked spares
  rw [← standIns] at configured loaded
  exact ⟨⟨plan.invocation, plan.stated, plan.document, plan.settings, plan.definitions, plan.generated,
    asked, configured, loaded, plan.understood, plan.extracted, plan.made⟩, rfl,
    congrArg (fun standIns => plan.generated.map (restoredFile standIns)) standIns⟩

end After

/-- In a tree without links, let a run end well, not only with the help, and write files, none of them in the
place of its settings or its document, and let the output section of its settings, if there is one, be an
object. Run again and told to overwrite, wherever among its arguments this is said, it ends well. Run again as
it was, it fails if it refuses to overwrite. Both leave the tree as the first run left it. -/
theorem run_again (tree : Tree) (directory : String) (arguments : List String)
    (unlinked : ∀ place target, tree.node? place ≠ some (.link target))
    (finished : (run tree (.ofText directory) arguments).ending.exitCode = 0) :
    (((run tree (.ofText directory) arguments).ending = .helped ∧
        (run tree (.ofText directory) arguments).tree = tree) ∨
      Nonempty (Plan tree (.ofText directory) arguments)) ∧
      ∀ plan : Plan tree (.ofText directory) arguments,
        plan.files ≠ [] → plan.SectionsOutput → plan.SparesSources →
          let after := (run tree (.ofText directory) arguments).tree
          (∀ before rest, arguments = before ++ rest → takesOption .none before = true →
            let forced := run after (.ofText directory) (before ++ "--force" :: rest)
            forced.ending.exitCode = 0 ∧ forced.tree = after) ∧
          (RefusesToOverwrite tree (.ofText directory) arguments →
            let unchanged := run after (.ofText directory) arguments
            unchanged.ending.exitCode = 1 ∧ unchanged.tree = after) := by
  refine ⟨helped_or_nonempty_of_exitCode finished, ?_⟩
  intro plan nonempty sections spares after
  obtain ⟨left, ending⟩ := plan.run_eq
  have complete := ending.mp finished
  obtain ⟨policy, stated⟩ := plan.exists_policy sections
  have effective : plan.writer.output.effective = .ok policy := by
    rw [Plan.writer, stated]
    rfl
  have distinct := plan.nodup_parts effective complete
  have replanned := plan.exists_again effective complete unlinked nonempty spares
  rw [← left] at replanned
  obtain ⟨again, writer, files⟩ := replanned
  constructor
  · rintro before rest rfl taken
    obtain ⟨forced, overwriting, same⟩ :=
      again.exists_forced taken ((congrArg Writer.output writer).trans stated)
    have rewritten := Writer.writeAll_again effective complete unlinked plan.plain_routeOf distinct
    rw [← left, ← writer, ← files, ← overwriting, ← same] at rewritten
    obtain ⟨result, good⟩ := forced.run_eq
    rw [rewritten] at result good
    exact ⟨good.mpr rfl, result⟩
  · intro refuses
    have refused := Writer.writeAll_refused effective complete unlinked plan.plain_routeOf distinct nonempty
      (refuses plan policy effective)
    rw [← left, ← writer, ← files] at refused
    exact ⟨again.exitCode_of_fault refused.1, again.run_eq.1.trans refused.2⟩

theorem run_again_small :
    let after := (run smallTree (.ofText "/") ["s.json", "out"]).tree
    after.node? ["out", "_schemas", "A.ts"] ≠ none ∧
      (run after (.ofText "/") ["s.json", "out", "--force"]).ending.exitCode = 0 ∧
      (run after (.ofText "/") ["s.json", "out", "--force"]).tree = after ∧
      (run after (.ofText "/") ["s.json", "out"]).ending.exitCode = 1 ∧
      (run after (.ofText "/") ["s.json", "out"]).tree = after := by
  intro after
  have unlinked : smallTree.Unlinked := by
    apply (Tree.sound_of_entries _ _).unlinked
    · simp [smallTree]
    · simp [smallTree, Tree.node?]
  have written : after.node? ["out", "_schemas", "A.ts"] ≠ none := run_small.2
  have asked : Invocation.read smallTree (.ofText "/") ["s.json", "out"] =
      .ok ⟨.none, "s.json", "out"⟩ := rfl
  obtain ⟨planned, repeated⟩ := run_again smallTree "/" ["s.json", "out"] unlinked run_small.1
  obtain ⟨plan⟩ := planned.resolve_left fun idle => run_small_tree_ne idle.2
  have invocation := Except.ok.inj (plan.asked.symm.trans asked)
  have nonempty : plan.files ≠ [] := by
    intro missing
    have left := plan.run_eq.1
    rw [missing, Writer.writeAll_nil] at left
    exact run_small_tree_ne left
  have sections : plan.SectionsOutput := by
    rintro config found fields output rfl stated
    rw [invocation, fileSettings] at found
    cases found
    cases stated
  have spares : plan.SparesSources := by
    intro source member file among same
    rw [Plan.sources, invocation] at member
    obtain rfl := List.mem_singleton.mp member
    obtain ⟨id, parts⟩ := plan.exists_parts file among
    have short : (resolve (.ofText "/") "s.json").parts = ["s.json"] := by decide
    have lengths := congrArg List.length same
    rw [parts, short, List.length_append] at lengths
    simp at lengths
  obtain ⟨forced, unchanged⟩ := repeated plan nonempty sections spares
  have careful := refusesToOverwrite_of_no_config asked rfl rfl
  have again := forced ["s.json", "out"] [] rfl (by decide)
  exact ⟨written, again.1, again.2, (unchanged careful).1, (unchanged careful).2⟩

end CommandLine

end Registrar
