import Registrar.Proofs.CommandLine.Plan
import Registrar.Proofs.Files.AllOrNothing
import Registrar.Proofs.Generation.Checks
import Registrar.Proofs.Json.Reading
import Registrar.Proofs.Json.StandIns
import Registrar.Proofs.Settings.Reading

/-!
# Runs that write all files or none

A run that refuses to overwrite and ends well has written one file for each definition of its document and
has left everything else as it was. If it fails the tree is as before, unless the run breaks off: the
first name that it needs fits and a later one is too long.
-/

namespace Registrar

namespace CommandLine

open Files

/-- A run refuses to overwrite if its policy, when it comes to have one, does. -/
def RefusesToOverwrite (tree : Tree) (current : Route) (arguments : List String) : Prop :=
  ∀ (plan : Plan tree current arguments) (policy : OutputPolicy),
    plan.settings.output.effective = .ok policy → policy.mode = .refuse

/-- A run breaks off if its writer does. -/
def BreaksOff (tree : Tree) (current : Route) (arguments : List String) : Prop :=
  ∃ plan : Plan tree current arguments, plan.writer.BreaksOff tree plan.files

/-- Settings say nothing of the output if they are an object without such a key. -/
def LeavesOutput (stated : Json) : Prop :=
  ∃ fields, stated = .obj fields ∧ Json.field? "output" fields = none

/-- Settings that say nothing of the output have the standard policy. -/
theorem output_of_leavesOutput {stated : Json} {settings : Settings} (leaves : LeavesOutput stated)
    (read : Settings.read stated = .ok settings) : settings.output = .stated .standard := by
  obtain ⟨fields, rfl, unstated⟩ := leaves
  have given := Settings.outputGiven_of_read read
  rw [unstated] at given
  exact (Except.ok.inj given).symm

/-- Set a key of the settings if there is a value for it. -/
def setGiven (key : String) (given : Option Json) (stated : Json) : Except Fault Json :=
  match given with
  | none => .ok stated
  | some value => setSetting key value stated

/-- A key that is set is set in an object. -/
theorem setGiven_cases {key : String} {given : Option Json} {stated changed : Json}
    (set : setGiven key given stated = .ok changed) :
    changed = stated ∨ ∃ fields value, stated = .obj fields ∧
      changed = .obj (Json.setField key value fields) := by
  cases given with
  | none => exact .inl (Except.ok.inj set).symm
  | some value =>
      cases stated with
      | obj fields => exact .inr ⟨fields, value, rfl, (Except.ok.inj set).symm⟩
      | _ => cases set

theorem LeavesOutput.setGiven {key : String} {given : Option Json} {stated changed : Json}
    (leaves : LeavesOutput stated) (other : "output" ≠ key)
    (set : setGiven key given stated = .ok changed) : LeavesOutput changed := by
  rcases setGiven_cases set with rfl | ⟨fields, value, rfl, rfl⟩
  · exact leaves
  · obtain ⟨_, ⟨⟩, unstated⟩ := leaves
    exact ⟨_, rfl, by rw [Json.field?_setField_ne other, unstated]⟩

/-- The settings that a file states, if one is named. -/
def fileSettings (standIns : StandIns) (tree : Tree) (current : Route) (options : Options) :
    Except Fault Json :=
  match options.config with
  | none => .ok (.obj [])
  | some path => readJson standIns tree (resolve current path)

section Stated

variable {standIns : StandIns} {tree : Tree} {current : Route} {options : Options} {stated : Json}

/-- What is stated is what the file states, with the keys set for which options are given. -/
theorem settingsJson_eq :
    settingsJson standIns tree current options = fileSettings standIns tree current options >>= fun stated =>
      setGiven "language" (options.language.map .str) stated >>= fun stated =>
        setGiven "external_apimachinery"
            (if options.externalApimachinery then some (.bool true) else none) stated >>= fun stated =>
          setGiven "external_kubernetes_models"
            (if options.externalKubernetesModels then some (.bool true) else none) stated := by
  rw [settingsJson, fileSettings]
  cases options.config <;> cases options.language <;> cases options.externalApimachinery <;>
    cases options.externalKubernetesModels <;> rfl

/-- The options set no key of the output, so what the file says of it stands. -/
theorem settingsJson_induction {holds : Json → Prop}
    (kept : ∀ {key given before after}, holds before → "output" ≠ key →
      setGiven key given before = .ok after → holds after)
    (start : ∀ config, fileSettings standIns tree current options = .ok config → holds config)
    (configured : settingsJson standIns tree current options = .ok stated) : holds stated := by
  rw [settingsJson_eq] at configured
  obtain ⟨config, found, configured⟩ := bind_eq_ok_iff.mp configured
  obtain ⟨first, language, configured⟩ := bind_eq_ok_iff.mp configured
  obtain ⟨second, apimachinery, kubernetes⟩ := bind_eq_ok_iff.mp configured
  have afterLanguage := kept (start config found) (by decide) language
  have afterApimachinery := kept afterLanguage (by decide) apimachinery
  exact kept afterApimachinery (by decide) kubernetes

/-- Without a file of settings nothing is said of the output. -/
theorem leavesOutput_of_no_config (standard : options.config = none)
    (configured : settingsJson standIns tree current options = .ok stated) : LeavesOutput stated := by
  apply settingsJson_induction LeavesOutput.setGiven _ configured
  intro config found
  rw [fileSettings, standard] at found
  cases found
  exact ⟨[], rfl, rfl⟩

end Stated

/-- A run without a file of settings refuses to overwrite unless it is told to. -/
theorem refusesToOverwrite_of_no_config {tree : Tree} {current : Route} {arguments : List String}
    {invocation : Invocation} (asked : Invocation.read tree current arguments = .ok invocation)
    (standard : invocation.options.config = none) (careful : invocation.options.force = false) :
    RefusesToOverwrite tree current arguments := by
  intro plan policy effective
  have same : plan.invocation = invocation := Except.ok.inj (plan.asked.symm.trans asked)
  have leaves := leavesOutput_of_no_config (same ▸ standard) plan.configured
  have understood := plan.understood
  rw [settingsOf] at understood
  obtain ⟨settings, read, kept⟩ := bind_eq_ok_iff.mp understood
  rw [same, careful] at kept
  cases pure_eq_ok_iff.mp kept
  rw [output_of_leavesOutput leaves read] at effective
  cases effective
  rfl

section Runs

variable {tree : Tree} {current : Route} {arguments : List String}

/-- A run writes a file for a definition when it is what is generated for it, with surrogates for the
characters that stand in for them. -/
def Plan.IsFileOf (plan : Plan tree current arguments) (definition : Definition) (file : OutputFile) : Prop :=
  ∃ generated, plan.settings.fileOf definition = .ok generated ∧
    file = restoredFile plan.standIns generated

theorem Plan.IsFileOf.path_eq {plan : Plan tree current arguments} {definition : Definition}
    {file : OutputFile} (own : plan.IsFileOf definition file) :
    file.path = plan.settings.schemaPath definition.id := by
  obtain ⟨generated, made, rfl⟩ := own
  exact Settings.path_of_fileOf made

/-- A run writes one file for each definition, at the path of its id. -/
theorem Plan.files_of_definitions (plan : Plan tree current arguments) :
    List.Forall₂ (fun definition file => plan.IsFileOf definition file ∧
      file.path = plan.settings.schemaPath definition.id) plan.definitions plan.files := by
  rw [files, List.forall₂_map_right_iff]
  apply (mapM_eq_ok_iff.mp plan.mapM_generated).imp
  intro definition generated made
  have own : plan.IsFileOf definition (restoredFile plan.standIns generated) := ⟨generated, made, rfl⟩
  exact ⟨own, own.path_eq⟩

theorem Plan.exists_id (plan : Plan tree current arguments) :
    ∀ file ∈ plan.files, ∃ id, file.path = plan.settings.schemaPath id := by
  intro file member
  obtain ⟨generated, among, rfl⟩ := List.mem_map.mp member
  obtain ⟨definition, -, made⟩ := exists_item_of_mem plan.mapM_generated among
  exact ⟨definition.id, Settings.path_of_fileOf made⟩

end Runs

/-- A tree that holds a document with one definition. -/
def smallTree : Tree :=
  ⟨[(["s.json"], .file "\x7b\"definitions\":\x7b\"a\":\x7b\x7d\x7d\x7d")]⟩

/-- The run with this document ends well, and there is a file. -/
theorem run_small :
    (run smallTree (.ofText "/") ["s.json", "out"]).ending.exitCode = 0 ∧
      (run smallTree (.ofText "/") ["s.json", "out"]).tree.node? ["out", "_schemas", "A.ts"] ≠ none := by
  decide +kernel

/-- A run that only shows the help would have left the tree as it is. -/
theorem run_small_tree_ne : (run smallTree (.ofText "/") ["s.json", "out"]).tree ≠ smallTree := by
  intro same
  have there := run_small.2
  rw [same] at there
  exact there rfl

theorem readJson_of_locate {standIns : StandIns} {tree : Tree} {route : Route} {place : Place}
    {content : String} {value : Json}
    (found : tree.locate .followed route = .ok (place, some (.file content)))
    (read : Json.read? content = some value) : readJson standIns tree route = .ok value := by
  rw [readJson, found]
  simp only [Json.readWith_of_read? standIns.character? read]

/-- The text of a document with two definitions that say nothing. -/
def twoDefinitions (first second : String) : List Char :=
  '\x7b' :: '"' :: ("definitions".toList ++ '"' :: ':' :: '\x7b' :: '"' ::
    (first.toList ++ '"' :: ':' :: '\x7b' :: '\x7d' :: ',' :: '"' ::
      (second.toList ++ '"' :: ':' :: '\x7b' :: '\x7d' :: '\x7d' :: ['\x7d'])))

theorem read_twoDefinitions {first second : String} (different : first ≠ second)
    (firstPlain : first.toList.all Quoted.isUnescaped = true)
    (secondPlain : second.toList.all Quoted.isUnescaped = true) :
    Json.read? (.ofList (twoDefinitions first second)) =
      some (.obj [("definitions", .obj [(first, .obj []), (second, .obj [])])]) := by
  have enough : ∃ fuel, 2 * (twoDefinitions first second).length + 2 = fuel + 6 := by
    refine ⟨2 * (twoDefinitions first second).length - 4, ?_⟩
    simp only [twoDefinitions, List.length_cons, List.length_append]
    omega
  obtain ⟨fuel, enough⟩ := enough
  have inner := Json.fields?_empty_cons (fun _ => none) firstPlain (fuel + 1) []
    (second.toList ++ '"' :: ':' :: '\x7b' :: '\x7d' :: '\x7d' :: ['\x7d'])
  rw [Json.fields?_empty _ secondPlain, String.ofList_toList, String.ofList_toList] at inner
  have known : "definitions".toList.all Quoted.isUnescaped = true := by decide
  have outer := Json.fields?_object _ known [] inner
  have opened : Json.value? (fun _ => none) (fuel + 6) (twoDefinitions first second) =
      (Json.fields? (fun _ => none) (fuel + 5) [] (twoDefinitions first second).tail).map fun found =>
        (.obj found.1, found.2) := rfl
  have start : Json.skipBlank (twoDefinitions first second) = twoDefinitions first second := rfl
  rw [Json.read?, Json.readWith, String.toList_ofList, enough, start, opened, twoDefinitions, List.tail_cons, outer,
    String.ofList_toList]
  simp [Json.setField, different, Json.skipBlank]

/-- An id for which the file has a name that is too long only while the file is unfinished. -/
def overlongId : String :=
  .ofList ('B' :: List.replicate 238 'b')

theorem toList_overlongId : overlongId.toList = 'B' :: List.replicate 238 'b' :=
  String.toList_ofList

/-- A tree that holds a document with that id, and settings by which files are not looked at. -/
def overlongTree : Tree :=
  ⟨[(["c.json"], .file "\x7b\"output\":\x7b\"validate_before_write\":false\x7d\x7d"),
    (["s.json"], .file (.ofList (twoDefinitions "a.B" overlongId)))]⟩

def overlongArguments : List String :=
  ["--config", "c.json", "s.json", "out"]

def overlongPolicy : OutputPolicy :=
  ⟨.refuse, .bool false, .bool true⟩

def overlongSettings : Settings :=
  { Settings.standard with output := .stated overlongPolicy }

def overlongDefinitions : List Definition :=
  [⟨"a.B", .obj [], []⟩, ⟨overlongId, .obj [], []⟩]

theorem joinWords_replicate (n : Nat) :
    joinWords false (List.replicate n 'b') = List.replicate n 'b' := by
  induction n with
  | zero => rfl
  | succ n ih =>
      have word : isWordChar 'b' = true := by decide
      rw [List.replicate_succ, joinWords, if_pos word, ih]
      rfl

theorem fileName_overlongId : overlongSettings.fileName overlongId = overlongId ++ ".ts" := by
  have word : isWordChar 'B' = true := by decide
  have name : overlongSettings.className overlongId = overlongId := by
    rw [Settings.className, className, if_pos (by rfl), toList_overlongId, joinWords, if_pos word,
      joinWords_replicate]
    rfl
  rw [Settings.fileName, name]
  rfl

theorem fileName_short : overlongSettings.fileName "a.B" = "AB.ts" := by
  decide

theorem overlong_paths_ne :
    overlongSettings.schemaPath "a.B" ≠ overlongSettings.schemaPath overlongId := by
  rw [Settings.schemaPath_eq, Settings.schemaPath_eq, fileName_overlongId, fileName_short]
  intro same
  have letters := congrArg String.toList same
  rw [String.toList_append, String.toList_append, List.append_cancel_left_eq, String.toList_append,
    toList_overlongId] at letters
  exact absurd (List.cons.inj letters).1 (by decide)

theorem read_overlongDefinitions : Json.read? (.ofList (twoDefinitions "a.B" overlongId)) =
    some (.obj [("definitions", .obj [("a.B", .obj []), (overlongId, .obj [])])]) := by
  have different : "a.B" ≠ overlongId := by
    intro same
    have letters := congrArg String.toList same
    simp [toList_overlongId] at letters
  have short : "a.B".toList.all Quoted.isUnescaped = true := by decide
  have long : overlongId.toList.all Quoted.isUnescaped = true := by
    rw [toList_overlongId, List.all_cons, List.all_replicate]
    decide
  exact read_twoDefinitions different short long

/-- The settings are JSON as well. -/
theorem read_overlongSettings : Json.read? "\x7b\"output\":\x7b\"validate_before_write\":false\x7d\x7d" =
    some (.obj [("output", .obj [("validate_before_write", .bool false)])]) := by
  decide +kernel

theorem read_overlong (standIns : StandIns) :
    readJson standIns overlongTree (resolve (.ofText "/") "s.json") =
      .ok (.obj [("definitions", .obj [("a.B", .obj []), (overlongId, .obj [])])]) :=
  readJson_of_locate rfl read_overlongDefinitions

theorem generate_overlong : ∃ first second,
    overlongSettings.generate overlongDefinitions = .ok [first, second] ∧
      first.path = overlongSettings.schemaPath "a.B" ∧
      second.path = overlongSettings.schemaPath overlongId := by
  have made : ∃ files, overlongDefinitions.mapM overlongSettings.fileOf = .ok files :=
    exists_eq_ok_of_isOk (by decide +kernel)
  obtain ⟨files, made⟩ := made
  have passed : overlongSettings.checkPaths overlongDefinitions = .ok () := by
    rw [Settings.checkPaths_eq_ok_iff]
    have apart := overlong_paths_ne
    simp [overlongDefinitions, apart, apart.symm]
  have generated : overlongSettings.generate overlongDefinitions = .ok files := by
    rw [Settings.generate, passed]
    exact made
  obtain ⟨first, _, here, behind, rfl⟩ := List.forall₂_cons_left_iff.mp (mapM_eq_ok_iff.mp made)
  obtain ⟨second, _, there, ended, rfl⟩ := List.forall₂_cons_left_iff.mp behind
  obtain rfl := List.forall₂_nil_left_iff.mp ended
  have short := Settings.path_of_fileOf here
  have long := Settings.path_of_fileOf there
  exact ⟨first, second, generated, short, long⟩

def overlongWriter : Writer :=
  ⟨⟨"/", ["out"]⟩, .stated overlongPolicy⟩

def overlongInvocation : Invocation :=
  ⟨⟨some "c.json", none, false, false, false, false, false, [.config]⟩, "s.json", "out"⟩

/-- Neither the settings nor the document need a character for a surrogate. -/
theorem standIns_overlong : overlongInvocation.standIns overlongTree (.ofText "/") = .empty := by
  have contents : (overlongInvocation.sources (.ofText "/")).filterMap overlongTree.content? =
      ["\x7b\"output\":\x7b\"validate_before_write\":false\x7d\x7d",
        .ofList (twoDefinitions "a.B" overlongId)] := rfl
  rw [Invocation.standIns, contents]
  apply StandIns.reading_of_read?
  intro text member
  rcases List.mem_pair.mp member with rfl | rfl
  · rw [read_overlongSettings]
    rfl
  · rw [read_overlongDefinitions]
    rfl

theorem exists_overlong_plan : ∃ plan : Plan overlongTree (.ofText "/") overlongArguments,
    plan.writer = overlongWriter ∧ ∃ first second, plan.files = [first, second] ∧
      (first.path = overlongSettings.schemaPath "a.B" ∧ first.content.unencodable? = none) ∧
      (second.path = overlongSettings.schemaPath overlongId ∧ second.content.unencodable? = none) := by
  have asked : Invocation.read overlongTree (.ofText "/") overlongArguments = .ok overlongInvocation := by
    decide +kernel
  have configured : settingsJson .empty overlongTree (.ofText "/") overlongInvocation.options =
      .ok (.obj [("output", .obj [("validate_before_write", .bool false)])]) := by
    have loaded : readJson .empty overlongTree (resolve (.ofText "/") "c.json") = _ :=
      readJson_of_locate rfl read_overlongSettings
    simp [settingsJson, overlongInvocation, loaded]
  have understood : settingsOf overlongInvocation.options
      (.obj [("output", .obj [("validate_before_write", .bool false)])]) = .ok overlongSettings := rfl
  have extracted : Definition.extract
      (.obj [("definitions", .obj [("a.B", .obj []), (overlongId, .obj [])])]) =
        .ok overlongDefinitions := by
    decide +kernel
  have directory : resolve (.ofText "/") overlongInvocation.output = ⟨"/", ["out"]⟩ := by
    decide
  obtain ⟨first, second, generated, short, long⟩ := generate_overlong
  rw [← standIns_overlong] at configured
  let plan : Plan overlongTree (.ofText "/") overlongArguments :=
    ⟨_, _, _, _, _, _, asked, configured, read_overlong _, understood, extracted, generated⟩
  have whole (generated : GeneratedFile) :
      (restoredFile plan.standIns generated).content.unencodable? = none := by
    rw [restoredFile, Plan.standIns, standIns_overlong, StandIns.restored_empty]
    rfl
  refine ⟨plan, ?_, _, _, rfl, ⟨short, whole first⟩, long, whole second⟩
  exact congrArg (Writer.mk · _) directory

theorem sound_overlongTree : overlongTree.Sound := by
  apply Tree.sound_of_entries
  · simp [overlongTree]
  · simp [overlongTree, Tree.node?]

/-- A file in the directory that is missing passes its check. -/
theorem check_overlong {file : OutputFile} {id : String}
    (path : file.path = overlongSettings.schemaPath id)
    (short : (overlongWriter.routeOf file).text.utf8ByteSize ≤ Tree.greatestPath) :
    overlongWriter.check overlongTree file = .ok () := by
  have plain : overlongWriter.directory.Plain := by
    intro name member
    rw [List.mem_singleton.mp member]
    exact ⟨by decide, by decide, by decide⟩
  have named : overlongWriter.directory.hasBadName = false := by decide
  have askable := Writer.askable_of_short plain named path short
  have route : overlongWriter.routeOf file =
      ⟨"/", [] ++ "out" :: ["_schemas", overlongSettings.fileName id]⟩ := Writer.routeOf_eq path
  have effective : overlongWriter.output.effective = .ok overlongPolicy := rfl
  rw [Writer.check_eq_ok_iff effective rfl]
  constructor
  · rw [route] at askable ⊢
    exact Tree.exists?_of_none sound_overlongTree rfl rfl askable (by decide) rfl
  · intro looked
    exact absurd looked (by decide)

/-- The writer begins to write, and the name of the second file does not fit. -/
theorem begins_overlong {first second : OutputFile}
    (short : first.path = overlongSettings.schemaPath "a.B")
    (long : second.path = overlongSettings.schemaPath overlongId)
    (encodable : first.content.unencodable? = none ∧ second.content.unencodable? = none) :
    overlongWriter.Begins overlongTree [first, second] overlongPolicy [] ["out", "_schemas"] ∧
      overlongWriter.routeOf first = ⟨"/", ["out", "_schemas", "AB.ts"]⟩ ∧
      overlongWriter.fitting overlongPolicy ["out", "_schemas"] [first, second] =
        [true, true, true, false] := by
  have shortRoute : overlongWriter.routeOf first = ⟨"/", ["out", "_schemas", "AB.ts"]⟩ := by
    rw [Writer.routeOf_eq short, fileName_short]
    rfl
  have longRoute : overlongWriter.routeOf second = ⟨"/", ["out", "_schemas", overlongId ++ ".ts"]⟩ := by
    rw [Writer.routeOf_eq long, fileName_overlongId]
    rfl
  refine ⟨?_, shortRoute, ?_⟩
  · constructor
    · rw [Writer.checkAll_eq_ok_iff]
      constructor
      · simp [short, long, overlong_paths_ne]
      · intro file member
        rcases List.mem_pair.mp member with rfl | rfl
        · apply check_overlong short
          rw [shortRoute]
          decide +kernel
        · apply check_overlong long
          rw [longRoute]
          decide +kernel
    · rfl
    · simp
    · decide
    · rfl
    · rfl
    · rintro name rest ⟨⟩
      rfl
  · have fitting : Writer.fits overlongPolicy ⟨"/", ["out", "_schemas", "AB.ts"]⟩ = true ∧
        Writer.fits overlongPolicy ⟨"/", ["out", "_schemas", overlongId ++ ".ts"]⟩ = false := by
      decide +kernel
    rw [Writer.fitting, List.flatMap_cons, List.flatMap_cons, List.flatMap_nil, Writer.stepsOf,
      Writer.stepsOf, Writer.fileSteps_of_encodable _ _ encodable.1,
      Writer.fileSteps_of_encodable _ _ encodable.2, shortRoute, longRoute, fitting.1, fitting.2]
    rfl

end CommandLine

end Registrar
