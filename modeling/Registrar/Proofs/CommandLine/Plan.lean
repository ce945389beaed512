import Registrar.CommandLine.Run
import Registrar.Proofs.Steps
import Mathlib.Logic.IsEmpty.Basic

/-!
# The way to writing

A run reads its arguments, its settings and its document, generates all files, and only then writes. What
it has read and generated by then is its plan. A run with a plan is a run of the writer, and a run that
fails on the way to one, or only shows the help, has not changed the tree.
-/

namespace Registrar.CommandLine

open Files

/-- What a run has read and generated when it comes to write. -/
structure Plan (tree : Tree) (current : Route) (arguments : List String) where
  invocation : Invocation
  stated : Json
  document : Json
  settings : Settings
  definitions : List Definition
  generated : List GeneratedFile
  asked : Invocation.read tree current arguments = .ok invocation
  configured : settingsJson (invocation.standIns tree current) tree current invocation.options = .ok stated
  loaded : readJson (invocation.standIns tree current) tree (resolve current invocation.path) = .ok document
  understood : settingsOf invocation.options stated = .ok settings
  extracted : Definition.extract document = .ok definitions
  made : settings.generate definitions = .ok generated

namespace Plan

variable {tree : Tree} {current : Route} {arguments : List String}

/-- The characters that stand in for surrogates in what a run reads. -/
def standIns (plan : Plan tree current arguments) : StandIns :=
  plan.invocation.standIns tree current

/-- The files that a run is to write. -/
def files (plan : Plan tree current arguments) : List OutputFile :=
  plan.generated.map (restoredFile plan.standIns)

/-- The writer of a run. -/
def writer (plan : Plan tree current arguments) : Writer :=
  ⟨resolve current plan.invocation.output, plan.settings.output⟩

/-- What a run has read and generated is settled before it. -/
instance : Subsingleton (Plan tree current arguments) where
  allEq := by
    intro first second
    cases first with
    | mk invocation stated document settings definitions generated asked configured loaded understood
        extracted made =>
        obtain rfl := Except.ok.inj (asked.symm.trans second.asked)
        obtain rfl := Except.ok.inj (configured.symm.trans second.configured)
        obtain rfl := Except.ok.inj (loaded.symm.trans second.loaded)
        obtain rfl := Except.ok.inj (understood.symm.trans second.understood)
        obtain rfl := Except.ok.inj (extracted.symm.trans second.extracted)
        obtain rfl := Except.ok.inj (made.symm.trans second.made)
        rfl

/-- Each definition of a run has a file. -/
theorem mapM_generated (plan : Plan tree current arguments) :
    plan.definitions.mapM plan.settings.fileOf = .ok plan.generated := by
  have made := plan.made
  rw [Settings.generate, check_bind_eq_ok_iff] at made
  exact made.2

end Plan

/-- A fault never ends a run well. -/
theorem exitCode_of (fault : Fault) : (Ending.of fault).exitCode = 1 := by
  rw [Ending.of]
  cases reported? fault with
  | none => rfl
  | some message => rfl

theorem exitCode_shown (fault : Fault) (standIns : StandIns) :
    ((Ending.of fault).shown standIns).exitCode = 1 := by
  rw [← exitCode_of fault]
  cases Ending.of fault <;> rfl

/-- A step of reading the command line that ends the run badly, or with the help, if it ends it. -/
def EndsIdle {α : Type} (step : Except Ending α) : Prop :=
  ∀ ending, step = .error ending → ending = .helped ∨ ending.exitCode ≠ 0

section EndsIdle

variable {α β : Type}

theorem endsIdle_ok (a : α) : EndsIdle (.ok a : Except Ending α) := by
  intro ending failed
  cases failed

theorem EndsIdle.bind {step : Except Ending α} {next : α → Except Ending β} (first : EndsIdle step)
    (later : ∀ a, EndsIdle (next a)) : EndsIdle (step >>= next) := by
  cases step with
  | error ending =>
      intro other failed
      cases failed
      exact first ending rfl
  | ok a => exact later a

theorem EndsIdle.forM {step : α → Except Ending Unit} (each : ∀ a, EndsIdle (step a)) (list : List α) :
    EndsIdle (list.forM step) := by
  induction list with
  | nil => exact endsIdle_ok ()
  | cons a rest ih => exact (each a).bind fun _ => ih

end EndsIdle

section Reading

variable (tree : Tree) (current : Route)

theorem endsIdle_checkInput (argument : String) : EndsIdle (checkInput tree current argument) := by
  intro ending failed
  rw [checkInput] at failed
  split at failed
  · cases failed
    decide
  · split at failed <;> cases failed
    exact .inr (by decide)

theorem endsIdle_checkOutput (argument : String) : EndsIdle (checkOutput tree current argument) := by
  intro ending failed
  rw [checkOutput] at failed
  split at failed
  · cases failed
    decide
  · split at failed <;> cases failed
    exact .inr (by decide)

theorem endsIdle_check (options : Options) (setting : Setting) :
    EndsIdle (options.check tree current setting) := by
  cases setting with
  | config =>
      rw [Options.check]
      cases options.config with
      | none => exact endsIdle_ok ()
      | some argument => exact endsIdle_checkInput tree current argument
  | language =>
      intro ending failed
      rw [Options.check] at failed
      split at failed <;> cases failed
      exact .inr (by decide)

/-- A command line that cannot be read ends the run badly, or with the help. -/
theorem endsIdle_read (arguments : List String) :
    EndsIdle (Invocation.read tree current arguments) := by
  have misused {α : Type} : EndsIdle (.error .misused : Except Ending α) := by
    intro ending failed
    cases failed
    exact .inr (by decide)
  rw [Invocation.read]
  cases readArguments .none arguments with
  | none => exact misused
  | some found =>
      obtain ⟨options, others⟩ := found
      dsimp only
      split
      · intro ending failed
        cases failed
        exact .inl rfl
      apply (EndsIdle.forM (endsIdle_check tree current options) options.given).bind
      intro _
      match others with
      | [] => exact misused
      | [path] => exact (endsIdle_checkInput tree current path).bind fun _ => misused
      | path :: output :: more =>
          apply (endsIdle_checkInput tree current path).bind
          intro _
          apply (endsIdle_checkOutput tree current output).bind
          intro _
          by_cases few : more = []
          · rw [if_pos few]
            exact endsIdle_ok _
          · rw [if_neg few]
            exact misused

end Reading

section Runs

variable {tree : Tree} {current : Route} {arguments : List String}

/-- Writing ends well just when the writer does not fail. -/
theorem writeFiles_spec (settings : Settings) (tree : Tree) (directory : Route)
    (files : List OutputFile) :
    (writeFiles settings tree directory files).tree =
        (Writer.writeAll ⟨directory, settings.output⟩ tree files).tree ∧
      ((writeFiles settings tree directory files).ending.exitCode = 0 ↔
        (Writer.writeAll ⟨directory, settings.output⟩ tree files).fault = none) := by
  rw [writeFiles]
  constructor
  · rfl
  · cases (Writer.writeAll ⟨directory, settings.output⟩ tree files).fault with
    | none => simp [Ending.exitCode]
    | some fault => simp [exitCode_of]

/-- What is logged is no matter of the tree and the ending. -/
theorem run_of_read {invocation : Invocation}
    (asked : Invocation.read tree current arguments = .ok invocation) :
    (run tree current arguments).tree = (invocation.run tree current).tree ∧
      (run tree current arguments).ending = (invocation.run tree current).ending := by
  rw [run, asked]
  by_cases verbose : invocation.options.verbose = true
  · simp [verbose]
  · simp [verbose]

/-- Read the settings and the document of a run. -/
def readInputs (tree : Tree) (current : Route) (invocation : Invocation) :
    Except Fault (Json × Json) := do
  let standIns := invocation.standIns tree current
  let stated ← settingsJson standIns tree current invocation.options
  return (stated, ← readJson standIns tree (resolve current invocation.path))

theorem readInputs_eq_ok_iff {invocation : Invocation} {stated document : Json} :
    readInputs tree current invocation = .ok (stated, document) ↔
      settingsJson (invocation.standIns tree current) tree current invocation.options = .ok stated ∧
        readJson (invocation.standIns tree current) tree (resolve current invocation.path) =
          .ok document := by
  simp only [readInputs, bind_eq_ok_iff, pure_eq_ok_iff, Prod.mk.injEq]
  constructor
  · rintro ⟨_, configured, _, loaded, rfl, rfl⟩
    exact ⟨configured, loaded⟩
  · rintro ⟨configured, loaded⟩
    exact ⟨stated, configured, document, loaded, rfl, rfl⟩

theorem invocation_run_eq (invocation : Invocation) :
    invocation.run tree current =
      match readInputs tree current invocation with
      | .error fault => ⟨tree, [], .broken fault⟩
      | .ok (stated, document) =>
          match settingsOf invocation.options stated with
          | .error fault => ⟨tree, [], (Ending.of fault).shown (invocation.standIns tree current)⟩
          | .ok settings =>
              generateFiles (invocation.standIns tree current) settings tree
                (resolve current invocation.output) document := rfl

/-- A run with a plan goes on to write. -/
theorem Plan.run_eq_writeFiles (plan : Plan tree current arguments) :
    (run tree current arguments).tree =
        (writeFiles plan.settings tree plan.writer.directory plan.files).tree ∧
      (run tree current arguments).ending =
        (writeFiles plan.settings tree plan.writer.directory plan.files).ending := by
  have inputs := readInputs_eq_ok_iff.mpr ⟨plan.configured, plan.loaded⟩
  obtain ⟨sameTree, sameEnding⟩ := run_of_read plan.asked
  rw [sameTree, sameEnding, invocation_run_eq, inputs]
  simp only [plan.understood, generateFiles, plan.extracted, plan.made]
  exact ⟨rfl, rfl⟩

/-- A run with a plan is a run of the writer. -/
theorem Plan.run_eq (plan : Plan tree current arguments) :
    (run tree current arguments).tree = (plan.writer.writeAll tree plan.files).tree ∧
      ((run tree current arguments).ending.exitCode = 0 ↔
        (plan.writer.writeAll tree plan.files).fault = none) := by
  obtain ⟨sameTree, sameEnding⟩ := plan.run_eq_writeFiles
  rw [sameTree, sameEnding]
  exact writeFiles_spec plan.settings tree plan.writer.directory plan.files

/-- A run whose writer fails reports it. -/
theorem Plan.exitCode_of_fault (plan : Plan tree current arguments)
    (failed : (plan.writer.writeAll tree plan.files).fault ≠ none) :
    (run tree current arguments).ending.exitCode = 1 := by
  obtain ⟨fault, found⟩ := Option.ne_none_iff_exists'.mp failed
  have ending : (writeFiles plan.settings tree plan.writer.directory plan.files).ending = .of fault := by
    rw [Plan.writer] at found
    rw [writeFiles, Plan.writer, found]
  rw [plan.run_eq_writeFiles.2, ending, exitCode_of]

/-- A run without a plan fails, or shows the help, and leaves the tree as it is. -/
theorem run_of_isEmpty (unplanned : IsEmpty (Plan tree current arguments)) :
    (run tree current arguments).tree = tree ∧
      ((run tree current arguments).ending = .helped ∨
        (run tree current arguments).ending.exitCode ≠ 0) := by
  cases asked : Invocation.read tree current arguments with
  | error ending =>
      rw [run, asked]
      exact ⟨rfl, endsIdle_read tree current arguments ending asked⟩
  | ok invocation =>
      obtain ⟨sameTree, sameEnding⟩ := run_of_read asked
      rw [sameTree, sameEnding]
      cases inputs : readInputs tree current invocation with
      | error fault =>
          rw [invocation_run_eq, inputs]
          exact ⟨rfl, .inr Nat.one_ne_zero⟩
      | ok given =>
          obtain ⟨stated, document⟩ := given
          obtain ⟨configured, loaded⟩ := readInputs_eq_ok_iff.mp inputs
          rw [invocation_run_eq, inputs]
          dsimp only
          cases understood : settingsOf invocation.options stated with
          | error fault => exact ⟨rfl, .inr ((exitCode_shown fault _).trans_ne Nat.one_ne_zero)⟩
          | ok settings =>
              dsimp only
              rw [generateFiles]
              cases extracted : Definition.extract document with
              | error fault => exact ⟨rfl, .inr ((exitCode_shown fault _).trans_ne Nat.one_ne_zero)⟩
              | ok definitions =>
                  dsimp only
                  cases made : settings.generate definitions with
                  | error fault => exact ⟨rfl, .inr ((exitCode_shown fault _).trans_ne Nat.one_ne_zero)⟩
                  | ok generated =>
                      exact (unplanned.false ⟨invocation, stated, document, settings, definitions,
                        generated, asked, configured, loaded, understood, extracted, made⟩).elim

/-- A run that ends well has a plan, or only shows the help. -/
theorem helped_or_nonempty_of_exitCode (finished : (run tree current arguments).ending.exitCode = 0) :
    ((run tree current arguments).ending = .helped ∧ (run tree current arguments).tree = tree) ∨
      Nonempty (Plan tree current arguments) := by
  rcases isEmpty_or_nonempty (Plan tree current arguments) with unplanned | planned
  · obtain ⟨same, idle⟩ := run_of_isEmpty unplanned
    exact .inl ⟨idle.resolve_right fun failed => failed finished, same⟩
  · exact .inr planned

end Runs

end Registrar.CommandLine
