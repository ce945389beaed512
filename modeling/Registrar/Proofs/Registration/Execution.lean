import Registrar.Module

/-!
# Executing registration functions

The modules of a run lie side by side in one directory, and the registration function of each of them
calls those of others before it registers its own schema. An execution is a stack of functions that
wait for their calls, with the ids that are registered so far; `step?` makes the next call or the
registration behind the last one.

A call by a name runs the function that the module imports under this name. The path of the import
leads to another module of the run, or into a published package whose function is not known here: what
it registers is a parameter, and it is taken to return.

## Implementation notes

`Performs` says by recursion on the calls what an execution does in the end. It is the form in which
facts are proved; `completes_iff` says that it describes the executions that come to an end.
-/

namespace Registrar

namespace Language

/-- What stands before the name of a module in the path to it from a module beside it. -/
def besideMark : Language → String
  | .typescript => "./"
  | .python => "."

theorem localModule_eq (language : Language) (name : String) :
    language.localModule name = language.besideMark ++ name := by
  cases language <;> rfl

/-- The reserved words of a language that do not begin with a small letter. -/
def capitalWords : Language → List String
  | .typescript => []
  | .python => ["False", "None", "True"]

/-- Whether a class name can be written as a name of a language. A class name is made of letters and
digits and does not begin with a small letter, so few reserved words are in question. -/
def canName (language : Language) (name : String) : Bool :=
  match name.toList with
  | [] => false
  | first :: _ => !first.isDigit && name ∉ language.capitalWords

/-- The file of the run that an import path leads to: the one of the name behind the mark for modules
side by side. Other paths lead into packages. -/
def importedFile? (language : Language) : Json → Option String
  | .str path =>
      match afterStart? language.besideMark.toList path.toList with
      | some name =>
          if name ≠ [] ∧ name.all isWordChar then
            some ("_schemas/" ++ String.ofList name ++ language.extension)
          else none
      | none => none
  | _ => none

end Language

/-- The import that gives a module a function under a local name. -/
def RegistrationModule.importOf? (generated : RegistrationModule) (function name : String) :
    Option Import :=
  generated.imports.find? fun imported => imported.binding = ⟨function, some name⟩

/-- What a call runs: the registration function of another module, or one of a package, which
registers some ids. -/
inductive Callee where
  | generated (callee : RegistrationModule)
  | published (ids : List String)
  deriving DecidableEq, Repr

/-- A module with the calls that its registration function still has to make. -/
structure Frame where
  generated : RegistrationModule
  calls : List String
  deriving DecidableEq, Repr

/-- The functions that are being executed, the innermost first, and the ids that are registered so
far, in their order. -/
structure ExecutionState where
  frames : List Frame
  registered : List String
  deriving DecidableEq, Repr

/-- The modules of a run, with what the functions of published packages register. -/
structure Bundle where
  language : Language
  modules : List RegistrationModule
  published : Json → List String

namespace Bundle

variable (bundle : Bundle)

/-- What a module runs when it calls by a name. -/
def callee? (caller : RegistrationModule) (name : String) : Option Callee :=
  if bundle.language.canName name then
    match caller.importOf? bundle.language.registerFunction name with
    | some imported =>
        match bundle.language.importedFile? imported.path with
        | some file => (bundle.modules.find? (·.path = file)).map .generated
        | none => some (.published (bundle.published imported.path))
    | none => none
  else none

/-- The next state of an execution. There is none at its end, and none when a call leads nowhere. -/
def step? : ExecutionState → Option ExecutionState
  | ⟨[], _⟩ => none
  | ⟨⟨generated, []⟩ :: waiting, registered⟩ =>
      some ⟨waiting, registered ++ [generated.id]⟩
  | ⟨⟨generated, name :: calls⟩ :: waiting, registered⟩ =>
      match bundle.callee? generated name with
      | some (.generated callee) =>
          some ⟨⟨callee, callee.aliases⟩ :: ⟨generated, calls⟩ :: waiting, registered⟩
      | some (.published ids) => some ⟨⟨generated, calls⟩ :: waiting, registered ++ ids⟩
      | none => none

/-- The state after a number of steps. -/
def after : Nat → ExecutionState → Option ExecutionState
  | 0, state => some state
  | steps + 1, state => (bundle.step? state).bind (after steps)

/-- The state in which the registration function of a module is called. -/
def start (generated : RegistrationModule) : ExecutionState :=
  ⟨[⟨generated, generated.aliases⟩], []⟩

/-- The registration function of a module returns, having registered some ids in their order. -/
def Completes (generated : RegistrationModule) (ids : List String) : Prop :=
  ∃ steps, bundle.after steps (start generated) = some ⟨[], ids⟩

/-- The registration function of a module makes one call after the other and never returns. -/
def RunsForever (generated : RegistrationModule) : Prop :=
  ∀ steps, ∃ state, bundle.after steps (start generated) = some state ∧ state.frames ≠ []

/-- A module calls the registration function of another one. -/
def Invokes (caller callee : RegistrationModule) : Prop :=
  ∃ name ∈ caller.aliases, bundle.callee? caller name = some (.generated callee)

/-- What a module registers by the calls it still has to make and then by itself. -/
inductive Performs : RegistrationModule → List String → List String → Prop
  | register (generated) : Performs generated [] [generated.id]
  | generated {caller callee name calls inner ids}
      (found : bundle.callee? caller name = some (.generated callee))
      (first : Performs callee callee.aliases inner) (others : Performs caller calls ids) :
      Performs caller (name :: calls) (inner ++ ids)
  | published {caller name calls inner ids}
      (found : bundle.callee? caller name = some (.published inner))
      (others : Performs caller calls ids) :
      Performs caller (name :: calls) (inner ++ ids)

variable {bundle}

theorem step?_generated {caller callee : RegistrationModule} {name : String}
    (found : bundle.callee? caller name = some (.generated callee)) (calls : List String)
    (waiting : List Frame) (registered : List String) :
    bundle.step? ⟨⟨caller, name :: calls⟩ :: waiting, registered⟩ =
      some ⟨⟨callee, callee.aliases⟩ :: ⟨caller, calls⟩ :: waiting, registered⟩ := by
  simp [step?, found]

theorem step?_published {caller : RegistrationModule} {name : String} {ids : List String}
    (found : bundle.callee? caller name = some (.published ids)) (calls : List String)
    (waiting : List Frame) (registered : List String) :
    bundle.step? ⟨⟨caller, name :: calls⟩ :: waiting, registered⟩ =
      some ⟨⟨caller, calls⟩ :: waiting, registered ++ ids⟩ := by
  simp [step?, found]

theorem after_succ {steps : Nat} {state next : ExecutionState}
    (h : bundle.step? state = some next) :
    bundle.after (steps + 1) state = bundle.after steps next := by
  simp [after, h]

theorem after_add {first second : Nat} {state next : ExecutionState}
    (h : bundle.after first state = some next) :
    bundle.after (first + second) state = bundle.after second next := by
  induction first generalizing state with
  | zero =>
      obtain rfl : state = next := by simpa [after] using h
      rw [Nat.zero_add]
  | succ first ih =>
      obtain ⟨middle, step, rest⟩ := Option.bind_eq_some_iff.mp h
      rw [Nat.add_right_comm, after_succ step, ih rest]

/-- A function that performs its calls is left behind by the execution, whatever waits for it. -/
theorem Performs.after {generated : RegistrationModule} {calls ids : List String}
    (performs : bundle.Performs generated calls ids) (waiting : List Frame)
    (registered : List String) :
    ∃ steps, bundle.after steps ⟨⟨generated, calls⟩ :: waiting, registered⟩ =
      some ⟨waiting, registered ++ ids⟩ := by
  induction performs generalizing waiting registered with
  | register generated => exact ⟨1, by simp [Bundle.after, step?]⟩
  | @generated caller callee name calls inner ids found _ _ inside behind =>
      obtain ⟨n, within⟩ := inside (⟨caller, calls⟩ :: waiting) registered
      obtain ⟨m, later⟩ := behind waiting (registered ++ inner)
      refine ⟨n + m + 1, ?_⟩
      rw [after_succ (step?_generated found ..), after_add within, later, List.append_assoc]
  | @published caller name calls inner ids found _ behind =>
      obtain ⟨m, later⟩ := behind waiting (registered ++ inner)
      refine ⟨m + 1, ?_⟩
      rw [after_succ (step?_published found ..), later, List.append_assoc]

/-- An execution that comes to an end performs the calls of its innermost function first. What is
left of it is shorter. -/
theorem performs_of_after {steps : Nat} {generated : RegistrationModule} {calls : List String}
    {waiting : List Frame} {registered all : List String}
    (h : bundle.after steps ⟨⟨generated, calls⟩ :: waiting, registered⟩ = some ⟨[], all⟩) :
    ∃ ids, bundle.Performs generated calls ids ∧
      ∃ fewer < steps, bundle.after fewer ⟨waiting, registered ++ ids⟩ = some ⟨[], all⟩ := by
  induction steps using Nat.strongRecOn generalizing generated calls waiting registered with
  | ind steps ih =>
      cases steps with
      | zero => simp [after] at h
      | succ steps =>
          obtain ⟨next, step, rest⟩ := Option.bind_eq_some_iff.mp h
          cases calls with
          | nil =>
              obtain rfl : ⟨waiting, registered ++ [generated.id]⟩ = next := by
                simpa [step?] using step
              exact ⟨_, .register generated, steps, Nat.lt_succ_self _, rest⟩
          | cons name calls =>
              simp only [step?] at step
              split at step
              · rename_i callee found
                obtain rfl := Option.some.inj step
                -- The callee comes first, and the caller goes on where the callee is left.
                obtain ⟨inner, first, fewer, less, behind⟩ := ih steps (Nat.lt_succ_self _) rest
                obtain ⟨ids, others, fewest, least, left⟩ := ih fewer (by omega) behind
                refine ⟨inner ++ ids, .generated found first others, fewest, by omega, ?_⟩
                rw [← List.append_assoc, left]
              · rename_i inner found
                obtain rfl := Option.some.inj step
                obtain ⟨ids, others, fewest, least, left⟩ := ih steps (Nat.lt_succ_self _) rest
                refine ⟨inner ++ ids, .published found others, fewest, by omega, ?_⟩
                rw [← List.append_assoc, left]
              · simp at step

/-- The executions that come to an end are those that perform all calls of the module. -/
theorem completes_iff {generated : RegistrationModule} {ids : List String} :
    bundle.Completes generated ids ↔ bundle.Performs generated generated.aliases ids := by
  constructor
  · rintro ⟨steps, ends⟩
    obtain ⟨performed, performs, fewer, -, left⟩ := performs_of_after ends
    cases fewer with
    | zero =>
        obtain rfl : performed = ids := by simpa [after] using left
        exact performs
    | succ fewer => simp [after, step?] at left
  · intro performs
    obtain ⟨steps, ends⟩ := performs.after [] []
    exact ⟨steps, by simpa [start] using ends⟩

end Bundle

end Registrar
