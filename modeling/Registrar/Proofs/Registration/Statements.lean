import Registrar.Proofs.Generation.Emission
import Registrar.Proofs.Registration.Execution

/-!
# The statements of registration functions

Between its head and its end, the text of a module shows the statements of its registration function: the
calls, and then the registration of its own schema. An execution goes through these very statements. Each
step takes the first one that is left, and the statements of a generated function that is called come before
those that are left behind the call.
-/

namespace Registrar

/-- A statement of a registration function. -/
inductive Statement where
  | call (name : String)
  | register (id : String)
  deriving DecidableEq, Repr

/-- The statements that are left of a registration function. -/
def Frame.statements (frame : Frame) : List Statement :=
  frame.calls.map .call ++ [.register frame.generated.id]

/-- The statements of the registration function of a module. -/
def RegistrationModule.statements (generated : RegistrationModule) : List Statement :=
  Frame.statements ⟨generated, generated.aliases⟩

/-- The statements that are left of an execution. -/
def ExecutionState.statements (state : ExecutionState) : List Statement :=
  state.frames.flatMap Frame.statements

/-- An execution is at its end just when no statement is left. -/
theorem ExecutionState.statements_eq_nil_iff {state : ExecutionState} :
    state.statements = [] ↔ state.frames = [] := by
  cases frames : state.frames with
  | nil => simp [statements, frames]
  | cons frame waiting => simp [statements, frames, Frame.statements]

namespace Language

/-- The text of a statement. -/
def statementText (language : Language) : Statement → String
  | .call name => language.registrationCall name
  | .register id => language.ownRegistration id

/-- The text of a module is that of its head, of the statements of its registration function, and of its
end. -/
theorem render_eq (language : Language) (generated : RegistrationModule) :
    language.render generated = (language.importStatements generated.imports).map fun imports =>
      language.moduleHead imports generated.schema ++
        String.join (generated.statements.map language.statementText) ++ language.moduleEnd := by
  rw [render]
  cases language.importStatements generated.imports with
  | error fault => rfl
  | ok imports =>
      apply congrArg Except.ok
      rw [moduleText_eq, RegistrationModule.statements, Frame.statements, List.map_append, List.map_map]
      rfl

end Language

namespace Bundle

variable (bundle : Bundle)

/-- What a statement of a module does: the statements of the function that it calls, and the ids that are
registered. -/
def effect? (caller : RegistrationModule) : Statement → Option (List Statement × List String)
  | .register id => some ([], [id])
  | .call name =>
      match bundle.callee? caller name with
      | some (.generated callee) => some (callee.statements, [])
      | some (.published ids) => some ([], ids)
      | none => none

/-- A step of an execution has the effect of the first statement that is left, and there is none if that
statement has no effect. -/
theorem step?_eq_effect? {frame : Frame} {waiting : List Frame} {registered : List String}
    {statement : Statement} {rest : List Statement}
    (left : ExecutionState.statements ⟨frame :: waiting, registered⟩ = statement :: rest) :
    (bundle.step? ⟨frame :: waiting, registered⟩).map (fun next => (next.statements, next.registered)) =
      (bundle.effect? frame.generated statement).map fun (called, ids) =>
        (called ++ rest, registered ++ ids) := by
  obtain ⟨generated, calls⟩ := frame
  cases calls with
  | nil =>
      obtain ⟨rfl, rfl⟩ := List.cons.inj left
      rfl
  | cons name calls =>
      have first : ExecutionState.statements ⟨⟨generated, name :: calls⟩ :: waiting, registered⟩ =
          .call name :: ExecutionState.statements ⟨⟨generated, calls⟩ :: waiting, registered⟩ := rfl
      obtain ⟨rfl, rfl⟩ := List.cons.inj (first.symm.trans left)
      simp only [step?, effect?]
      cases bundle.callee? generated name with
      | none => rfl
      | some callee =>
          cases callee with
          | generated callee =>
              rw [Option.map_some, Option.map_some, List.append_nil]
              rfl
          | published ids => rfl

end Bundle

end Registrar
