import Registrar.Proofs.Registration.Execution
import Mathlib.Data.Fintype.Card
import Mathlib.Data.Set.Finite.List
import Mathlib.Logic.Relation

/-!
# When registration functions return

A registration function returns just when every call within its reach leads somewhere and no function
within its reach reaches itself again. Where the calls lead somewhere but some function reaches itself,
the execution makes one step after the other without an end.
-/

namespace Registrar

open Relation

section Acyclic

variable {α : Type*} {r : α → α → Prop}

/-- Nothing that is reached from an accessible element reaches itself. -/
theorem not_transGen_of_acc {a b : α} (accessible : Acc (flip r) a) (reached : ReflTransGen r a b) :
    ¬ TransGen r b b := by
  have below : Acc (flip r) b := by
    induction reached with
    | refl => exact accessible
    | tail _ step ih => exact ih.inv step
  intro cycle
  have closed : Acc (TransGen (flip r)) b := below.transGen
  clear below reached
  induction closed with
  | intro b _ ih => exact ih b (transGen_swap.mpr cycle) cycle

/-- Where only finitely many elements are reached, and none of them reaches itself, the first one is
accessible. -/
theorem acc_of_acyclic {a : α} [Finite {b // ReflTransGen r a b}]
    (acyclic : ∀ b, ReflTransGen r a b → ¬ TransGen r b b) : Acc (flip r) a := by
  let beyond (x y : {b // ReflTransGen r a b}) : Prop := TransGen r y.1 x.1
  have : IsTrans _ beyond := ⟨fun _ _ _ later sooner => sooner.trans later⟩
  have : Std.Irrefl beyond := ⟨fun x => acyclic x.1 x.2⟩
  have founded : WellFounded beyond := Finite.wellFounded_of_trans_of_irrefl beyond
  have every (x : {b // ReflTransGen r a b}) : Acc (flip r) x.1 := by
    induction x using founded.induction with
    | h x ih => exact ⟨_, fun y step => ih ⟨y, x.2.tail step⟩ (TransGen.single step)⟩
  exact every ⟨a, .refl⟩

/-- A relation that holds of two different elements only has no cycle. -/
theorem not_transGen_of_pair {a b : α} (pair : ∀ x y, r x y → x = a ∧ y = b) (different : a ≠ b)
    (x : α) : ¬ TransGen r x x := by
  intro cycle
  obtain ⟨_, start, -⟩ := TransGen.head'_iff.mp cycle
  obtain ⟨_, -, last⟩ := TransGen.tail'_iff.mp cycle
  rw [← (pair _ _ start).1, ← (pair _ _ last).2] at different
  exact different rfl

end Acyclic

namespace Bundle

variable {bundle : Bundle}

theorem mem_of_callee? {caller callee : RegistrationModule} {name : String}
    (found : bundle.callee? caller name = some (.generated callee)) : callee ∈ bundle.modules := by
  unfold callee? at found
  split at found
  · split at found
    · split at found
      · obtain ⟨inside, there, same⟩ := Option.map_eq_some_iff.mp found
        rw [← Callee.generated.inj same]
        exact List.mem_of_find?_eq_some there
      · simp at found
    · simp at found
  · simp at found

/-- Every call of every function within reach of a module leads somewhere. -/
def Linked (bundle : Bundle) (generated : RegistrationModule) : Prop :=
  ∀ caller, ReflTransGen bundle.Invokes generated caller →
    ∀ name ∈ caller.aliases, (bundle.callee? caller name).isSome

theorem isSome_of_performs {caller : RegistrationModule} {calls ids : List String}
    (performs : bundle.Performs caller calls ids) {name : String} (member : name ∈ calls) :
    (bundle.callee? caller name).isSome := by
  induction performs with
  | register => simp at member
  | generated found _ _ _ ih =>
      rcases List.mem_cons.mp member with rfl | later
      · simp [found]
      · exact ih later
  | published found _ ih =>
      rcases List.mem_cons.mp member with rfl | later
      · simp [found]
      · exact ih later

/-- A function that returns has called functions that return. -/
theorem performs_callee {caller callee : RegistrationModule} {calls ids : List String}
    (performs : bundle.Performs caller calls ids) {name : String} (member : name ∈ calls)
    (called : bundle.callee? caller name = some (.generated callee)) :
    ∃ inner, bundle.Performs callee callee.aliases inner := by
  induction performs with
  | register => simp at member
  | generated found first _ _ ih =>
      rcases List.mem_cons.mp member with rfl | later
      · obtain rfl : _ = callee := by simpa [found] using called
        exact ⟨_, first⟩
      · exact ih later called
  | published _ _ ih =>
      rcases List.mem_cons.mp member with rfl | later
      · simp_all
      · exact ih later called

theorem linked_of_performs {generated : RegistrationModule} {ids : List String}
    (performs : bundle.Performs generated generated.aliases ids) : bundle.Linked generated := by
  intro caller reached
  have returns : ∃ inner, bundle.Performs caller caller.aliases inner := by
    induction reached with
    | refl => exact ⟨ids, performs⟩
    | tail _ step ih =>
        obtain ⟨inner, inside⟩ := ih
        obtain ⟨name, member, called⟩ := step
        exact performs_callee inside member called
  obtain ⟨inner, inside⟩ := returns
  exact fun name member => isSome_of_performs inside member

/-- The recursion is on the calls that were performed: each callee was performed in full before. -/
theorem acc_of_performs {caller : RegistrationModule} {calls ids : List String}
    (performs : bundle.Performs caller calls ids) {name : String} (member : name ∈ calls)
    {callee : RegistrationModule} (called : bundle.callee? caller name = some (.generated callee)) :
    Acc (flip bundle.Invokes) callee := by
  induction performs generalizing name callee with
  | register => simp at member
  | generated found _ _ inside behind =>
      rcases List.mem_cons.mp member with rfl | later
      · obtain rfl : _ = callee := by simpa [found] using called
        constructor
        rintro next ⟨inner, among, leads⟩
        exact inside among leads
      · exact behind later called
  | published found _ behind =>
      rcases List.mem_cons.mp member with rfl | later
      · simp_all
      · exact behind later called

theorem performs_calls {caller : RegistrationModule} {calls : List String}
    (linked : ∀ name ∈ calls, (bundle.callee? caller name).isSome)
    (returning : ∀ name ∈ calls, ∀ callee, bundle.callee? caller name = some (.generated callee) →
      ∃ inner, bundle.Performs callee callee.aliases inner) :
    ∃ ids, bundle.Performs caller calls ids := by
  induction calls with
  | nil => exact ⟨_, .register caller⟩
  | cons name calls ih =>
      obtain ⟨ids, others⟩ := ih (fun other member => linked other (List.mem_cons_of_mem _ member))
        (fun other member => returning other (List.mem_cons_of_mem _ member))
      obtain ⟨callee | inner, found⟩ := Option.isSome_iff_exists.mp (linked name List.mem_cons_self)
      · obtain ⟨inner, first⟩ := returning name List.mem_cons_self callee found
        exact ⟨_, .generated found first others⟩
      · exact ⟨_, .published found others⟩

theorem performs_of_acc {generated : RegistrationModule} (linked : bundle.Linked generated)
    (accessible : Acc (flip bundle.Invokes) generated) :
    ∃ ids, bundle.Performs generated generated.aliases ids := by
  induction accessible with
  | intro generated _ ih =>
      apply performs_calls (linked generated .refl)
      intro name member callee called
      have step : bundle.Invokes generated callee := ⟨name, member, called⟩
      exact ih callee step fun caller reached => linked caller (.head step reached)

/-- The functions within reach of a module of the run are functions of the run. -/
theorem mem_of_reached {generated callee : RegistrationModule} (inside : generated ∈ bundle.modules)
    (reached : ReflTransGen bundle.Invokes generated callee) : callee ∈ bundle.modules := by
  induction reached with
  | refl => exact inside
  | tail _ step _ =>
      obtain ⟨name, -, called⟩ := step
      exact mem_of_callee? called

/-- A registration function returns just when the calls within its reach lead somewhere and none of the
functions within its reach reaches itself. -/
theorem exists_performs_iff {generated : RegistrationModule} (inside : generated ∈ bundle.modules) :
    (∃ ids, bundle.Performs generated generated.aliases ids) ↔
      bundle.Linked generated ∧
        ∀ callee, ReflTransGen bundle.Invokes generated callee →
          ¬ TransGen bundle.Invokes callee callee := by
  constructor
  · rintro ⟨ids, performs⟩
    have accessible : Acc (flip bundle.Invokes) generated := by
      constructor
      rintro callee ⟨name, member, called⟩
      exact acc_of_performs performs member called
    exact ⟨linked_of_performs performs, fun callee => not_transGen_of_acc accessible⟩
  · rintro ⟨linked, acyclic⟩
    have : Finite {callee // ReflTransGen bundle.Invokes generated callee} :=
      (List.finite_toSet bundle.modules).subset fun callee reached => mem_of_reached inside reached
    exact performs_of_acc linked (acc_of_acyclic acyclic)

/-- All functions that wait are within reach of a module, and their calls are calls of theirs. -/
def WithinReach (bundle : Bundle) (generated : RegistrationModule) (state : ExecutionState) : Prop :=
  ∀ frame ∈ state.frames,
    ReflTransGen bundle.Invokes generated frame.generated ∧ frame.calls ⊆ frame.generated.aliases

theorem withinReach_start (generated : RegistrationModule) :
    bundle.WithinReach generated (start generated) := by
  intro frame member
  obtain rfl : frame = ⟨generated, generated.aliases⟩ := by simpa [start] using member
  exact ⟨.refl, List.Subset.refl _⟩

/-- An execution within reach of a linked module goes on until no function waits, and it stays within
reach. -/
theorem exists_step?_of_linked {generated : RegistrationModule} (linked : bundle.Linked generated)
    {state : ExecutionState} (within : bundle.WithinReach generated state)
    (unfinished : state.frames ≠ []) :
    ∃ next, bundle.step? state = some next ∧ bundle.WithinReach generated next := by
  obtain ⟨_ | ⟨⟨caller, _ | ⟨name, calls⟩⟩, waiting⟩, registered⟩ := state
  · exact absurd rfl unfinished
  · refine ⟨_, rfl, fun frame member => within frame (List.mem_cons_of_mem _ member)⟩
  · obtain ⟨reached, mine⟩ := within ⟨caller, name :: calls⟩ List.mem_cons_self
    have later (frame : Frame) (member : frame ∈ waiting) := within frame (List.mem_cons_of_mem _ member)
    have rest : calls ⊆ caller.aliases := fun other member => mine (List.mem_cons_of_mem _ member)
    have here : name ∈ caller.aliases := mine List.mem_cons_self
    obtain ⟨callee | ids, found⟩ := Option.isSome_iff_exists.mp (linked caller reached name here)
    · refine ⟨_, step?_generated found .., ?_⟩
      intro frame member
      rcases List.mem_cons.mp member with rfl | member
      · exact ⟨reached.tail ⟨name, here, found⟩, List.Subset.refl _⟩
      · rcases List.mem_cons.mp member with rfl | member
        · exact ⟨reached, rest⟩
        · exact later frame member
    · refine ⟨_, step?_published found .., ?_⟩
      intro frame member
      rcases List.mem_cons.mp member with rfl | member
      · exact ⟨reached, rest⟩
      · exact later frame member

/-- A linked function either returns or runs for ever. -/
theorem runsForever_of_linked {generated : RegistrationModule} (linked : bundle.Linked generated)
    (endless : ¬ ∃ ids, bundle.Completes generated ids) : bundle.RunsForever generated := by
  have along (steps : Nat) : ∃ state, bundle.after steps (start generated) = some state ∧
      bundle.WithinReach generated state := by
    induction steps with
    | zero => exact ⟨_, rfl, withinReach_start generated⟩
    | succ steps ih =>
        obtain ⟨state, reached, within⟩ := ih
        have unfinished : state.frames ≠ [] := by
          intro finished
          apply endless
          refine ⟨state.registered, steps, ?_⟩
          rw [reached, ← finished]
        obtain ⟨next, step, further⟩ := exists_step?_of_linked linked within unfinished
        refine ⟨next, ?_, further⟩
        rw [after_add reached, after_succ step, after]
  intro steps
  obtain ⟨state, reached, -⟩ := along steps
  refine ⟨state, reached, fun finished => endless ⟨state.registered, steps, ?_⟩⟩
  rw [reached, ← finished]

end Bundle

end Registrar
