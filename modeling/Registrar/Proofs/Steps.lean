import Mathlib.Data.List.Forall2

/-!
# Steps that may fail

What the success of a computation says of its parts. A computation made of steps gives a result just
when each step gives one, and a list of computations gives a list of results just when the results
stand beside the items they come from.
-/

namespace Registrar

variable {ε α β : Type}

instance decidableEqExcept [DecidableEq ε] [DecidableEq α] : DecidableEq (Except ε α)
  | .ok a, .ok b => decidable_of_iff (a = b) (by simp)
  | .error a, .error b => decidable_of_iff (a = b) (by simp)
  | .ok _, .error _ => isFalse (by simp)
  | .error _, .ok _ => isFalse (by simp)

theorem exists_eq_ok_of_isOk {x : Except ε α} (h : x.isOk = true) : ∃ a, x = .ok a := by
  cases x with
  | error fault => simp [Except.isOk, Except.toBool] at h
  | ok a => exact ⟨a, rfl⟩

/-- Two steps give a result just when the first gives one from which the second gives it. -/
theorem bind_eq_ok_iff {x : Except ε α} {f : α → Except ε β} {b : β} :
    x >>= f = .ok b ↔ ∃ a, x = .ok a ∧ f a = .ok b := by
  cases x with
  | error fault => simp [bind, Except.bind]
  | ok a => simp [bind, Except.bind]

/-- Two steps fail just when the first does or the second does with its result. -/
theorem bind_eq_error_iff {x : Except ε α} {f : α → Except ε β} {fault : ε} :
    x >>= f = .error fault ↔ x = .error fault ∨ ∃ a, x = .ok a ∧ f a = .error fault := by
  cases x with
  | error other => simp [bind, Except.bind]
  | ok a => simp [bind, Except.bind]

/-- A check before a step passes just when it says nothing. -/
theorem check_bind_eq_ok_iff {x : Except ε Unit} {f : Unit → Except ε β} {b : β} :
    x >>= f = .ok b ↔ x = .ok () ∧ f () = .ok b := by
  rw [bind_eq_ok_iff]
  exact ⟨fun ⟨_, passed, rest⟩ => ⟨passed, rest⟩, fun ⟨passed, rest⟩ => ⟨(), passed, rest⟩⟩

@[simp] theorem pure_eq_ok_iff {a b : α} : (pure a : Except ε α) = .ok b ↔ a = b := by
  simp [pure, Except.pure]

/-- A list of steps succeeds just when every step does, item by item. -/
theorem mapM_eq_ok_iff {f : α → Except ε β} {xs : List α} {ys : List β} :
    xs.mapM f = .ok ys ↔ List.Forall₂ (fun x y => f x = .ok y) xs ys := by
  induction xs generalizing ys with
  | nil => simp [pure, Except.pure, eq_comm]
  | cons x rest ih =>
      rw [List.mapM_cons, bind_eq_ok_iff]
      constructor
      · rintro ⟨y, here, more⟩
        obtain ⟨others, there, whole⟩ := bind_eq_ok_iff.mp more
        rw [← pure_eq_ok_iff.mp whole]
        exact .cons here (ih.mp there)
      · intro related
        cases related with
        | cons here there => exact ⟨_, here, bind_eq_ok_iff.mpr ⟨_, ih.mpr there, rfl⟩⟩

/-- A list of steps fails with the fault of its first step that fails: all before it give results. -/
theorem mapM_eq_error_iff {f : α → Except ε β} {xs : List α} {fault : ε} :
    xs.mapM f = .error fault ↔ ∃ before x after, xs = before ++ x :: after ∧
      (∀ y ∈ before, ∃ b, f y = .ok b) ∧ f x = .error fault := by
  induction xs with
  | nil => simp [pure, Except.pure]
  | cons head rest ih =>
      rw [List.mapM_cons]
      cases here : f head with
      | error other =>
          change Except.error other = Except.error fault ↔ _
          constructor
          · intro failed
            rw [Except.error.inj failed] at here
            exact ⟨[], head, rest, rfl, by simp, here⟩
          · rintro ⟨before, x, after, split, passed, failed⟩
            cases before with
            | nil =>
                obtain ⟨rfl, -⟩ := List.cons.inj split
                rw [Except.error.inj (here.symm.trans failed)]
            | cons first before =>
                obtain ⟨rfl, -⟩ := List.cons.inj split
                obtain ⟨b, result⟩ := passed _ List.mem_cons_self
                rw [here] at result
                cases result
      | ok b =>
          have onward : ((do
              let y ← Except.ok b
              let ys ← rest.mapM f
              pure (y :: ys)) = Except.error fault) ↔ rest.mapM f = .error fault := by
            cases rest.mapM f <;> simp [bind, Except.bind, pure, Except.pure]
          rw [onward, ih]
          constructor
          · rintro ⟨before, x, after, rfl, passed, failed⟩
            exact ⟨head :: before, x, after, rfl, List.forall_mem_cons.mpr ⟨⟨b, here⟩, passed⟩, failed⟩
          · rintro ⟨before, x, after, split, passed, failed⟩
            cases before with
            | nil =>
                obtain ⟨rfl, -⟩ := List.cons.inj split
                rw [here] at failed
                cases failed
            | cons first before =>
                obtain ⟨-, rfl⟩ := List.cons.inj split
                exact ⟨before, x, after, rfl, fun y inside => passed y (List.mem_cons_of_mem _ inside),
                  failed⟩

/-- A list of steps that each succeed succeeds. -/
theorem exists_mapM {f : α → Except ε β} {xs : List α} (each : ∀ x ∈ xs, ∃ y, f x = .ok y) :
    ∃ ys, xs.mapM f = .ok ys := by
  cases outcome : xs.mapM f with
  | ok ys => exact ⟨ys, rfl⟩
  | error fault =>
      obtain ⟨before, x, after, rfl, -, failed⟩ := mapM_eq_error_iff.mp outcome
      obtain ⟨y, result⟩ := each x (List.mem_append_right before List.mem_cons_self)
      rw [failed] at result
      cases result

/-- The results of a list of steps have the numbers of their items. -/
theorem eq_ok_of_getElem? {f : α → Except ε β} {xs : List α} {ys : List β} (h : xs.mapM f = .ok ys)
    {number : Nat} {x : α} {y : β} (item : xs[number]? = some x) (result : ys[number]? = some y) :
    f x = .ok y := by
  induction mapM_eq_ok_iff.mp h generalizing number with
  | nil => cases item
  | cons here there ih =>
      cases number with
      | zero =>
          obtain rfl := Option.some.inj item
          obtain rfl := Option.some.inj result
          exact here
      | succ number => exact ih (mapM_eq_ok_iff.mpr there) item result

/-- A list of checks passes just when every check does. -/
theorem forM_eq_ok_iff {f : α → Except ε Unit} {xs : List α} :
    xs.forM f = .ok () ↔ ∀ x ∈ xs, f x = .ok () := by
  induction xs with
  | nil => simp [pure, Except.pure]
  | cons x rest ih =>
      have whole : (x :: rest).forM f = f x >>= fun _ => rest.forM f := rfl
      rw [whole, check_bind_eq_ok_iff, ih, List.forall_mem_cons]

/-- A list of checks fails with the fault of its first check that fails. -/
theorem forM_eq_error_iff {f : α → Except ε Unit} {xs : List α} {fault : ε} :
    xs.forM f = .error fault ↔ ∃ before x after, xs = before ++ x :: after ∧
      (∀ y ∈ before, f y = .ok ()) ∧ f x = .error fault := by
  have whole (x : α) (rest : List α) : (x :: rest).forM f = f x >>= fun _ => rest.forM f := rfl
  constructor
  · intro failed
    induction xs with
    | nil => cases failed
    | cons x rest ih =>
        rw [whole] at failed
        cases here : f x with
        | error other =>
            rw [here] at failed
            obtain rfl := Except.error.inj failed
            exact ⟨[], x, rest, rfl, by simp, here⟩
        | ok _ =>
            rw [here] at failed
            obtain ⟨before, found, after, rfl, passed, stopped⟩ := ih failed
            exact ⟨x :: before, found, after, rfl, List.forall_mem_cons.mpr ⟨here, passed⟩, stopped⟩
  · rintro ⟨before, x, after, rfl, passed, stopped⟩
    induction before with
    | nil =>
        rw [List.nil_append, whole, stopped]
        rfl
    | cons first before ih =>
        obtain ⟨here, others⟩ := List.forall_mem_cons.mp passed
        rw [List.cons_append, whole, here]
        exact ih others

theorem length_eq_of_mapM {f : α → Except ε β} {xs : List α} {ys : List β} (h : xs.mapM f = .ok ys) :
    ys.length = xs.length :=
  (mapM_eq_ok_iff.mp h).length_eq.symm

/-- Doing two steps for each item is doing the first for all and then the second for all. -/
theorem mapM_bind_eq_ok_iff {γ : Type} {f : α → Except ε β} {g : β → Except ε γ} {xs : List α}
    {zs : List γ} :
    xs.mapM (fun x => f x >>= g) = .ok zs ↔ ∃ ys, xs.mapM f = .ok ys ∧ ys.mapM g = .ok zs := by
  simp only [mapM_eq_ok_iff]
  constructor
  · intro both
    induction both with
    | nil => exact ⟨[], .nil, .nil⟩
    | cons here _ ih =>
        obtain ⟨y, first, second⟩ := bind_eq_ok_iff.mp here
        obtain ⟨ys, firsts, seconds⟩ := ih
        exact ⟨y :: ys, .cons first firsts, .cons second seconds⟩
  · rintro ⟨ys, firsts, seconds⟩
    induction firsts generalizing zs with
    | nil =>
        cases seconds with
        | nil => exact .nil
    | cons first _ ih =>
        cases seconds with
        | cons second rest => exact .cons (bind_eq_ok_iff.mpr ⟨_, first, second⟩) (ih rest)

/-- Steps that agree on all items of a list do the same to the list. -/
theorem mapM_congr {f g : α → Except ε β} {xs : List α} (agree : ∀ x ∈ xs, f x = g x) :
    xs.mapM f = xs.mapM g := by
  induction xs with
  | nil => rfl
  | cons x rest ih =>
      obtain ⟨here, there⟩ := List.forall_mem_cons.mp agree
      rw [List.mapM_cons, List.mapM_cons, here, ih there]

/-- A list of steps that succeeds does so in every order of its items, and each item keeps its result. -/
theorem exists_mapM_of_perm {f : α → Except ε β} {xs xs' : List α} {ys : List β} (order : xs.Perm xs')
    (h : xs.mapM f = .ok ys) : ∃ ys', xs'.mapM f = .ok ys' ∧ (xs.zip ys).Perm (xs'.zip ys') := by
  simp only [mapM_eq_ok_iff] at h ⊢
  induction order generalizing ys with
  | nil => exact ⟨ys, h, .refl _⟩
  | cons x _ ih =>
      cases h with
      | cons here there =>
          obtain ⟨ys', others, same⟩ := ih there
          exact ⟨_, .cons here others, same.cons _⟩
  | swap x x' rest =>
      obtain _ | ⟨first, _ | ⟨second, there⟩⟩ := h
      exact ⟨_, .cons second (.cons first there), .swap _ _ _⟩
  | trans _ _ first second =>
      obtain ⟨between, made, same⟩ := first h
      obtain ⟨ys', made', same'⟩ := second made
      exact ⟨ys', made', same.trans same'⟩

/-- Where the first of two steps succeeds for each item, the second is what decides. -/
theorem mapM_bind_of_ok {γ : Type} {f : α → Except ε β} {xs : List α} {ys : List β}
    (h : xs.mapM f = .ok ys) (g : β → Except ε γ) : xs.mapM (fun x => (f x).bind g) = ys.mapM g := by
  induction mapM_eq_ok_iff.mp h with
  | nil => rfl
  | cons here there ih =>
      rw [List.mapM_cons, List.mapM_cons, here, ih (mapM_eq_ok_iff.mpr there)]
      rfl

/-- Doing a step for all items of all lists is doing it list by list. -/
theorem mapM_flatten_eq_ok_iff {f : α → Except ε β} {lists : List (List α)} {ys : List β} :
    lists.flatten.mapM f = .ok ys ↔ ∃ parts, lists.mapM (·.mapM f) = .ok parts ∧ parts.flatten = ys := by
  induction lists generalizing ys with
  | nil => simp [pure, Except.pure]
  | cons list rest ih =>
      rw [List.flatten_cons, List.mapM_append, List.mapM_cons]
      simp only [bind_eq_ok_iff, pure_eq_ok_iff]
      constructor
      · rintro ⟨here, first, more, others, rfl⟩
        obtain ⟨parts, each, rfl⟩ := ih.mp others
        exact ⟨here :: parts, ⟨here, first, parts, each, rfl⟩, List.flatten_cons⟩
      · rintro ⟨_, ⟨here, first, parts, each, rfl⟩, rfl⟩
        exact ⟨here, first, parts.flatten, ih.mpr ⟨parts, each, rfl⟩, List.flatten_cons.symm⟩

/-- Related lists with something between each two items have a list between them. -/
theorem exists_between {γ : Type} {r : α → β → Prop} (first : α → γ → Prop) (second : γ → β → Prop)
    {xs : List α} {ys : List β} (related : List.Forall₂ r xs ys)
    (between : ∀ x ∈ xs, ∀ y, r x y → ∃ z, first x z ∧ second z y) :
    ∃ zs, List.Forall₂ first xs zs ∧ List.Forall₂ second zs ys := by
  induction related with
  | nil => exact ⟨[], .nil, .nil⟩
  | @cons x y xs ys here _ ih =>
      obtain ⟨z, before, behind⟩ := between x List.mem_cons_self y here
      obtain ⟨zs, firsts, seconds⟩ := ih fun other member =>
        between other (List.mem_cons_of_mem _ member)
      exact ⟨z :: zs, .cons before firsts, .cons behind seconds⟩

/-- Each item of a list of steps that succeeds has its result among the results. -/
theorem exists_result_of_mem {f : α → Except ε β} {xs : List α} {ys : List β}
    (h : xs.mapM f = .ok ys) {x : α} (member : x ∈ xs) : ∃ y ∈ ys, f x = .ok y := by
  induction mapM_eq_ok_iff.mp h with
  | nil => simp at member
  | cons here there ih =>
      rcases List.mem_cons.mp member with rfl | later
      · exact ⟨_, List.mem_cons_self, here⟩
      · obtain ⟨y, inside, result⟩ := ih (mapM_eq_ok_iff.mpr there) later
        exact ⟨y, List.mem_cons_of_mem _ inside, result⟩

/-- Each result of a list of steps comes from an item of the list. -/
theorem exists_item_of_mem {f : α → Except ε β} {xs : List α} {ys : List β}
    (h : xs.mapM f = .ok ys) {y : β} (member : y ∈ ys) : ∃ x ∈ xs, f x = .ok y := by
  induction mapM_eq_ok_iff.mp h with
  | nil => simp at member
  | cons here there ih =>
      rcases List.mem_cons.mp member with rfl | later
      · exact ⟨_, List.mem_cons_self, here⟩
      · obtain ⟨x, inside, result⟩ := ih (mapM_eq_ok_iff.mpr there) later
        exact ⟨x, List.mem_cons_of_mem _ inside, result⟩

/-- Where each step that succeeds has a counterpart that succeeds, a list of steps that succeeds has one, and
the results with one number belong to the item with this number. -/
theorem exists_counterparts {γ : Type} {f : α → Except ε β} {g : α → Except ε γ}
    {related : α → β → γ → Prop} {xs : List α} {ys : List β} (h : xs.mapM f = .ok ys)
    (each : ∀ x y, f x = .ok y → ∃ z, g x = .ok z ∧ related x y z) :
    ∃ zs, xs.mapM g = .ok zs ∧ ys.length = xs.length ∧ zs.length = xs.length ∧
      ∀ (number : Nat) x y z, xs[number]? = some x → ys[number]? = some y → zs[number]? = some z →
        related x y z := by
  have all : ∀ x ∈ xs, ∃ z, g x = .ok z := by
    intro x member
    obtain ⟨y, -, result⟩ := exists_result_of_mem h member
    obtain ⟨z, counterpart, -⟩ := each x y result
    exact ⟨z, counterpart⟩
  obtain ⟨zs, others⟩ := exists_mapM all
  refine ⟨zs, others, length_eq_of_mapM h, length_eq_of_mapM others, ?_⟩
  intro number x y z item result other
  obtain ⟨counterpart, found, alike⟩ := each x y (eq_ok_of_getElem? h item result)
  obtain rfl := Except.ok.inj (found.symm.trans (eq_ok_of_getElem? others item other))
  exact alike

/-- A step that commutes with changes of its items and of its results does so for a whole list. -/
theorem mapM_map_of_commute {α' β' : Type} {f : α → Except ε β} {g : α' → Except ε β'} {h : α → α'}
    {k : β → β'} {xs : List α} (commute : ∀ x ∈ xs, g (h x) = (f x).map k) :
    (xs.map h).mapM g = (xs.mapM f).map (List.map k) := by
  induction xs with
  | nil => rfl
  | cons x rest ih =>
      obtain ⟨here, there⟩ := List.forall_mem_cons.mp commute
      rw [List.map_cons, List.mapM_cons, List.mapM_cons, here, ih there]
      cases f x with
      | error fault => rfl
      | ok y =>
          cases rest.mapM f with
          | error fault => rfl
          | ok ys => rfl

end Registrar
