import Registrar.Import
import Registrar.Proofs.Steps
import Mathlib.Data.List.Nodup
import Mathlib.Data.List.Perm.Basic

/-!
# What the groups of imports hold

Grouping loses no import and invents none. An import goes into the group of its place or into a new one,
and when the imports are different and places that are one key are one place, the statements written for
the groups import just what was to be imported, each once.
-/

namespace Registrar

/-- The imports that the statements for some groups write. -/
def writtenImports (groups : List ImportGroup) : List Import :=
  groups.flatMap fun group => group.names.map fun binding => ⟨group.path, binding⟩

@[simp] theorem writtenImports_nil : writtenImports [] = [] := rfl

@[simp] theorem writtenImports_cons (group : ImportGroup) (rest : List ImportGroup) :
    writtenImports (group :: rest) =
      group.names.map (fun binding => ⟨group.path, binding⟩) ++ writtenImports rest := by
  simp [writtenImports]

theorem mem_writtenImports {imported : Import} {groups : List ImportGroup} :
    imported ∈ writtenImports groups ↔
      ∃ group ∈ groups, group.path = imported.path ∧ imported.binding ∈ group.names := by
  simp only [writtenImports, List.mem_flatMap, List.mem_map]
  constructor
  · rintro ⟨group, member, binding, named, rfl⟩
    exact ⟨group, member, rfl, named⟩
  · rintro ⟨group, member, place, named⟩
    exact ⟨group, member, imported.binding, named, by rw [place]⟩

/-- Paths of imports that are one key are one path. -/
def ExactKeys (imports : List Import) : Prop :=
  ∀ first ∈ imports, ∀ second ∈ imports,
    first.path.sameKey second.path = true → first.path = second.path

/-- A group that was made for an import has a name. -/
theorem names_ne_nil_of_addImport {added : Import} {groups : List ImportGroup}
    (named : ∀ group ∈ groups, group.names ≠ []) :
    ∀ group ∈ addImport added groups, group.names ≠ [] := by
  induction groups with
  | nil => simp [addImport]
  | cons group rest ih =>
      have others := fun other member => named other (List.mem_cons_of_mem _ member)
      unfold addImport
      split
      · rw [List.forall_mem_cons]
        refine ⟨?_, others⟩
        apply List.ne_nil_of_mem (a := added.binding)
        exact mem_addBinding.mpr (.inl rfl)
      · rw [List.forall_mem_cons]
        exact ⟨named group List.mem_cons_self, ih others⟩

/-- A new import is written behind the others, if its place is the one of the group that takes it. -/
theorem writtenImports_addImport {added : Import} {groups : List ImportGroup}
    (exact : ∀ group ∈ groups, group.path.sameKey added.path = true → group.path = added.path)
    (new : added ∉ writtenImports groups) :
    (writtenImports (addImport added groups)).Perm (writtenImports groups ++ [added]) := by
  induction groups with
  | nil => exact List.Perm.refl _
  | cons group rest ih =>
      rw [writtenImports_cons, List.mem_append, not_or] at new
      unfold addImport
      split
      · rename_i same
        have place := exact group List.mem_cons_self same
        have unnamed : added.binding ∉ group.names := fun member =>
          new.1 (List.mem_map.mpr ⟨added.binding, member, by rw [place]⟩)
        rw [writtenImports_cons, writtenImports_cons, addBinding, if_neg unnamed, List.map_append,
          List.map_singleton, place]
        simp only [List.append_assoc]
        exact List.perm_append_comm.append_left _
      · have later := ih (fun other member => exact other (List.mem_cons_of_mem _ member)) new.2
        rw [writtenImports_cons, writtenImports_cons, List.append_assoc]
        exact later.append_left _

/-- The groups of different imports whose keys are exact write these imports, each once, and none of them
is empty. -/
structure IsGrouping (groups : List ImportGroup) (imports : List Import) : Prop where
  written : (writtenImports groups).Perm imports
  named : ∀ group ∈ groups, group.names ≠ []

/-- One more import is grouped with those before it. -/
theorem IsGrouping.addImport {added : Import} {groups : List ImportGroup} {seen : List Import}
    (before : IsGrouping groups seen) (new : added ∉ seen)
    (exact : ∀ other ∈ seen, other.path.sameKey added.path = true → other.path = added.path) :
    IsGrouping (addImport added groups) (seen ++ [added]) where
  written := by
    have place : ∀ group ∈ groups, group.path.sameKey added.path = true → group.path = added.path := by
      intro group member same
      obtain ⟨binding, inside⟩ := List.exists_mem_of_ne_nil _ (before.named group member)
      have there : (⟨group.path, binding⟩ : Import) ∈ seen :=
        before.written.mem_iff.mp (mem_writtenImports.mpr ⟨group, member, rfl, inside⟩)
      exact exact _ there same
    have fresh : added ∉ writtenImports groups := fun member => new (before.written.mem_iff.mp member)
    exact (writtenImports_addImport place fresh).trans (before.written.append_right _)
  named := names_ne_nil_of_addImport before.named

/-- More imports are grouped behind those that were grouped before. -/
theorem IsGrouping.foldlM {imports seen : List Import} {groups whole : List ImportGroup}
    (before : IsGrouping groups seen) (exact : ExactKeys (seen ++ imports))
    (different : (seen ++ imports).Nodup)
    (grouped : imports.foldlM (fun groups added => do
      checkKey added.path
      return Registrar.addImport added groups) groups = .ok whole) :
    IsGrouping whole (seen ++ imports) := by
  induction imports generalizing seen groups with
  | nil =>
      obtain rfl : groups = whole := by simpa [pure, Except.pure] using grouped
      simpa using before
  | cons added rest ih =>
      rw [List.foldlM_cons, bind_eq_ok_iff] at grouped
      obtain ⟨next, made, onward⟩ := grouped
      rw [check_bind_eq_ok_iff, pure_eq_ok_iff] at made
      obtain ⟨-, rfl⟩ := made
      have new : added ∉ seen := fun member =>
        (List.nodup_append.mp different).2.2 _ member _ List.mem_cons_self rfl
      have here := before.addImport new fun other member =>
        exact other (List.mem_append_left _ member) added (List.mem_append_right _ List.mem_cons_self)
      rw [List.append_cons] at exact different ⊢
      exact ih here exact different onward

/-- The groups of a list of different imports. -/
theorem groups_of_groupImports {imports : List Import} {groups : List ImportGroup}
    (exact : ExactKeys imports) (different : imports.Nodup)
    (grouped : groupImports imports = .ok groups) : IsGrouping groups imports := by
  have none : IsGrouping [] [] := ⟨List.Perm.refl _, by simp⟩
  exact none.foldlM exact different grouped

/-- The places of imports that were grouped can serve as keys. -/
theorem checkKey_of_groupImports {imports : List Import} {groups : List ImportGroup}
    (grouped : groupImports imports = .ok groups) :
    ∀ imported ∈ imports, checkKey imported.path = .ok () := by
  unfold groupImports at grouped
  generalize [] = seen at grouped
  induction imports generalizing seen with
  | nil => simp
  | cons added rest ih =>
      rw [List.foldlM_cons, bind_eq_ok_iff] at grouped
      obtain ⟨next, made, onward⟩ := grouped
      rw [check_bind_eq_ok_iff] at made
      exact List.forall_mem_cons.mpr ⟨made.1, ih next onward⟩

/-- Imports from places that can serve as keys have groups. -/
theorem exists_groupImports {imports : List Import}
    (usable : ∀ imported ∈ imports, checkKey imported.path = .ok ()) :
    ∃ groups, groupImports imports = .ok groups := by
  unfold groupImports
  generalize [] = seen
  induction imports generalizing seen with
  | nil => exact ⟨seen, rfl⟩
  | cons added rest ih =>
      obtain ⟨here, others⟩ := List.forall_mem_cons.mp usable
      obtain ⟨groups, grouped⟩ := ih others (addImport added seen)
      refine ⟨groups, ?_⟩
      rw [List.foldlM_cons, bind_eq_ok_iff]
      exact ⟨_, check_bind_eq_ok_iff.mpr ⟨here, rfl⟩, grouped⟩

/-- The group of an import that shares its place with no other. -/
def Import.alone (imported : Import) : ImportGroup :=
  ⟨imported.path, [imported.binding]⟩

/-- An import from a new place has a group of its own, behind the others. -/
theorem addImport_of_forall {added : Import} {groups : List ImportGroup}
    (apart : ∀ group ∈ groups, group.path.sameKey added.path = false) :
    addImport added groups = groups ++ [added.alone] := by
  induction groups with
  | nil => rfl
  | cons group rest ih =>
      obtain ⟨here, others⟩ := List.forall_mem_cons.mp apart
      rw [addImport_cons_of_not_sameKey here, ih others, List.cons_append]

/-- Imports from different places have groups of their own, in their order. -/
theorem groupImports_of_pairwise {imports : List Import}
    (keys : ∀ imported ∈ imports, checkKey imported.path = .ok ())
    (apart : imports.Pairwise fun first second => first.path.sameKey second.path = false) :
    groupImports imports = .ok (imports.map Import.alone) := by
  have behind (seen : List Import) : (∀ first ∈ seen, ∀ second ∈ imports,
        first.path.sameKey second.path = false) →
      imports.foldlM (fun groups added => do
        checkKey added.path
        return addImport added groups) (seen.map Import.alone) =
          Except.ok ((seen ++ imports).map Import.alone) := by
    induction imports generalizing seen with
    | nil => simp [pure, Except.pure]
    | cons added rest ih =>
        intro new
        obtain ⟨key, others⟩ := List.forall_mem_cons.mp keys
        obtain ⟨here, later⟩ := List.pairwise_cons.mp apart
        have fresh : addImport added (seen.map Import.alone) = (seen ++ [added]).map Import.alone := by
          rw [List.map_append]
          apply addImport_of_forall
          rw [List.forall_mem_map]
          exact fun first member => new first member added List.mem_cons_self
        rw [List.foldlM_cons, key, List.append_cons]
        refine Eq.trans ?_ (ih others later (seen ++ [added]) ?_)
        · rw [← fresh]
          rfl
        · intro first member second among
          rcases List.mem_append.mp member with before | new'
          · exact new first before second (List.mem_cons_of_mem _ among)
          · rw [List.mem_singleton.mp new']
            exact here second among
  exact behind [] (by simp)

end Registrar
