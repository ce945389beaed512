import Registrar.Proofs.Registration.Linking

/-!
# What a registration function registers

The ids that a function registers are the ids within reach of its own one, and each of them comes behind
all ids it refers to. Where references make no cycle, a function gets to its end unless a schema within
its reach has a class name that is no name of the language: then no call by that name can be made.

The settings are such that all schemas are generated in the run.

## Implementation notes

Order is stated by recursion on the ids, with those that are registered already; this is the form that
the calls of a function hand on from one to the next. `dependencyFirst_nil_iff` reads it as a statement
about the ids before an id.
-/

namespace Registrar

open Relation

/-- Each id comes behind the ids it refers to, some of which are there already. -/
def DependencyFirst (refers : String → String → Prop) : List String → List String → Prop
  | _, [] => True
  | done, id :: ids =>
      (∀ other, refers id other → other ∈ done) ∧ DependencyFirst refers (done ++ [id]) ids

section Order

variable {refers : String → String → Prop} {done ids : List String}

theorem dependencyFirst_append {more : List String} :
    DependencyFirst refers done (ids ++ more) ↔
      DependencyFirst refers done ids ∧ DependencyFirst refers (done ++ ids) more := by
  induction ids generalizing done with
  | nil => simp [DependencyFirst]
  | cons id ids ih => simp [DependencyFirst, ih, and_assoc]

theorem DependencyFirst.mono {larger : List String} (ordered : DependencyFirst refers done ids)
    (subset : done ⊆ larger) : DependencyFirst refers larger ids := by
  induction ids generalizing done larger with
  | nil => trivial
  | cons id ids ih =>
      obtain ⟨here, rest⟩ := ordered
      constructor
      · intro other refer
        exact subset (here other refer)
      · apply ih rest
        exact List.append_subset.mpr
          ⟨List.subset_append_of_subset_left _ subset, List.subset_append_right _ _⟩

theorem dependencyFirst_nil_iff :
    DependencyFirst refers [] ids ↔
      ∀ before id after, ids = before ++ id :: after → ∀ other, refers id other → other ∈ before := by
  constructor
  · rintro ordered before id after rfl
    have behind := (dependencyFirst_append.mp ordered).2
    simpa using behind.1
  · intro placed
    have every (before after : List String) (split : ids = before ++ after) :
        DependencyFirst refers before after := by
      induction after generalizing before with
      | nil => trivial
      | cons id after ih =>
          constructor
          · exact placed before id after split
          · apply ih
            rw [split, List.append_assoc, List.singleton_append]
    exact every [] ids rfl

end Order

/-- A function registers the schema of its own module last. -/
theorem Bundle.Performs.last {bundle : Bundle} {caller : RegistrationModule} {calls ids : List String}
    (performs : bundle.Performs caller calls ids) : ∃ before, ids = before ++ [caller.id] := by
  induction performs with
  | register => exact ⟨[], rfl⟩
  | @generated _ _ _ _ inner _ _ _ _ _ behind =>
      obtain ⟨before, rfl⟩ := behind
      exact ⟨inner ++ before, (List.append_assoc ..).symm⟩
  | @published _ _ _ inner _ _ _ behind =>
      obtain ⟨before, rfl⟩ := behind
      exact ⟨inner ++ before, (List.append_assoc ..).symm⟩

namespace ClosedRun

variable {settings : Settings} {definitions : List Definition} {modules : List RegistrationModule}
  {published : Json → List String}

/-- In a run that generates all schemas, a call leads to the module of the schema it names. -/
theorem callee?_unpublished (run : ClosedRun settings definitions modules)
    (own : ∀ id, settings.domainOf id = .generated) {caller : RegistrationModule}
    (inside : caller ∈ modules) {name : String} (member : name ∈ caller.aliases) {callee : Callee}
    (found : (Bundle.mk settings.language modules published).callee? caller name = some callee) :
    ∃ target ∈ modules, callee = .generated target ∧
      ∀ other, RefersTo definitions caller.id other →
        settings.className other = name → other = target.id := by
  obtain ⟨other, refers, rfl⟩ := (run.mem_aliases_iff inside).mp member
  have named := (run.isSome_callee?_iff published inside refers).mp (by simp [found])
  obtain ⟨target, among, -, found'⟩ :=
    run.callee?_of_generated published inside ⟨refers, own other⟩ named
  rw [found] at found'
  obtain rfl := Option.some.inj found'
  refine ⟨target, among, rfl, ?_⟩
  intro another refers' alike
  rw [← alike] at found
  exact (run.refersWithin_of_callee? inside refers' found).1.symm

/-- What is within reach of a module is its own id and what is within reach of the schemas it calls. -/
theorem reached_iff (run : ClosedRun settings definitions modules) {caller : RegistrationModule}
    (inside : caller ∈ modules) {id : String} :
    ReflTransGen (RefersTo definitions) caller.id id ↔ id = caller.id ∨
      ∃ other, settings.className other ∈ caller.aliases ∧ RefersTo definitions caller.id other ∧
        ReflTransGen (RefersTo definitions) other id := by
  rw [ReflTransGen.cases_head_iff, eq_comm]
  apply or_congr_right
  apply exists_congr
  intro other
  have called (refers : RefersTo definitions caller.id other) :=
    (run.mem_aliases_iff inside).mpr ⟨other, refers, rfl⟩
  exact ⟨fun h => ⟨called h.1, h⟩, fun h => h.2⟩

/-- The ids that a module registers by some of its calls are its own one and those within reach of the
schemas it calls. -/
theorem mem_of_performs (run : ClosedRun settings definitions modules)
    (own : ∀ id, settings.domainOf id = .generated) {caller : RegistrationModule}
    {calls ids : List String}
    (performs : (Bundle.mk settings.language modules published).Performs caller calls ids)
    (inside : caller ∈ modules) (among : calls ⊆ caller.aliases) (id : String) :
    id ∈ ids ↔ id = caller.id ∨
      ∃ other, settings.className other ∈ calls ∧ RefersTo definitions caller.id other ∧
        ReflTransGen (RefersTo definitions) other id := by
  induction performs with
  | register => simp
  | @generated caller callee name calls inner ids found _ _ first others =>
      have here : name ∈ caller.aliases := among List.mem_cons_self
      have rest : calls ⊆ caller.aliases := fun _ member => among (List.mem_cons_of_mem _ member)
      obtain ⟨target, there, same, only⟩ := run.callee?_unpublished own inside here found
      obtain rfl := Callee.generated.inj same
      have reach : id ∈ inner ↔ ReflTransGen (RefersTo definitions) callee.id id := by
        rw [first there (List.Subset.refl _), run.reached_iff there]
      obtain ⟨origin, refers, rfl⟩ := (run.mem_aliases_iff inside).mp here
      obtain rfl := only origin refers rfl
      rw [List.mem_append, reach, others inside rest]
      constructor
      · rintro (reached | rfl | ⟨other, member, further⟩)
        · exact .inr ⟨callee.id, List.mem_cons_self, refers, reached⟩
        · exact .inl rfl
        · exact .inr ⟨other, List.mem_cons_of_mem _ member, further⟩
      · rintro (rfl | ⟨other, member, refers', reached⟩)
        · exact .inr (.inl rfl)
        · rcases List.mem_cons.mp member with alike | later
          · obtain rfl := only other refers' alike
            exact .inl reached
          · exact .inr (.inr ⟨other, later, refers', reached⟩)
  | published found _ _ =>
      obtain ⟨_, _, same, _⟩ := run.callee?_unpublished own inside (among List.mem_cons_self) found
      cases same

/-- The calls of a module that are made register what it refers to, so that the calls to come and then
its own schema find it registered. -/
theorem dependencyFirst_of_performs (run : ClosedRun settings definitions modules)
    (own : ∀ id, settings.domainOf id = .generated) {caller : RegistrationModule}
    {calls ids : List String}
    (performs : (Bundle.mk settings.language modules published).Performs caller calls ids)
    (inside : caller ∈ modules) {made done : List String} (whole : caller.aliases = made ++ calls)
    (registered : ∀ other, RefersTo definitions caller.id other →
      settings.className other ∈ made → other ∈ done) :
    DependencyFirst (RefersTo definitions) done ids := by
  induction performs generalizing made done with
  | register caller =>
      refine ⟨?_, trivial⟩
      intro other refers
      apply registered other refers
      rw [← List.append_nil made, ← whole]
      exact (run.mem_aliases_iff inside).mpr ⟨other, refers, rfl⟩
  | @generated caller callee name calls inner ids found first _ inner_ordered behind =>
      have here : name ∈ caller.aliases := by simp [whole]
      obtain ⟨target, there, same, only⟩ := run.callee?_unpublished own inside here found
      obtain rfl := Callee.generated.inj same
      rw [dependencyFirst_append]
      constructor
      · have alone : DependencyFirst (RefersTo definitions) [] inner := by
          apply inner_ordered there (List.nil_append _).symm
          simp
        exact alone.mono (List.nil_subset _)
      · have onward : caller.aliases = (made ++ [name]) ++ calls := by
          rw [whole, List.append_cons]
        apply behind inside onward
        intro other refers member
        rcases List.mem_append.mp member with before | last
        · exact List.mem_append_left _ (registered other refers before)
        · obtain rfl := only other refers (List.mem_singleton.mp last)
          obtain ⟨others, rfl⟩ := first.last
          simp
  | published found _ _ =>
      obtain ⟨_, _, same, _⟩ := run.callee?_unpublished own inside (by simp [whole]) found
      cases same

/-- In a run that generates all schemas, the references within the run are all references. -/
theorem refersWithin_eq (own : ∀ id, settings.domainOf id = .generated) :
    RefersWithin settings definitions = RefersTo definitions := by
  funext id other
  simp [RefersWithin, own other]

end ClosedRun

theorem Settings.domainOf_eq_generated {settings : Settings}
    (apimachinery : settings.externalApimachinery.truthy = false)
    (kubernetes : settings.externalKubernetesModels.truthy = false) (id : String) :
    settings.domainOf id = .generated := by
  simp [domainOf, apimachinery, kubernetes]

/-- Where all schemas are generated, no reference leaves the run and none leads back, the function of a
module returns just when the schemas within its reach have class names that are names of the language.
It has then registered the ids within its reach, each behind the ids it refers to. -/
theorem registration_of_acyclic {settings : Settings} {definitions : List Definition}
    {files : List GeneratedFile} (published : Json → List String)
    (apimachinery : settings.externalApimachinery.truthy = false)
    (kubernetes : settings.externalKubernetesModels.truthy = false)
    (distinct : (definitions.map (·.id)).Nodup) (whole : SelfContained definitions)
    (acyclic : ∀ id, ¬ TransGen (RefersTo definitions) id id)
    (generated : settings.generate definitions = .ok files) :
    ∃ modules, definitions.mapM settings.moduleOf = .ok modules ∧
      modules.mapM settings.fileFor = .ok files ∧
      ∀ emitted ∈ modules,
        ((∃ ids, (Bundle.mk settings.language modules published).Completes emitted ids) ↔
          ∀ other, TransGen (RefersTo definitions) emitted.id other →
            settings.language.canName (settings.className other) = true) ∧
        ∀ ids, (Bundle.mk settings.language modules published).Completes emitted ids →
          (∀ id, id ∈ ids ↔ ReflTransGen (RefersTo definitions) emitted.id id) ∧
          ∀ before id after, ids = before ++ id :: after →
            ∀ other, RefersTo definitions id other → other ∈ before := by
  have own := Settings.domainOf_eq_generated apimachinery kubernetes
  obtain ⟨modules, run, rendered⟩ := ClosedRun.of_generate distinct whole generated
  refine ⟨modules, run.made, rendered, ?_⟩
  intro emitted inside
  constructor
  · rw [run.completes_iff inside, ClosedRun.refersWithin_eq own]
    constructor
    · rintro ⟨named, -⟩ other reached
      obtain ⟨id, before, last⟩ := TransGen.tail'_iff.mp reached
      exact named id other before last
    · intro named
      exact ⟨fun id other before last => named other (TransGen.tail' before last),
        fun id _ => acyclic id⟩
  · intro ids completes
    have performs := Bundle.completes_iff.mp completes
    constructor
    · intro id
      rw [run.mem_of_performs own performs inside (List.Subset.refl _), run.reached_iff inside]
    · apply dependencyFirst_nil_iff.mp
      apply run.dependencyFirst_of_performs own performs inside (List.nil_append _).symm
      simp

theorem registration_of_acyclic_pair :
    let definitions := [Definition.referringTo "a.B" ["#/definitions/a.C"], .referringTo "a.C" []]
    ∃ modules, definitions.mapM Settings.standard.moduleOf = .ok modules ∧
      ∀ emitted ∈ modules, ∃ ids,
        (Bundle.mk .typescript modules fun _ => []).Completes emitted ids := by
  intro definitions
  have first : (Definition.referringTo "a.B" ["#/definitions/a.C"]).foreignReferences = .ok ["a.C"] := by
    decide +kernel
  have second : (Definition.referringTo "a.C" []).foreignReferences = .ok [] := by
    decide +kernel
  have refers (id other : String) : RefersTo definitions id other ↔ id = "a.B" ∧ other = "a.C" := by
    rw [refersTo_cons_iff first, refersTo_cons_iff second]
    simp
  have acyclic := not_transGen_of_pair (fun id other => (refers id other).mp) (by decide)
  obtain ⟨files, generated⟩ : ∃ files, Settings.standard.generate definitions = .ok files :=
    exists_eq_ok_of_isOk (by decide +kernel)
  obtain ⟨modules, made, -, returns⟩ := registration_of_acyclic (fun _ => []) (by decide) (by decide)
    (by decide) (by decide +kernel) acyclic generated
  refine ⟨modules, made, ?_⟩
  intro emitted inside
  apply (returns emitted inside).1.mpr
  intro other reached
  obtain ⟨_, -, last⟩ := TransGen.tail'_iff.mp reached
  rw [((refers ..).mp last).2]
  decide

/-- The class name of a schema whose id begins with a digit is no name. The module that refers to it
calls it none the less, so it never registers its own schema. -/
theorem registration_stops_at_digit :
    let definitions := [Definition.referringTo "a.B" ["#/definitions/3scale.Tenant"],
      .referringTo "3scale.Tenant" []]
    (definitions.map (·.id)).Nodup ∧ SelfContained definitions ∧
      (∀ id, ¬ TransGen (RefersTo definitions) id id) ∧
      (Settings.standard.generate definitions).isOk ∧
      ∃ modules, definitions.mapM Settings.standard.moduleOf = .ok modules ∧
        ∃ emitted ∈ modules, emitted.id = "a.B" ∧
          ∀ published ids, ¬ (Bundle.mk .typescript modules published).Completes emitted ids := by
  intro definitions
  have first : (Definition.referringTo "a.B" ["#/definitions/3scale.Tenant"]).foreignReferences =
      .ok ["3scale.Tenant"] := by
    decide +kernel
  have second : (Definition.referringTo "3scale.Tenant" []).foreignReferences = .ok [] := by
    decide +kernel
  have refers (id other : String) :
      RefersTo definitions id other ↔ id = "a.B" ∧ other = "3scale.Tenant" := by
    rw [refersTo_cons_iff first, refersTo_cons_iff second]
    simp
  have distinct : (definitions.map (·.id)).Nodup := by decide
  have whole : SelfContained definitions := by decide +kernel
  have succeeds : (Settings.standard.generate definitions).isOk = true := by decide +kernel
  refine ⟨distinct, whole, ?_, succeeds, ?_⟩
  · exact not_transGen_of_pair (fun id other => (refers id other).mp) (by decide)
  · obtain ⟨files, generated⟩ := exists_eq_ok_of_isOk succeeds
    obtain ⟨modules, run, -⟩ := ClosedRun.of_generate distinct whole generated
    obtain ⟨emitted, inside, made⟩ := exists_result_of_mem run.made List.mem_cons_self
    have id : emitted.id = "a.B" := by
      obtain ⟨_, _, -, -, -, rfl⟩ := Settings.moduleOf_eq_ok_iff.mp made
      rfl
    refine ⟨modules, run.made, emitted, inside, id, ?_⟩
    intro published ids completes
    have linked := Bundle.linked_of_performs (Bundle.completes_iff.mp completes)
    have named := (run.linked_iff inside).mp linked "a.B" "3scale.Tenant"
    rw [id] at named
    exact absurd (named .refl ((refers ..).mpr ⟨rfl, rfl⟩)) (by decide)

end Registrar
