import Registrar.Proofs.Registration.Completeness

/-!
# Schemas that refer to each other

A generated module does not call its own function, since a definition does not depend on itself. Longer
cycles are kept: the function of each module calls the next one before it registers anything. So the
function of a module comes to its own registration only if no schema within its reach reaches itself.

Schemas of published packages are left to the packages, whose functions are taken to return.
-/

namespace Registrar

open Relation

/-- The function of a module comes to its own registration, its last one, just when all schemas that are
referred to within its reach have names of the language and none of them reaches itself. With all names
and a cycle it runs for ever. -/
theorem registration_of_any_references {settings : Settings} {definitions : List Definition}
    {files : List GeneratedFile} (published : Json → List String)
    (distinct : (definitions.map (·.id)).Nodup) (whole : SelfContained definitions)
    (generated : settings.generate definitions = .ok files) :
    ∃ modules, definitions.mapM settings.moduleOf = .ok modules ∧
      modules.mapM settings.fileFor = .ok files ∧
      ∀ emitted ∈ modules,
        let named := ∀ id other, ReflTransGen (RefersWithin settings definitions) emitted.id id →
          RefersTo definitions id other → settings.language.canName (settings.className other) = true
        let acyclic := ∀ id, ReflTransGen (RefersWithin settings definitions) emitted.id id →
          ¬ TransGen (RefersWithin settings definitions) id id
        ((∃ before, (Bundle.mk settings.language modules published).Completes emitted
            (before ++ [emitted.id])) ↔ named ∧ acyclic) ∧
          (named → ¬ acyclic →
            (Bundle.mk settings.language modules published).RunsForever emitted) := by
  obtain ⟨modules, run, rendered⟩ := ClosedRun.of_generate distinct whole generated
  refine ⟨modules, run.made, rendered, ?_⟩
  intro emitted inside named acyclic
  constructor
  · rw [← run.completes_iff inside]
    constructor
    · rintro ⟨before, completes⟩
      exact ⟨_, completes⟩
    · rintro ⟨ids, completes⟩
      obtain ⟨before, rfl⟩ := (Bundle.completes_iff.mp completes).last
      exact ⟨before, completes⟩
  · intro all endless
    obtain ⟨id, around⟩ := not_forall.mp endless
    obtain ⟨reached, cycle⟩ := Classical.not_imp.mp around
    exact run.runsForever_of_cycle inside all reached (not_not.mp cycle)

theorem registration_of_self_reference :
    let definitions := [Definition.referringTo "a.B" ["#/definitions/a.B"]]
    ∃ modules, definitions.mapM Settings.standard.moduleOf = .ok modules ∧
      ∀ emitted ∈ modules, ∃ before,
        (Bundle.mk .typescript modules fun _ => []).Completes emitted (before ++ [emitted.id]) := by
  intro definitions
  have read : (Definition.referringTo "a.B" ["#/definitions/a.B"]).foreignReferences = .ok [] := by
    decide +kernel
  have refers (id other : String) : ¬ RefersTo definitions id other := by
    rw [refersTo_cons_iff read]
    simp
  obtain ⟨files, generated⟩ : ∃ files, Settings.standard.generate definitions = .ok files :=
    exists_eq_ok_of_isOk (by decide +kernel)
  obtain ⟨modules, made, -, outcome⟩ := registration_of_any_references (fun _ => []) (by decide)
    (by decide +kernel) generated
  refine ⟨modules, made, ?_⟩
  intro emitted inside
  apply (outcome emitted inside).1.mpr
  constructor
  · intro id other _ refer
    exact absurd refer (refers id other)
  · intro id _ cycle
    obtain ⟨_, start, -⟩ := TransGen.head'_iff.mp cycle
    exact refers _ _ start.1

/-- Two schemas that refer to each other have functions that call each other for ever. -/
theorem registration_of_mutual_references :
    let definitions := [Definition.referringTo "a.B" ["#/definitions/a.C"],
      .referringTo "a.C" ["#/definitions/a.B"]]
    (definitions.map (·.id)).Nodup ∧ SelfContained definitions ∧
      (Settings.standard.generate definitions).isOk ∧
      ∃ modules, definitions.mapM Settings.standard.moduleOf = .ok modules ∧
        ∃ emitted ∈ modules, emitted.id = "a.B" ∧ ∀ published,
          (Bundle.mk .typescript modules published).RunsForever emitted ∧
            ∀ ids, ¬ (Bundle.mk .typescript modules published).Completes emitted ids := by
  intro definitions
  have first : (Definition.referringTo "a.B" ["#/definitions/a.C"]).foreignReferences = .ok ["a.C"] := by
    decide +kernel
  have second : (Definition.referringTo "a.C" ["#/definitions/a.B"]).foreignReferences =
      .ok ["a.B"] := by
    decide +kernel
  have refers (id other : String) : RefersTo definitions id other ↔
      id = "a.B" ∧ other = "a.C" ∨ id = "a.C" ∧ other = "a.B" := by
    rw [refersTo_cons_iff first, refersTo_cons_iff second]
    simp
  have distinct : (definitions.map (·.id)).Nodup := by decide
  have whole : SelfContained definitions := by decide +kernel
  have succeeds : (Settings.standard.generate definitions).isOk = true := by decide +kernel
  refine ⟨distinct, whole, succeeds, ?_⟩
  obtain ⟨files, generated⟩ := exists_eq_ok_of_isOk succeeds
  obtain ⟨modules, run, -⟩ := ClosedRun.of_generate distinct whole generated
  obtain ⟨emitted, inside, made⟩ := exists_result_of_mem run.made List.mem_cons_self
  have id : emitted.id = "a.B" := by
    obtain ⟨_, _, -, -, -, rfl⟩ := Settings.moduleOf_eq_ok_iff.mp made
    rfl
  have there : RefersWithin .standard definitions "a.B" "a.C" :=
    ⟨(refers ..).mpr (.inl ⟨rfl, rfl⟩), by decide⟩
  have back : RefersWithin .standard definitions "a.C" "a.B" :=
    ⟨(refers ..).mpr (.inr ⟨rfl, rfl⟩), by decide⟩
  have cycle : TransGen (RefersWithin .standard definitions) "a.B" "a.B" := .tail (.single there) back
  refine ⟨modules, run.made, emitted, inside, id, ?_⟩
  rw [← id] at cycle
  intro published
  constructor
  · apply run.runsForever_of_cycle inside ?_ .refl cycle
    intro _ other _ refer
    rcases (refers ..).mp refer with ⟨-, rfl⟩ | ⟨-, rfl⟩ <;> decide
  · intro ids completes
    exact ((run.completes_iff inside).mp ⟨ids, completes⟩).2 _ .refl cycle

end Registrar
