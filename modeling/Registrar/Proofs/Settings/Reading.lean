import Registrar.Proofs.Steps
import Registrar.Settings

/-!
# Reading settings

Settings are read from the values of their keys. What is read of an object thus depends on it by what stands
at these keys alone. Output settings that are an object have keys of their own.
-/

namespace Registrar

namespace Settings

variable {fields inner : List (String × Json)} {settings : Settings} {setting : OutputSetting}
  {mode : OverwriteMode} {text : String}

/-- A mode is named by a text just when the text is its name. -/
theorem readMode_str_eq_ok_iff : readMode (.str text) = .ok mode ↔ modeName mode = .ok text := by
  constructor
  · intro named
    by_cases refusing : text = "error"
    · subst refusing
      cases named
      rfl
    · by_cases forcing : text = "force"
      · subst forcing
        cases named
        rfl
      · simp [readMode] at named
  · intro written
    cases mode with
    | refuse =>
        cases written
        rfl
    | overwrite =>
        cases written
        rfl
    | unnamed value => cases written

/-- The mode that a value gives if there is one. -/
def modeGiven : Option Json → Except Fault OverwriteMode
  | none => .ok .refuse
  | some value => readMode value

/-- The policy that an object gives, with the mode that is read. -/
def policyGiven (inner : List (String × Json)) (mode : OverwriteMode) : OutputPolicy where
  mode
  validate := (Json.field? "validate_before_write" inner).getD (.bool true)
  atomic := (Json.field? "atomic_write" inner).getD (.bool true)

/-- Output settings that are an object give a policy, with the mode that is stated or the one that
refuses. -/
theorem readOutput_obj_eq_ok_iff :
    readOutput (.obj inner) = .ok setting ↔
      ∃ mode, modeGiven (Json.field? "mode" inner) = .ok mode ∧
        setting = .stated (policyGiven inner mode) := by
  have whole : readOutput (.obj inner) =
      (modeGiven (Json.field? "mode" inner)).bind fun mode => .ok (.stated (policyGiven inner mode)) := by
    cases stated : Json.field? "mode" inner <;> (rw [readOutput, stated]; rfl)
  rw [whole]
  constructor
  · intro found
    obtain ⟨mode, named, same⟩ := bind_eq_ok_iff.mp found
    exact ⟨mode, named, (Except.ok.inj same).symm⟩
  · rintro ⟨mode, named, rfl⟩
    rw [named]
    rfl

/-- The output settings that a value gives if there is one. -/
def outputGiven : Option Json → Except Fault OutputSetting
  | none => .ok (.stated .standard)
  | some value => readOutput value

/-- The settings that the values of keys give, with the language and the output settings that are read. -/
def ofGiven (given : String → Option Json) (language : Language) (output : OutputSetting) : Settings where
  language
  externalApimachinery := (given "external_apimachinery").getD (.bool false)
  externalKubernetesModels := (given "external_kubernetes_models").getD (.bool false)
  apimachineryPackage := packageOr language.apimachineryPackage (given "apimachinery_package")
  kubernetesModelsPackage := packageOr language.kubernetesPackage (given "kubernetes_models_package")
  registerModule := packageOr language.registerModule (given "register_module")
  qualifiedClassNames := (given "qualified_class_names").getD (.bool true)
  output

/-- Settings are read from the values of keys, the output settings before the language. -/
theorem read_obj (fields : List (String × Json)) :
    read (.obj fields) =
      (outputGiven (Json.field? "output" fields)).bind fun output =>
        (readLanguage ((Json.field? "language" fields).getD (.str "typescript"))).bind fun language =>
          .ok (ofGiven (fun key => Json.field? key fields) language output) := by
  cases outputs : Json.field? "output" fields with
  | none =>
      rw [read, outputs]
      rfl
  | some value =>
      rw [read, outputs]
      rfl

theorem read_obj_eq_ok_iff :
    read (.obj fields) = .ok settings ↔ ∃ output language,
      outputGiven (Json.field? "output" fields) = .ok output ∧
      readLanguage ((Json.field? "language" fields).getD (.str "typescript")) = .ok language ∧
      settings = ofGiven (fun key => Json.field? key fields) language output := by
  rw [read_obj]
  constructor
  · intro found
    obtain ⟨output, stated, rest⟩ := bind_eq_ok_iff.mp found
    obtain ⟨language, named, whole⟩ := bind_eq_ok_iff.mp rest
    exact ⟨output, language, stated, named, (Except.ok.inj whole).symm⟩
  · rintro ⟨output, language, stated, named, rfl⟩
    rw [stated, named]
    rfl

/-- The output settings of what is read are those of their key, and else the standard ones. -/
theorem outputGiven_of_read (found : read (.obj fields) = .ok settings) :
    outputGiven (Json.field? "output" fields) = .ok settings.output := by
  obtain ⟨output, language, given, -, rfl⟩ := read_obj_eq_ok_iff.mp found
  exact given

end Settings

end Registrar
