import Registrar.Fault
import Registrar.Language

/-!
# Settings

The settings of a run are read from a JSON object. Keys that are not known are ignored. Flags may
be any value and count by whether they are true; packages may be any value, and a package that is
null is the default of the language.

What the output settings say is checked only as far as reading goes: a mode that is a text has to
be a known one, but a mode of another kind and output settings that are not an object are kept as
they are, and show their fault only where they are used.
-/

namespace Registrar

/-- What to do with a file that stands at the path of a generated one. -/
inductive OverwriteMode where
  | refuse
  | overwrite
  /-- A value that names no mode. It does not refuse. -/
  | unnamed (value : Json)
  deriving DecidableEq, Repr

/-- How generated files are written. -/
structure OutputPolicy where
  mode : OverwriteMode
  validate : Json
  atomic : Json
  deriving DecidableEq, Repr

/-- Refuse to overwrite, check before writing, and replace files in one step. -/
def OutputPolicy.standard : OutputPolicy := ⟨.refuse, .bool true, .bool true⟩

/-- The output settings as read: a policy, or a value that is none. -/
inductive OutputSetting where
  | stated (policy : OutputPolicy)
  | unread (value : Json)
  deriving DecidableEq, Repr

/-- The policy under which files are written. A value that counts as false stands for the
standard policy. -/
def OutputSetting.effective : OutputSetting → Except Fault OutputPolicy
  | .stated policy => .ok policy
  | .unread value =>
      if value.truthy then .error (.noOutputPolicy value.kind) else .ok .standard

/-- The settings of a run. -/
structure Settings where
  language : Language
  externalApimachinery : Json
  externalKubernetesModels : Json
  apimachineryPackage : Json
  kubernetesModelsPackage : Json
  registerModule : Json
  qualifiedClassNames : Json
  output : OutputSetting
  deriving DecidableEq, Repr

namespace Settings

/-- The mode that a value names. A text has to name one. -/
def readMode : Json → Except Fault OverwriteMode
  | .str "error" => .ok .refuse
  | .str "force" => .ok .overwrite
  | .str mode => .error (.unknownMode mode)
  | value => .ok (.unnamed value)

/-- The output settings that a value gives. -/
def readOutput : Json → Except Fault OutputSetting
  | .obj fields => do
      let mode ← match Json.field? "mode" fields with
        | none => pure .refuse
        | some value => readMode value
      return .stated {
        mode
        validate := (Json.field? "validate_before_write" fields).getD (.bool true)
        atomic := (Json.field? "atomic_write" fields).getD (.bool true) }
  | value => .ok (.unread value)

/-- The language that a value names. -/
def readLanguage : Json → Except Fault Language
  | .str name =>
      match Language.ofName? name with
      | some language => .ok language
      | none => .error (.unknownLanguage (.str name))
  | value => .error (.unknownLanguage value)

/-- A package, or the default where there is none. -/
def packageOr (default : String) : Option Json → Json
  | none => .str default
  | some .null => .str default
  | some value => value

/-- The settings that a JSON value gives. A mode that is not known is found before a language that
is not. -/
def read : Json → Except Fault Settings
  | .obj fields => do
      let output ← match Json.field? "output" fields with
        | none => pure (.stated .standard)
        | some value => readOutput value
      let language ← readLanguage ((Json.field? "language" fields).getD (.str "typescript"))
      let flag (key : String) (default : Bool) : Json :=
        (Json.field? key fields).getD (.bool default)
      return {
        language
        externalApimachinery := flag "external_apimachinery" false
        externalKubernetesModels := flag "external_kubernetes_models" false
        apimachineryPackage :=
          packageOr language.apimachineryPackage (Json.field? "apimachinery_package" fields)
        kubernetesModelsPackage :=
          packageOr language.kubernetesPackage (Json.field? "kubernetes_models_package" fields)
        registerModule :=
          packageOr language.registerModule (Json.field? "register_module" fields)
        qualifiedClassNames := flag "qualified_class_names" true
        output }
  | other => .error (.notAnObject other.kind)

/-- The name of a mode. -/
def modeName : OverwriteMode → Except Fault String
  | .refuse => .ok "error"
  | .overwrite => .ok "force"
  | .unnamed value => .error (.modeWithoutName value.kind)

/-- The JSON object of output settings. -/
def writeOutput : OutputSetting → Except Fault Json
  | .stated policy => do
      return .obj [
        ("mode", .str (← modeName policy.mode)),
        ("validate_before_write", policy.validate),
        ("atomic_write", policy.atomic)]
  | .unread value => .error (.noOutputPolicy value.kind)

/-- The JSON object of settings, all keys in a fixed order. -/
def write (settings : Settings) : Except Fault Json := do
  return .obj [
    ("language", .str settings.language.name),
    ("external_apimachinery", settings.externalApimachinery),
    ("external_kubernetes_models", settings.externalKubernetesModels),
    ("apimachinery_package", settings.apimachineryPackage),
    ("kubernetes_models_package", settings.kubernetesModelsPackage),
    ("register_module", settings.registerModule),
    ("qualified_class_names", settings.qualifiedClassNames),
    ("output", ← writeOutput settings.output)]

/-- Make the run overwrite files. Output settings that are no policy have no mode to set. -/
def overwriting (settings : Settings) : Except Fault Settings :=
  match settings.output with
  | .stated policy => .ok { settings with output := .stated { policy with mode := .overwrite } }
  | .unread value => .error (.noOutputPolicy value.kind)

/-- Whether names are made from whole schema ids. -/
def qualified (settings : Settings) : Bool := settings.qualifiedClassNames.truthy

end Settings

end Registrar
