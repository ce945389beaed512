/-!
# Output languages

The languages in which modules are generated, with the words that depend on the language alone.
-/

namespace Registrar

/-- A language in which modules are generated. -/
inductive Language where
  | typescript
  | python
  deriving DecidableEq, Repr

namespace Language

/-- The name of a language in settings. -/
def name : Language → String
  | .typescript => "typescript"
  | .python => "python"

/-- The language of a name. -/
def ofName? (name : String) : Option Language :=
  [typescript, python].find? (·.name = name)

/-- The ending of generated files. -/
def extension : Language → String
  | .typescript => ".ts"
  | .python => ".py"

/-- The function that every generated module defines. -/
def registerFunction : Language → String
  | .typescript => "addSchema"
  | .python => "add_schema"

/-- The package of the published apimachinery schemas. -/
def apimachineryPackage : Language → String
  | .typescript => "@kubernetes-models/apimachinery"
  | .python => "kubernetes_models.apimachinery"

/-- The package of the published Kubernetes schemas. -/
def kubernetesPackage : Language → String
  | .typescript => "kubernetes-models"
  | .python => "kubernetes_models"

/-- The module that defines the registry. -/
def registerModule : Language → String
  | .typescript => "@kubernetes-models/validate"
  | .python => "kubernetes_models.validate"

theorem ofName?_name (language : Language) : ofName? language.name = some language := by
  cases language <;> decide

theorem name_of_ofName? {name : String} {language : Language}
    (h : ofName? name = some language) : language.name = name := by
  have found := List.find?_some h
  simpa using found

end Language

end Registrar
