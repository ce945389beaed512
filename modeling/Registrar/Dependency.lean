import Registrar.Naming
import Registrar.Settings

/-!
# Dependencies

A schema depends on the schemas it refers to. Each of them is registered by a module that is
generated in the same run, or by one of two published packages; the domain of its id and the
settings decide which. The local name, or alias, is the one under which its registration function
is imported.
-/

namespace Registrar

/-- Where the registration code of a schema lives. -/
inductive Domain where
  | apimachinery
  | kubernetesModels
  | generated
  deriving DecidableEq, Repr

/-- The name of a domain. -/
def Domain.name : Domain → String
  | .apimachinery => "apimachinery"
  | .kubernetesModels => "kubernetes_models"
  | .generated => "local"

/-- The domain of a name. -/
def Domain.ofName? (name : String) : Option Domain :=
  [Domain.apimachinery, .kubernetesModels, .generated].find? (·.name = name)

/-- A schema that another one refers to, with the import of its registration function. -/
structure Dependency where
  id : String
  domain : Domain
  localName : String
  importPath : String
  deriving DecidableEq, Repr

/-- Whether a dependency is registered by a published package. -/
def Dependency.isExternal (dependency : Dependency) : Bool :=
  dependency.domain ≠ .generated

namespace Language

/-- The module of a class that is generated beside the one that imports it. -/
def localModule : Language → String → String
  | .typescript, name => "./" ++ name
  | .python, name => "." ++ name

/-- A path with its steps separated by dots. -/
def dotted (path : String) : String :=
  String.ofList (path.toList.map fun c => if c = '/' then '.' else c)

/-- The module of a file in a published package. -/
def externalModule (language : Language) (package : Json) (path : String) : String :=
  match language with
  | .typescript => package.inserted ++ "/" ++ trimEnding ".ts" path
  | .python => package.inserted ++ "." ++ dotted (trimEnding ".py" path)

end Language

namespace Settings

/-- The path of the file that is generated for a schema id. -/
def schemaPath (settings : Settings) (id : String) : String :=
  Registrar.schemaPath settings.qualified settings.language.extension id

/-- The name for a schema id. -/
def className (settings : Settings) (id : String) : String :=
  Registrar.className settings.qualified id

/-- The domain of a schema id. The apimachinery schemas are also Kubernetes schemas and are looked
at first. -/
def domainOf (settings : Settings) (id : String) : Domain :=
  if settings.externalApimachinery.truthy && isApimachineryId id then .apimachinery
  else if settings.externalKubernetesModels.truthy && isKubernetesId id then .kubernetesModels
  else .generated

/-- The package of a published domain. -/
def packageFor (settings : Settings) : Domain → Except Fault Json
  | .apimachinery => .ok settings.apimachineryPackage
  | .kubernetesModels => .ok settings.kubernetesModelsPackage
  | .generated => .error (.noPackage Domain.generated.name)

/-- The module from which the registration function of a schema id is imported. -/
def importPath (settings : Settings) (id : String) : String :=
  match settings.packageFor (settings.domainOf id) with
  | .ok package => settings.language.externalModule package (settings.schemaPath id)
  | .error _ => settings.language.localModule (settings.className id)

/-- The dependency on a schema id. -/
def dependencyOn (settings : Settings) (id : String) : Dependency where
  id := id
  domain := settings.domainOf id
  localName := settings.className id
  importPath := settings.importPath id

end Settings

end Registrar
