import Registrar.Dependency
import Registrar.Import

/-!
# Registration modules

One module is generated for each definition. It holds the schema as a constant and a function
that registers the schema after everything it refers to: first it calls the registration function
of each dependency, then it registers its own schema under its id.
-/

namespace Registrar

/-- All that is needed to write one generated file. The schema is a text of the output language,
and the imports begin with the one of the registry. -/
structure RegistrationModule where
  id : String
  path : String
  imports : List Import
  schema : String
  dependencies : List Dependency
  deriving DecidableEq, Repr

/-- The names under which a module imports the registration functions it calls. -/
def RegistrationModule.aliases (generated : RegistrationModule) : List String :=
  generated.dependencies.map (·.localName)

/-- A file that a run generates. -/
structure GeneratedFile where
  path : String
  content : String
  deriving DecidableEq, Repr

namespace Json

/-- The spelling of literals with the constants `None`, `True` and `False`. Texts are quoted as in
JSON, in quotes that read back the same. -/
def literal : Spelling where
  null := "None"
  yes := "True"
  no := "False"
  number := numberLayout "nan" "inf"
  quote := quoted .unicode

mutual
/-- A value with each item and field on a line of its own. Their texts are joined by the marks that stand
between them. -/
def joined (spelling : Spelling) (level : Nat) : Json → String
  | .arr (item :: rest) =>
      "[\n" ++ ",\n".intercalate (joinedItems spelling (level + 1) (item :: rest)) ++ "\n" ++ indent level ++
        "]"
  | .obj (field :: rest) =>
      "\x7b\n" ++ ",\n".intercalate (joinedFields spelling (level + 1) (field :: rest)) ++ "\n" ++
        indent level ++ "\x7d"
  | value => spelling.leaf value

/-- The texts of items, each on an indented line. -/
def joinedItems (spelling : Spelling) (level : Nat) : List Json → List String
  | [] => []
  | item :: rest => (indent level ++ joined spelling level item) :: joinedItems spelling level rest

/-- The texts of fields, each on an indented line with its key in front. -/
def joinedFields (spelling : Spelling) (level : Nat) : List (String × Json) → List String
  | [] => []
  | (key, value) :: rest =>
      (indent level ++ spelling.quote key ++ ": " ++ joined spelling level value) ::
        joinedFields spelling level rest
end

end Json

namespace Language

/-- How values are spelled in a language. -/
def spelling : Language → Json.Spelling
  | .typescript => Json.standard .unicode
  | .python => Json.literal

/-- A schema as a literal of a language. -/
def schemaText : Language → Json → String
  | .typescript, schema => schema.indented (Json.standard .unicode) 0
  | .python, schema => schema.joined Json.literal 0

/-- The call of a registration function. -/
def registrationCall : Language → String → String
  | .typescript, function => "  " ++ function ++ "();\n"
  | .python, function => "    " ++ function ++ "()\n"

/-- The text of a module, from its imports, its schema, its id and the functions it calls. -/
def moduleText (language : Language) (imports schema id : String) (aliases : List String) :
    String :=
  let calls := String.join (aliases.map language.registrationCall)
  let registered := quoted .ascii id
  match language with
  | .typescript =>
      imports ++ "\n\nconst schema: object = " ++ schema ++ ";\n\nexport function " ++
        language.registerFunction ++ "() \x7b\n" ++ calls ++
        "  register(" ++ registered ++ ", schema);\n\x7d\n"
  | .python =>
      imports ++ "\n\nschema: dict = " ++ schema ++ "\n\n\ndef " ++
        language.registerFunction ++ "() -> None:\n" ++ calls ++
        "    register(" ++ registered ++ ", schema)\n"

/-- The text of a registration module. -/
def render (language : Language) (generated : RegistrationModule) : Except Fault String := do
  let imports ← language.importStatements generated.imports
  return language.moduleText imports generated.schema generated.id generated.aliases

end Language

namespace Settings

/-- The import of the function that registers one schema. -/
def registerImport (settings : Settings) : Import :=
  ⟨settings.registerModule, ⟨"register", none⟩⟩

/-- The import of the registration function of a dependency, under its alias. -/
def dependencyImport (settings : Settings) (dependency : Dependency) : Import :=
  ⟨.str dependency.importPath,
    ⟨settings.language.registerFunction, some dependency.localName⟩⟩

end Settings

end Registrar
