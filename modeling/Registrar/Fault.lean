import Registrar.Files.Trouble
import Registrar.Json.Printer

/-!
# Faults

Every reason for which a step of the generator refuses its input. A fault is a cause with the data
its text needs; the wording is in one place. Faults of malformed values have no text: they are not
meant to be read by a user of the command line.
-/

namespace Registrar

/-- Why a step refused its input. -/
inductive Fault where
  /-- Fields are asked of a value that is not an object. -/
  | notAnObject (found : Json.Kind)
  /-- Members are asked of a value that has none. -/
  | noMembers (found : Json.Kind)
  /-- A text or a list is asked for the value of a key. -/
  | notKeyed (found : Json.Kind)
  /-- A value that is not an object cannot be read as a list of pairs. -/
  | notPairs
  /-- A list or an object stands where a key is needed. -/
  | compoundKey (found : Json.Kind)
  /-- A text stands where a list of schemas is to be rebuilt. -/
  | textForSchemas
  /-- A key is set on a value that is not an object. -/
  | notWritable (found : Json.Kind)
  /-- A field that holds one schema holds something else. -/
  | notASchema (field : String) (found : Json.Kind)
  /-- A reference is neither a text nor an embedded schema. -/
  | badReference (value : Json)
  /-- The settings name a language that is not known. -/
  | unknownLanguage (value : Json)
  /-- The settings name an overwrite mode that is not known. -/
  | unknownMode (mode : String)
  /-- The output settings are not an object. -/
  | noOutputPolicy (found : Json.Kind)
  /-- The overwrite mode is not a text. -/
  | modeWithoutName (found : Json.Kind)
  /-- A package is asked for schemas that are generated locally. -/
  | noPackage (domain : String)
  /-- A document has no section of schema definitions. -/
  | noDefinitions
  /-- Two schema ids have the same output path. -/
  | sharedPath (first second path : String)
  /-- Two dependencies of a schema have the same alias. -/
  | sharedAlias (id first second name : String)
  /-- A dependency would be imported from the module that depends on it. -/
  | selfImport (id dependency path : String)
  /-- A path is written twice in one run. -/
  | duplicatePath (path : String)
  /-- A generated file stands already at its path. -/
  | outputExists (path : String)
  /-- Generated Python code holds the character U+0000. -/
  | nullCharacter
  /-- Generated Python code cannot be encoded. -/
  | unencodable (cause : Unencodable)
  /-- Generated Python code does not parse. -/
  | invalidPython (path : String)
  /-- Generated code opens and closes different numbers of braces. -/
  | unbalancedBraces (path : String) (opened closed : Nat)
  /-- Generated code holds no registration call. -/
  | noRegistration (path : String)
  /-- A text that should be JSON is not. -/
  | malformedJson
  /-- The file tree refused a step. -/
  | files (trouble : Files.Trouble)
  deriving DecidableEq, Repr

/-- The text of a fault that is written for the user. -/
def Fault.text? : Fault → Option String
  | .notASchema field found =>
      some ("Expected a schema object for '" ++ field ++ "', got " ++ found.word)
  | .badReference value =>
      some ("Unexpected $ref value of type " ++ value.kind.word ++ ": " ++ value.shown)
  | .unknownLanguage value => some ("Language not supported: " ++ value.inserted)
  | .unknownMode mode => some (Json.shownText mode ++ " is not a valid OutputMode")
  | .noPackage domain => some ("Domain " ++ domain ++ " has no package")
  | .noDefinitions =>
      some "OpenAPI document has neither 'definitions' nor 'components.schemas'"
  | .sharedPath first second path =>
      some (first ++ " and " ++ second ++ " both map to " ++ path)
  | .sharedAlias id first second name =>
      some (id ++ ": " ++ first ++ " and " ++ second ++ " share the alias " ++ name)
  | .selfImport id dependency path =>
      some (id ++ ": " ++ dependency ++ " would import " ++ path ++ " from itself")
  | .duplicatePath path => some ("Duplicate output path: " ++ path)
  | .outputExists path =>
      some ("Output file already exists: " ++ path ++ ". Use force mode to overwrite.")
  | .invalidPython path => some ("Generated Python code is not valid in " ++ path)
  | .unbalancedBraces path opened closed =>
      some ("Generated code in " ++ path ++ " has unbalanced braces: " ++ toString opened ++
        " open, " ++ toString closed ++ " close")
  | .noRegistration path =>
      some ("Generated code in " ++ path ++ " does not register its schema")
  | _ => none

end Registrar
