import Registrar.Proofs.FirstOccurrences
import Registrar.Proofs.Generation.Checks
import Registrar.Proofs.Imports.Grouping
import Registrar.Validation

/-!
# What the file of a definition is made of

A file that is generated for a definition shows what it was made from: the ids that the definition refers
to, which passed their checks, the schema that is embedded, and the groups of the imports. Its text is put
together from the statements for these groups, the text of the schema, one call for each id in order, and
the registration of the definition's own schema.
-/

namespace Registrar

namespace Language

/-- What stands in a module before the statements of its registration function. -/
def moduleHead (language : Language) (imports schema : String) : String :=
  match language with
  | .typescript =>
      imports ++ "\n\nconst schema: object = " ++ schema ++ ";\n\nexport function " ++
        language.registerFunction ++ "() \x7b\n"
  | .python =>
      imports ++ "\n\nschema: dict = " ++ schema ++ "\n\n\ndef " ++
        language.registerFunction ++ "() -> None:\n"

/-- The statement that registers the schema of a module. -/
def ownRegistration (language : Language) (id : String) : String :=
  match language with
  | .typescript => "  register(" ++ quoted .ascii id ++ ", schema);\n"
  | .python => "    register(" ++ quoted .ascii id ++ ", schema)\n"

/-- What stands in a module behind the statements of its registration function. -/
def moduleEnd : Language → String
  | .typescript => "\x7d\n"
  | .python => ""

/-- The registration function of a module makes its calls in their order and then registers the schema
of the module. -/
theorem moduleText_eq (language : Language) (imports schema id : String) (aliases : List String) :
    language.moduleText imports schema id aliases =
      language.moduleHead imports schema ++
        String.join (aliases.map language.registrationCall ++ [language.ownRegistration id]) ++
        language.moduleEnd := by
  cases language <;>
    simp [moduleText, moduleHead, ownRegistration, moduleEnd, String.append_assoc, registerFunction]

end Language

namespace Settings

/-- The imports of a module that refers to other schemas. -/
def importsFor (settings : Settings) (targets : List String) : List Import :=
  settings.registerImport :: (targets.map settings.dependencyOn).map settings.dependencyImport

variable {settings : Settings}

theorem mem_importsFor {targets : List String} {imported : Import} :
    imported ∈ settings.importsFor targets ↔ imported = settings.registerImport ∨
      ∃ target ∈ targets, imported = settings.dependencyImport (settings.dependencyOn target) := by
  simp [importsFor, eq_comm]

/-- The paths of dependencies are texts, and no other key is a text. -/
theorem exactKeys_importsFor (targets : List String) : ExactKeys (settings.importsFor targets) := by
  intro first here second there same
  rcases mem_importsFor.mp here with rfl | ⟨target, -, rfl⟩
  · rcases mem_importsFor.mp there with rfl | ⟨target, -, rfl⟩
    · rfl
    · exact Json.eq_str_of_sameKey same
  · exact (Json.eq_str_of_sameKey (Json.sameKey_comm.trans same)).symm

/-- Dependencies with different aliases have different imports. -/
theorem nodup_importsFor {targets : List String} (different : targets.Nodup)
    (alone : ∀ first ∈ targets, ∀ second ∈ targets,
      settings.className first = settings.className second → first = second) :
    (settings.importsFor targets).Nodup := by
  rw [importsFor, List.nodup_cons, List.map_map]
  constructor
  · intro member
    obtain ⟨target, -, same⟩ := List.mem_map.mp member
    simp [dependencyImport, registerImport] at same
  · apply List.Nodup.map_on _ different
    intro first here second there same
    apply alone first here second there
    simpa [dependencyImport, dependencyOn] using congrArg Import.binding same

/-- The module of a definition that refers to some schemas and has a schema of its own. -/
def moduleFor (settings : Settings) (definition : Definition) (targets : List String) (schema : Json) : RegistrationModule where
  id := definition.id
  path := settings.schemaPath definition.id
  imports := settings.importsFor targets
  schema := settings.language.schemaText schema
  dependencies := targets.map settings.dependencyOn

theorem moduleOf_eq (settings : Settings) (definition : Definition) : settings.moduleOf definition =
    definition.foreignReferences >>= fun targets =>
      settings.checkDependencies definition (targets.map settings.dependencyOn) >>= fun _ =>
        definition.embeddedSchema >>= fun schema => .ok (settings.moduleFor definition targets schema) := by
  rw [moduleOf, dependenciesOf]
  cases definition.foreignReferences with
  | error fault => rfl
  | ok targets =>
      change (settings.checkDependencies definition (targets.map settings.dependencyOn) >>= _) = _
      simp only [compile]
      cases definition.embeddedSchema <;> rfl

/-- A module has a file just when its imports can be grouped. The file has the path of the module, and its
text begins with the statements for the groups. -/
theorem fileFor_eq_ok_iff {generated : RegistrationModule} {file : GeneratedFile} :
    settings.fileFor generated = .ok file ↔ ∃ groups, groupImports generated.imports = .ok groups ∧
      file = ⟨generated.path, settings.language.moduleText
        ("\n".intercalate (groups.map settings.language.importStatement)) generated.schema generated.id
        generated.aliases⟩ := by
  rw [fileFor, Language.render, Language.importStatements]
  cases groupImports generated.imports with
  | error fault => simp [bind, Except.bind]
  | ok groups => simp [bind, Except.bind, pure, Except.pure, eq_comm]

theorem path_of_fileFor {generated : RegistrationModule} {file : GeneratedFile}
    (made : settings.fileFor generated = .ok file) : file.path = generated.path := by
  obtain ⟨groups, -, rfl⟩ := fileFor_eq_ok_iff.mp made
  rfl

/-- A module has a file if the place of the registry can serve as a key. -/
theorem exists_fileFor {generated : RegistrationModule} (usable : checkKey settings.registerModule = .ok ())
    (imports : generated.imports = settings.registerImport ::
      generated.dependencies.map settings.dependencyImport) :
    ∃ file, settings.fileFor generated = .ok file := by
  have keys : ∀ imported ∈ generated.imports, checkKey imported.path = .ok () := by
    rw [imports]
    intro imported member
    rcases List.mem_cons.mp member with rfl | other
    · exact usable
    · obtain ⟨dependency, -, rfl⟩ := List.mem_map.mp other
      rfl
  obtain ⟨groups, grouped⟩ := exists_groupImports keys
  exact ⟨_, fileFor_eq_ok_iff.mpr ⟨groups, grouped, rfl⟩⟩

end Settings

/-- A list of different items holds one that fits when only this one does. -/
theorem filter_eq_singleton {α : Type} [DecidableEq α] {items : List α} {item : α} {fits : α → Bool}
    (different : items.Nodup) (member : item ∈ items)
    (alone : ∀ other ∈ items, fits other = true ↔ other = item) : items.filter fits = [item] := by
  have same : items.filter fits = items.filter (· == item) := by
    apply List.filter_congr
    intro other inside
    rw [Bool.eq_iff_iff, alone other inside, beq_iff_eq]
  rw [same, List.filter_beq, List.count_eq_one_of_mem different member, List.replicate_one]

/-- A definition refers to each other schema once. -/
theorem Definition.nodup_foreignReferences {definition : Definition} {targets : List String}
    (read : definition.foreignReferences = .ok targets) : targets.Nodup := by
  obtain ⟨all, collected, rest⟩ := bind_eq_ok_iff.mp read
  obtain rfl := pure_eq_ok_iff.mp rest
  obtain ⟨nodes, -, more⟩ := bind_eq_ok_iff.mp collected
  obtain ⟨found, -, whole⟩ := bind_eq_ok_iff.mp more
  obtain rfl := pure_eq_ok_iff.mp whole
  exact (nodup_eraseDups _).filter _

theorem occursIn_append_left {part text : List Char} (before : List Char)
    (inside : occursIn part text = true) : occursIn part (before ++ text) = true := by
  obtain ⟨front, back, rfl⟩ := (occursIn_iff part text).mp inside
  exact (occursIn_iff ..).mpr ⟨before ++ front, back, by simp only [List.append_assoc]⟩

theorem occursIn_append_right {part text : List Char} (inside : occursIn part text = true)
    (after : List Char) : occursIn part (text ++ after) = true := by
  obtain ⟨front, back, rfl⟩ := (occursIn_iff part text).mp inside
  exact (occursIn_iff ..).mpr ⟨front, back ++ after, by simp only [List.append_assoc]⟩

/-- What the file of a definition is made of. -/
structure Emission (settings : Settings) (definition : Definition) (file : GeneratedFile) where
  targets : List String
  schema : Json
  groups : List ImportGroup
  read : definition.foreignReferences = .ok targets
  passed : settings.checkDependencies definition (targets.map settings.dependencyOn) = .ok ()
  embedded : definition.embeddedSchema = .ok schema
  grouped : groupImports (settings.importsFor targets) = .ok groups
  path : file.path = settings.schemaPath definition.id
  content : file.content = settings.language.moduleHead
      ("\n".intercalate (groups.map settings.language.importStatement))
      (settings.language.schemaText schema) ++
    String.join ((targets.map settings.className).map settings.language.registrationCall ++
      [settings.language.ownRegistration definition.id]) ++ settings.language.moduleEnd

namespace Emission

variable {settings : Settings} {definition : Definition} {file : GeneratedFile}

/-- A file that is generated is made of something. -/
theorem of_fileOf (generated : settings.fileOf definition = .ok file) :
    Nonempty (Emission settings definition file) := by
  obtain ⟨emitted, made, rest⟩ := bind_eq_ok_iff.mp generated
  obtain ⟨text, rendered, whole⟩ := bind_eq_ok_iff.mp rest
  obtain rfl := pure_eq_ok_iff.mp whole
  obtain ⟨targets, code, read, passed, compiled, rfl⟩ := Settings.moduleOf_eq_ok_iff.mp made
  obtain ⟨schema, embedded, spelled⟩ := bind_eq_ok_iff.mp compiled
  obtain rfl := pure_eq_ok_iff.mp spelled
  obtain ⟨statements, imported, put⟩ := bind_eq_ok_iff.mp rendered
  obtain rfl := pure_eq_ok_iff.mp put
  obtain ⟨groups, grouped, joined⟩ := bind_eq_ok_iff.mp imported
  obtain rfl := pure_eq_ok_iff.mp joined
  refine ⟨⟨targets, schema, groups, read, passed, embedded, grouped, rfl, ?_⟩⟩
  have aliases : (targets.map settings.dependencyOn).map (·.localName) =
      targets.map settings.className := by
    rw [List.map_map]
    rfl
  rw [Language.moduleText_eq, RegistrationModule.aliases, aliases]

variable (emission : Emission settings definition file)

/-- The dependencies of a definition are those on the schemas it refers to. -/
theorem dependenciesOf_eq :
    settings.dependenciesOf definition = .ok (emission.targets.map settings.dependencyOn) := by
  rw [Settings.dependenciesOf, emission.read]
  rfl

/-- Schemas that a definition refers to have different class names. -/
theorem className_injOn : ∀ first ∈ emission.targets, ∀ second ∈ emission.targets,
    settings.className first = settings.className second → first = second := by
  simpa [Settings.dependencyOn] using (Settings.checkDependencies_eq_ok_iff.mp emission.passed).1

/-- The import statements of a file write the imports of its module. -/
theorem grouping : IsGrouping emission.groups (settings.importsFor emission.targets) := by
  apply groups_of_groupImports (Settings.exactKeys_importsFor _) _ emission.grouped
  exact Settings.nodup_importsFor (Definition.nodup_foreignReferences emission.read)
    emission.className_injOn

include emission in
/-- A generated file holds the begin of a registration call. -/
theorem occursIn_registrationMark : occursIn registrationMark file.content.toList = true := by
  have own : occursIn registrationMark (settings.language.ownRegistration definition.id).toList = true := by
    cases settings.language with
    | typescript =>
        simp only [Language.ownRegistration, String.toList_append]
        exact occursIn_append_right (occursIn_append_right (by decide) _) _
    | python =>
        simp only [Language.ownRegistration, String.toList_append]
        exact occursIn_append_right (occursIn_append_right (by decide) _) _
  rw [emission.content, String.join_append, String.join_cons, String.join_nil, String.append_empty]
  simp only [String.toList_append]
  exact occursIn_append_right (occursIn_append_left _ (occursIn_append_left _ own)) _

end Emission

end Registrar
