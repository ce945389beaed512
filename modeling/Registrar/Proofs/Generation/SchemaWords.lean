import Registrar.Json.Reader
import Registrar.Proofs.Generation.Emission
import Registrar.Proofs.Generation.PythonText
import Registrar.Proofs.Generation.SchemaTexts
import Registrar.Proofs.Schema.Scalars

/-!
# The names in schemas of Python modules

Outside of quotes, the schema of a Python module holds the three constants of the language and, where a number
of the definition is not finite, one of two words that are no constants of it. A reader of documents makes an
infinity of each number that is too great, so such a word can come from an ordinary number.
-/

namespace Registrar

/-- A value is written as a constant of the language, or it is a number without digits. -/
theorem word?_cases {part : Json} {word : String} (spelt : Language.python.word? part = some word) :
    word ∈ ["True", "False", "None"] ∨
      ∃ x : Binary64, part = .float x ∧ x.isFinite = false ∧ word ∈ ["nan", "inf"] := by
  unfold Language.word? at spelt
  split at spelt <;> cases spelt
  · exact .inl (by decide)
  · exact .inl (by decide)
  · exact .inl (by decide)
  · exact .inr ⟨_, rfl, rfl, by decide⟩
  · exact .inr ⟨_, rfl, rfl, by decide⟩

theorem exists_word?_of_not_finite {x : Binary64} (digitless : x.isFinite = false) :
    ∃ word ∈ ["nan", "inf"], Language.python.word? (.float x) = some word := by
  cases x with
  | nan => exact ⟨_, by decide, rfl⟩
  | infinity negative => exact ⟨_, by decide, rfl⟩
  | finite => cases digitless

/-- The words in a literal are constants just when its numbers are finite. -/
theorem identifiersOf_constants_iff {value : Json} :
    (∀ word ∈ identifiersOf (Language.python.schemaText value), word ∈ ["True", "False", "None"]) ↔
      ∀ x, Json.IsPart (.float x) value → x.isFinite = true := by
  constructor
  · intro constants x inside
    by_contra digitless
    obtain ⟨word, other, spelt⟩ := exists_word?_of_not_finite (Bool.not_eq_true _ ▸ digitless)
    have apart : ∀ word ∈ ["nan", "inf"], word ∉ ["True", "False", "None"] := by decide
    exact apart word other (constants word (mem_identifiersOf_iff.mpr ⟨_, inside, spelt⟩))
  · intro finite word member
    obtain ⟨part, inside, spelt⟩ := mem_identifiersOf_iff.mp member
    rcases word?_cases spelt with constant | ⟨x, rfl, digitless, -⟩
    · exact constant
    · rw [finite x inside] at digitless
      cases digitless

theorem not_isPart_float_fixedSchemas {id : String} {schema : Json} (fixed : (id, schema) ∈ fixedSchemas)
    (x : Binary64) : ¬ Json.IsPart (.float x) schema := by
  simp only [fixedSchemas, List.mem_cons, Prod.mk.injEq, List.not_mem_nil, or_false] at fixed
  rcases fixed with ⟨-, rfl⟩ | ⟨-, rfl⟩ | ⟨-, rfl⟩ <;> simp

/-- The numbers of the schema that is written for a definition are finite just when those of the definition
are, or a fixed schema is written for it. -/
theorem isFinite_embeddedSchema_iff {definition : Definition} {schema : Json}
    (embedded : definition.embeddedSchema = .ok schema) :
    (∀ x, Json.IsPart (.float x) schema → x.isFinite = true) ↔
      definition.id ∈ fixedSchemas.map (·.1) ∨
        ∀ x, Json.IsPart (.float x) definition.schema → x.isFinite = true := by
  rw [Definition.embeddedSchema] at embedded
  cases fixed : Json.field? definition.id fixedSchemas with
  | some written =>
      rw [fixed] at embedded
      obtain rfl := Except.ok.inj embedded
      have member := Json.mem_of_field? fixed
      refine iff_of_true (fun x inside => absurd inside (not_isPart_float_fixedSchemas member x)) (.inl ?_)
      exact List.mem_map_of_mem (f := Prod.fst) member
  | none =>
      rw [fixed] at embedded
      rw [or_iff_right (Json.field?_eq_none_iff.mp fixed)]
      exact forall_congr' fun x => by rw [isPart_transform_redirect rfl embedded]

/-- The schema of a Python module stands in its file between the name of the schema and the registration
function. Outside of quotes it holds no words but constants and those for numbers without digits, and it holds
constants alone just when the definition has a fixed schema or only finite numbers. -/
theorem Settings.identifiersOf_schema_iff {settings : Settings} {definition : Definition}
    {file : GeneratedFile} (python : settings.language = .python)
    (generated : settings.fileOf definition = .ok file) :
    ∃ before schema after, settings.compile definition = .ok schema ∧
      file.content =
        before ++ "\n\nschema: dict = " ++ schema ++ "\n\n\ndef add_schema() -> None:\n" ++ after ∧
      (∀ word ∈ identifiersOf schema, word ∈ ["True", "False", "None"] ∨ word ∈ ["nan", "inf"]) ∧
      ((∀ word ∈ identifiersOf schema, word ∈ ["True", "False", "None"]) ↔
        definition.id ∈ fixedSchemas.map (·.1) ∨
          ∀ x, Json.IsPart (.float x) definition.schema → x.isFinite = true) := by
  obtain ⟨emission⟩ := Emission.of_fileOf generated
  have compiled : settings.compile definition = .ok (Language.python.schemaText emission.schema) := by
    rw [compile, emission.embedded, python]
    rfl
  refine ⟨"\n".intercalate (emission.groups.map settings.language.importStatement), _,
    String.join ((emission.targets.map settings.className).map settings.language.registrationCall ++
      [settings.language.ownRegistration definition.id]), compiled, ?_, ?_, ?_⟩
  · rw [emission.content, python]
    simp only [Language.moduleHead, Language.moduleEnd, Language.registerFunction, String.append_assoc,
      String.append_empty]
    rfl
  · intro word member
    obtain ⟨part, -, spelt⟩ := mem_identifiersOf_iff.mp member
    rcases word?_cases spelt with constant | ⟨_, -, -, other⟩
    · exact .inl constant
    · exact .inr other
  · rw [identifiersOf_constants_iff, isFinite_embeddedSchema_iff emission.embedded]

/-- A definition with constants and a fraction in a default value. -/
theorem Settings.identifiersOf_schema_of_default :
    let definition : Definition :=
      ⟨"a.B", .obj [("default", .arr [.null, .bool true, .bool false, .float (.ofDecimal true 25 (-1))])], []⟩
    ∃ file before schema after, standardPython.fileOf definition = .ok file ∧
      standardPython.compile definition = .ok schema ∧
      file.content =
        before ++ "\n\nschema: dict = " ++ schema ++ "\n\n\ndef add_schema() -> None:\n" ++ after ∧
      ∀ word ∈ identifiersOf schema, word ∈ ["True", "False", "None"] := by
  intro definition
  obtain ⟨file, generated⟩ := exists_eq_ok_of_isOk (x := standardPython.fileOf definition) (by decide +kernel)
  obtain ⟨before, schema, after, compiled, content, -, constants⟩ := identifiersOf_schema_iff rfl generated
  refine ⟨file, before, schema, after, generated, compiled, content, constants.mpr (.inr ?_)⟩
  intro x inside
  have only : x = .ofDecimal true 25 (-1) := by simpa [definition] using inside
  rw [only]
  decide +kernel

/-- A number in a document that is too great for binary64 is read as an infinity, and the module of its
definition is generated with a name that is bound nowhere. -/
theorem Settings.identifiersOf_schema_of_overflow :
    ∃ document definition file schema,
      Json.read? "\x7b\"definitions\": \x7b\"a.B\": \x7b\"default\": 1e400\x7d\x7d\x7d" = some document ∧
      Definition.extract document = .ok [definition] ∧
      standardPython.fileOf definition = .ok file ∧
      standardPython.compile definition = .ok schema ∧
      schema = "\x7b\n  \"default\": inf\n\x7d" ∧
      identifiersOf schema = ["inf"] := by
  refine ⟨.obj [("definitions", .obj [("a.B", .obj [("default", .float (.infinity false))])])],
    ⟨"a.B", .obj [("default", .float (.infinity false))], []⟩, ?_⟩
  obtain ⟨file, generated⟩ := exists_eq_ok_of_isOk
    (x := standardPython.fileOf ⟨"a.B", .obj [("default", .float (.infinity false))], []⟩) (by decide +kernel)
  refine ⟨file, _, ?_, ?_, generated, ?_, rfl, ?_⟩ <;> decide +kernel

end Registrar
