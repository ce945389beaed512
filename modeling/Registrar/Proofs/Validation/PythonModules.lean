import Registrar.Proofs.Generation.PythonText
import Registrar.Proofs.Json.Characters
import Registrar.Proofs.Registration.Linking

/-!
# Generated Python modules

The check of a Python file asks whether its text is a program. The text of a generated module is put
together from class names and import paths without quotes, so it is one only as far as these are names and
modules of the language. With the packages that the language has by default, a path leads to a module just
when the class name at its end can be a name, or is empty for a module that lies beside the importing one;
and then the whole text is a program, whatever the schema holds.
-/

namespace Registrar

open Python (ImportLine isPlainName)

/-- The reserved words that begin as class names may begin. -/
theorem mem_capitalWords_of_keyword {word : String} {keyword : Python.Keyword}
    (reserved : Python.keyword? word.toList = some keyword) :
    word ∈ Language.python.capitalWords ∨
      ∃ c rest, word.toList = c :: rest ∧ isSmallLetter c = true := by
  have each : ∀ entry ∈ Python.keywords, entry.1 ∈ Language.python.capitalWords ∨
      isSmallLetter (entry.1.toList.headD 'A') = true := by decide
  obtain ⟨entry, found, -⟩ := Option.map_eq_some_iff.mp reserved
  have same : entry.1 = word := String.toList_inj.mp (by simpa using List.find?_some found)
  rw [← same]
  refine (each entry (List.mem_of_find?_eq_some found)).imp_right fun small => ?_
  cases letters : entry.1.toList with
  | nil =>
      rw [letters] at small
      exact absurd small (by decide)
  | cons c rest => exact ⟨c, rest, rfl, by simpa [letters] using small⟩

/-- No class name is a reserved word but those that a language names. -/
theorem keyword?_className {qualified : Bool} {id : String}
    (other : className qualified id ∉ Language.python.capitalWords) :
    Python.keyword? (className qualified id).toList = none := by
  rw [Option.eq_none_iff_forall_ne_some]
  intro keyword reserved
  rcases mem_capitalWords_of_keyword reserved with member | ⟨c, rest, begins, small⟩
  · exact other member
  · exact className_ne_of_small begins small rfl

/-- A class name that can be a name is one. -/
theorem isPlainName_className {qualified : Bool} {id : String}
    (named : Language.python.canName (className qualified id) = true) :
    isPlainName (className qualified id).toList = true := by
  unfold Language.canName at named
  have parts : ∀ c ∈ (className qualified id).toList, c.isAlphanum = true := by
    intro c member
    rw [← isWordChar_eq_isAlphanum]
    exact isWordChar_of_mem_className member
  split at named
  · simp at named
  · rename_i first more letters
    simp only [Bool.and_eq_true, Bool.not_eq_true', decide_eq_true_eq] at named
    rw [letters] at parts
    obtain ⟨here, others⟩ := List.forall_mem_cons.mp parts
    have letter : first.isAlpha = true := by
      simpa [Char.isAlphanum, named.1] using here
    have behind : more.all Python.isPlainPart = true := by
      rw [List.all_eq_true]
      exact fun c member => by simp [Python.isPlainPart, others c member]
    rw [isPlainName, keyword?_className named.2, letters]
    simp [Python.isPlainWord, letter, behind]

theorem isPrinted_of_mem_className {qualified : Bool} {id : String} {c : Char}
    (member : c ∈ (className qualified id).toList) : isPrinted c = true :=
  isPrinted_of_isWordChar (isWordChar_of_mem_className member)

/-- The text of a module is printed where the words of its imports and of its calls are. -/
theorem isPrinted_of_mem_programText {imports : List ImportLine} {schema : Json} {names : List (List Char)}
    {id : String} (lines : ∀ line ∈ imports, ∀ c ∈ line.text, isPrinted c = true)
    (calls : ∀ name ∈ names, ∀ c ∈ name, isPrinted c = true) :
    ∀ c ∈ Python.programText imports schema names id, isPrinted c = true := by
  have value : ∀ c ∈ (Json.indented Json.literal 0 schema).toList, isPrinted c = true :=
    speltWith_literal.indented 0 schema
  have quote : ∀ c ∈ (quoted .ascii id).toList, isPrinted c = true :=
    isPrinted_of_visible visible_of_mem_quoted
  have line : isPrinted '\n' = true := by decide
  simp only [Python.programText, Python.callText, Python.registrationText, List.forall_mem_append,
    List.forall_mem_cons, List.forall_mem_flatMap]
  exact ⟨lines, line, by decide, value, line, line, line, by decide, by decide, by decide,
    fun name member => ⟨by decide, calls name member, by decide⟩, by decide, by decide, quote, by decide⟩

theorem Domain.isPlainName_of_mem (domain : Domain) :
    ∀ word ∈ domain.packageWords, isPlainName word = true := by
  cases domain <;> decide

namespace Settings

variable {settings : Settings}

/-- Whether a schema can be imported under its class name: this is a name, or there is none and the package
of the importing module itself takes the place of the schema's module. -/
def CanImport (settings : Settings) (target : String) : Prop :=
  Language.python.canName (settings.className target) = true ∨
    (settings.className target = "" ∧ settings.domainOf target = .generated)

instance (settings : Settings) (target : String) : Decidable (settings.CanImport target) :=
  inferInstanceAs (Decidable (_ ∨ _))

theorem named_registerLine : registerLine.Named where
  words := by decide
  member := .inr (by decide)
  function := by decide
  word := .inl rfl

theorem CanImport.named {target : String} (importable : settings.CanImport target) :
    (settings.className target).toList = [] ∨ isPlainName (settings.className target).toList = true :=
  importable.symm.imp (fun ⟨empty, _⟩ => by rw [empty, String.toList_empty]) isPlainName_className

theorem named_dependencyLine {target : String} (importable : settings.CanImport target) :
    (settings.dependencyLine target).Named where
  words := Domain.isPlainName_of_mem _
  member := importable.symm.imp
    (fun ⟨empty, beside⟩ => by simp [dependencyLine, empty, beside, Domain.packageWords]) isPlainName_className
  function := by simp only [dependencyLine]; decide
  word := importable.named

theorem isPrinted_registerLine : ∀ c ∈ registerLine.text, isPrinted c = true := by
  decide

theorem isPrinted_dependencyLine (settings : Settings) (target : String) :
    ∀ c ∈ (settings.dependencyLine target).text, isPrinted c = true := by
  have package (domain : Domain) : ∀ c ∈ Python.packageText domain.packageWords, isPrinted c = true := by
    cases domain <;> decide
  have word : ∀ c ∈ (settings.className target).toList, isPrinted c = true :=
    fun _ => isPrinted_of_mem_className
  have renamed : ∀ c ∈ Python.aliasText (settings.className target).toList, isPrinted c = true := by
    unfold Python.aliasText
    split
    · simp
    · rw [List.forall_mem_append]
      exact ⟨by decide, word⟩
  simp only [dependencyLine, ImportLine.text, Python.importText, List.forall_mem_append,
    List.forall_mem_cons]
  exact ⟨by decide, package _, by decide, word, by decide, by decide, by decide, renamed, by decide⟩

/-- A line for a schema that cannot be imported leads to no module. -/
theorem noModule_of_not_canImport {target : String} (broken : ¬ settings.CanImport target)
    (rest : List Char) :
    Python.NoModule (settings.domainOf target).packageWords
      ((settings.className target).toList ++ ' ' :: ("import ".toList ++ rest)) := by
  obtain ⟨unnamed, away⟩ := not_or.mp broken
  unfold Language.canName at unnamed
  split at unnamed
  · rename_i none
    have package : (settings.domainOf target).packageWords ≠ [] := by
      cases domain : settings.domainOf target with
      | apimachinery => simp [Domain.packageWords]
      | kubernetesModels => simp [Domain.packageWords]
      | generated => exact absurd ⟨String.toList_eq_nil_iff.mp none, domain⟩ away
    rw [none]
    exact Python.noModule_empty package rest
  · rename_i first more letters
    simp only [Bool.and_eq_true, Bool.not_eq_true', decide_eq_true_eq, not_and,
      not_not] at unnamed
    by_cases digit : first.isDigit = true
    · rw [letters]
      exact Python.noModule_digit _ digit _
    · have reserved := unnamed (by simpa using digit)
      have words : ∀ word ∈ Language.python.capitalWords, Python.isPlainWord word.toList = true ∧
          ∃ keyword, Python.Token.ofWord word.toList = .keyword keyword ∧ keyword ≠ .import_ := by
        simp only [Language.capitalWords, List.forall_mem_cons]
        exact ⟨⟨by decide, _, rfl, by decide⟩, ⟨by decide, _, rfl, by decide⟩,
          ⟨by decide, _, rfl, by decide⟩, by simp⟩
      obtain ⟨plain, keyword, same, other⟩ := words _ reserved
      exact Python.noModule_keyword _ plain same other _

end Settings

namespace Emission

variable {settings : Settings} {definition : Definition} {file : GeneratedFile}
  (emission : Emission settings definition file)

include emission in
/-- A generated Python module is made of characters that stay as they are in a source text. -/
theorem isPrinted_of_mem_content (python : settings.language = .python)
    (packages : settings.HasDefaultPackages) : ∀ c ∈ file.content.toList, isPrinted c = true := by
  rw [emission.toList_content python packages]
  apply isPrinted_of_mem_programText
  · rw [List.forall_mem_cons, List.forall_mem_map]
    exact ⟨Settings.isPrinted_registerLine, fun target _ => Settings.isPrinted_dependencyLine settings target⟩
  · rw [List.forall_mem_map]
    exact fun target _ c => isPrinted_of_mem_className

/-- A module all of whose dependencies can be imported is a program. -/
theorem isProgram_content (python : settings.language = .python) (packages : settings.HasDefaultPackages)
    (importable : ∀ target ∈ emission.targets, settings.CanImport target)
    (shallow : emission.schema.nesting ≤ Python.greatestDepth) : Python.isProgram file.content = true := by
  have printed := emission.isPrinted_of_mem_content python packages
  rw [emission.toList_content python packages] at printed
  rw [← String.ofList_toList (s := file.content), emission.toList_content python packages]
  apply Python.isProgram_programText _ _ shallow fun c member => ne_of_isPrinted (printed c member)
  · rw [List.forall_mem_cons, List.forall_mem_map]
    exact ⟨Settings.named_registerLine, fun target member =>
      Settings.named_dependencyLine (importable target member)⟩
  · rw [List.forall_mem_map]
    refine fun target member => ⟨(importable target member).named, fun same => ?_⟩
    have word : Python.matchWord = "match".toList := by decide
    exact className_ne_of_small (c := 'm') rfl rfl (String.toList_inj.mp (same.trans word))

/-- A module one of whose dependencies cannot be imported is no program. -/
theorem not_isProgram_content (python : settings.language = .python)
    (packages : settings.HasDefaultPackages) {target : String} (member : target ∈ emission.targets)
    (broken : ¬ settings.CanImport target) : Python.isProgram file.content = false := by
  -- The text breaks off at the first line that leads to no module.
  obtain ⟨first, found⟩ := Option.isSome_iff_exists.mp
    (List.find?_isSome.mpr ⟨target, member, decide_eq_true broken⟩ :
      (emission.targets.find? fun target => ¬ settings.CanImport target).isSome = true)
  obtain ⟨firstBroken, good, more, split, before⟩ := List.find?_eq_some_iff_append.mp found
  have lines : ∀ line ∈ Settings.registerLine :: good.map settings.dependencyLine, line.Named := by
    rw [List.forall_mem_cons, List.forall_mem_map]
    refine ⟨Settings.named_registerLine, fun target member => Settings.named_dependencyLine ?_⟩
    simpa using before target member
  obtain ⟨rest, text⟩ : ∃ rest, file.content.toList =
      (Settings.registerLine :: good.map settings.dependencyLine).flatMap ImportLine.text ++
        ("from ".toList ++ (Python.packageText (settings.domainOf first).packageWords ++
          '.' :: ((settings.className first).toList ++ ' ' :: ("import ".toList ++ rest)))) := by
    rw [emission.toList_content python packages, split, List.map_append, List.map_cons]
    exact Python.exists_programText_eq (Settings.registerLine :: good.map settings.dependencyLine)
      (settings.dependencyLine first) _
  have last : file.content.toList.getLast? = some '\n' := by
    rw [emission.toList_content python packages, Python.getLast?_programText]
  have printed := emission.isPrinted_of_mem_content python packages
  have noReturn : '\r' ∉ file.content.toList := fun member => (ne_of_isPrinted (printed _ member)).1 rfl
  rw [text] at last noReturn
  rw [← String.ofList_toList (s := file.content), text]
  apply Python.isProgram_of_broken lines (Domain.isPlainName_of_mem _)
    (Settings.noModule_of_not_canImport (of_decide_eq_true firstBroken) rest) noReturn
  simpa [List.getLast?_append, List.getLast?_cons] using last

include emission in
/-- A Python module is written at a path of a Python file. -/
theorem isPythonPath_path (python : settings.language = .python) : isPythonPath file.path = true := by
  rw [emission.path, isPythonPath, List.isSuffixOf_iff_suffix, Settings.schemaPath, schemaPath, python,
    String.toList_append]
  exact List.suffix_append _ _

include emission in
/-- A file of a Python module that is no program is refused, and any other is accepted. -/
theorem validate_eq (python : settings.language = .python) (packages : settings.HasDefaultPackages) :
    validate file = if Python.isProgram file.content then .ok () else .error (.invalidPython file.path) := by
  have noNull : file.content.toList.contains '\x00' = false := by
    rw [Bool.eq_false_iff, ne_eq, List.contains_iff_mem]
    exact fun member => (ne_of_isPrinted (emission.isPrinted_of_mem_content python packages _ member)).2 rfl
  have code : checkCode file =
      if Python.isProgram file.content then .ok () else .error (.invalidPython file.path) := by
    rw [checkCode, if_pos (emission.isPythonPath_path python)]
    change (if file.content.toList.contains '\x00' then _ else _) = _
    rw [noNull, if_neg Bool.false_ne_true]
    rfl
  rw [validate, code, Text.marked_coe, emission.occursIn_registrationMark]
  split <;> rfl

end Emission

/-- A Python module passes the check before writing just when each of its dependencies has a class name
that is a name of the language, or is generated by the run and has an empty one. The packages are those of
the language, and the schema is nested no deeper than a source text may be. -/
theorem validate_python_iff {settings : Settings} {definition : Definition} {file : GeneratedFile}
    (python : settings.language = .python) (packages : settings.HasDefaultPackages)
    (shallow : ∀ schema, definition.embeddedSchema = .ok schema → schema.nesting ≤ Python.greatestDepth)
    (generated : settings.fileOf definition = .ok file) :
    ∃ dependencies, settings.dependenciesOf definition = .ok dependencies ∧
      (validate file = .ok () ↔ ∀ dependency ∈ dependencies,
        Language.python.canName dependency.localName = true ∨
          (dependency.localName = "" ∧ dependency.domain = .generated)) := by
  obtain ⟨emission⟩ := Emission.of_fileOf generated
  refine ⟨emission.targets.map settings.dependencyOn, ?_, ?_⟩
  · rw [Settings.dependenciesOf, emission.read]
    rfl
  · rw [List.forall_mem_map, emission.validate_eq python packages]
    constructor
    · intro accepted target member
      by_contra broken
      rw [emission.not_isProgram_content python packages member broken] at accepted
      cases accepted
    · intro importable
      rw [emission.isProgram_content python packages importable (shallow _ emission.embedded), if_pos rfl]

/-- A module that refers to a schema with a name and to one with an empty class name. -/
theorem validate_python_two :
    ∃ file, Settings.standardPython.fileOf (.referringTo "a.B" ["#/definitions/a.C", "-"]) = .ok file ∧
      validate file = .ok () := by
  obtain ⟨file, generated⟩ := exists_eq_ok_of_isOk (x :=
    Settings.standardPython.fileOf (.referringTo "a.B" ["#/definitions/a.C", "-"])) (by decide +kernel)
  have depth : (Definition.referringTo "a.B" ["#/definitions/a.C", "-"]).embeddedSchema.map Json.nesting =
      .ok 3 := by decide +kernel
  have shallow : ∀ schema,
      (Definition.referringTo "a.B" ["#/definitions/a.C", "-"]).embeddedSchema = .ok schema →
        schema.nesting ≤ Python.greatestDepth := by
    intro schema embedded
    rw [embedded] at depth
    rw [Except.ok.inj depth]
    decide
  obtain ⟨dependencies, read, accepted⟩ :=
    validate_python_iff rfl Settings.hasDefaultPackages_standardPython shallow generated
  obtain rfl := Except.ok.inj (read.symm.trans (by decide +kernel :
    Settings.standardPython.dependenciesOf (.referringTo "a.B" ["#/definitions/a.C", "-"]) =
      .ok (["a.C", "-"].map Settings.standardPython.dependencyOn)))
  exact ⟨file, generated, accepted.mpr (by decide)⟩

/-- A class name that begins with a digit is no name of the language. A module that refers to such a schema
is generated and then refused. -/
theorem validate_python_refuses_digit :
    let definition := Definition.referringTo "a.B" ["#/definitions/3scale.Tenant"]
    definition.embeddedSchema.map Json.nesting = .ok 3 ∧
      ∃ file, Settings.standardPython.fileOf definition = .ok file ∧
        validate file = .error (.invalidPython "_schemas/AB.py") := by
  intro definition
  refine ⟨by decide +kernel, ?_⟩
  obtain ⟨file, generated⟩ := exists_eq_ok_of_isOk (x := Settings.standardPython.fileOf definition)
    (by decide +kernel)
  obtain ⟨emission⟩ := Emission.of_fileOf generated
  have packages := Settings.hasDefaultPackages_standardPython
  have targets : emission.targets = ["3scale.Tenant"] :=
    Except.ok.inj (emission.read.symm.trans (by decide +kernel))
  have path : file.path = "_schemas/AB.py" := emission.path.trans (by decide)
  have member : "3scale.Tenant" ∈ emission.targets := by
    rw [targets]
    exact List.mem_singleton_self _
  have broken := emission.not_isProgram_content rfl packages member (by decide)
  refine ⟨file, generated, ?_⟩
  rw [emission.validate_eq rfl packages, broken, path]
  rfl

end Registrar
