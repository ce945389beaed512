import Registrar.Proofs.Generation.Emission
import Registrar.Proofs.Naming.ClassName
import Registrar.Proofs.Number.Numerals
import Registrar.Proofs.Registration.Linking
import Registrar.Proofs.Text.Escaping
import Registrar.Proofs.Validation.Nesting

/-!
# Braces of generated modules

The check of a module that is no Python file takes the texts between double quotes out of it and counts
the braces that are left. In a generated module every quote belongs to a text that a printer has put
between quotes, and no printer leaves a quote or a backslash of its text open. So the texts that are taken
out are the printed ones, whatever they hold, and the braces left are those of the module and of the lists
and objects of its schema, which are nested.
-/

namespace Registrar

theorem codeOf_cons {c : Char} (noQuote : c ≠ '"') (rest : List Char) :
    codeOf (c :: rest) = c :: codeOf rest := by
  simp [codeOf, codeBehind, noQuote]

theorem codeOf_append {cs : List Char} (noQuote : '"' ∉ cs) (rest : List Char) :
    codeOf (cs ++ rest) = cs ++ codeOf rest := by
  induction cs with
  | nil => rfl
  | cons c cs ih =>
      rw [List.mem_cons, not_or] at noQuote
      rw [List.cons_append, codeOf_cons (Ne.symm noQuote.1), ih noQuote.2, List.cons_append]

theorem literalLength?_plain {c : Char} (quote : c ≠ '"') (backslash : c ≠ '\\') (rest : List Char) :
    literalLength? (c :: rest) = (literalLength? rest).map (· + 1) := by
  rw [literalLength?] <;> simp_all

theorem literalLength?_escape {l : Char} (noLineEnd : l ≠ '\n') (rest : List Char) :
    literalLength? ('\\' :: l :: rest) = (literalLength? rest).map (· + 2) := by
  rw [literalLength?]
  exact noLineEnd

/-- A text that may stand between quotes is as long as its reader takes it to be. -/
theorem literalLength?_of_escaped {inside : List Char} (escaped : Quoted.Escaped inside)
    (rest : List Char) : literalLength? (inside ++ '"' :: rest) = some (inside.length + 1) := by
  induction escaped with
  | nil => rfl
  | plain _ quote backslash _ ih =>
      rw [List.cons_append, literalLength?_plain quote backslash, ih]
      rfl
  | @letter l _ known _ ih =>
      have noLineEnd : l ≠ '\n' := by
        rintro rfl
        simp [Quoted.escapeLetters] at known
      rw [List.cons_append, List.cons_append, literalLength?_escape noLineEnd, ih]
      rfl
  | unit n _ ih =>
      obtain ⟨a, b, c, d, written, digits⟩ := Quoted.unitEscape_eq n
      have plain : ∀ c ∈ "0123456789abcdef".toList, c ≠ '"' ∧ c ≠ '\\' := by decide
      have each (digit : Char) (member : digit ∈ [a, b, c, d]) (rest : List Char) :=
        literalLength?_plain (plain digit (digits digit member)).1 (plain digit (digits digit member)).2
          rest
      rw [written, List.append_assoc]
      simp only [List.cons_append, List.nil_append]
      rw [literalLength?_escape (by decide), each, each, each, each, ih]
      · simp
      · simp
      · simp
      · simp
      · simp

/-- A printed text leaves nothing but its quotes in code. -/
theorem codeOf_quoted (alphabet : Quoted.Alphabet) (text : String) (rest : List Char) :
    codeOf ((quoted alphabet text).toList ++ rest) = '"' :: '"' :: codeOf rest := by
  have length := literalLength?_of_escaped (Quoted.escaped_encode alphabet text.toList) rest
  rw [toList_quoted, List.cons_append, List.append_assoc, List.singleton_append, codeOf, codeBehind,
    if_pos rfl, length]
  simp [codeBehind_eq]

/-- How many more braces code opens than it closes. -/
def surplus (code : List Char) : Int :=
  code.count '\x7b' - code.count '\x7d'

@[simp] theorem surplus_nil : surplus [] = 0 := rfl

theorem surplus_append (first second : List Char) :
    surplus (first ++ second) = surplus first + surplus second := by
  simp only [surplus, List.count_append]
  omega

/-- Code has as many opening as closing braces just when it has no surplus. -/
theorem surplus_eq_zero_iff (code : List Char) :
    surplus code = 0 ↔ code.count '\x7b' = code.count '\x7d' := by
  simp only [surplus]
  omega

/-- A text adds a number of open braces to the code of whatever stands behind it. -/
def Opens (n : Int) (text : String) : Prop :=
  ∀ rest, surplus (codeOf (text.toList ++ rest)) = n + surplus (codeOf rest)

/-- A text that is read apart from what stands behind it, and whose code is nested. -/
def Closes (text : String) : Prop :=
  ∃ code, Nested code ∧ ∀ rest, codeOf (text.toList ++ rest) = code ++ codeOf rest

theorem Closes.nested {text : String} (closes : Closes text) : Nested (codeOf text.toList) := by
  obtain ⟨code, nested, split⟩ := closes
  have whole := split []
  rw [List.append_nil] at whole
  rw [whole, codeOf, codeBehind, List.append_nil]
  exact nested

/-- What is nested opens as many braces as it closes. -/
theorem Closes.opens {text : String} (closes : Closes text) : Opens 0 text := by
  obtain ⟨code, nested, split⟩ := closes
  intro rest
  rw [split, surplus_append, (surplus_eq_zero_iff code).mpr (nested_iff.mp nested).2]

theorem Closes.append {first second : String} (one : Closes first) (other : Closes second) :
    Closes (first ++ second) := by
  obtain ⟨code, nested, split⟩ := one
  obtain ⟨code', nested', split'⟩ := other
  refine ⟨code ++ code', nested.append nested', fun rest => ?_⟩
  rw [String.toList_append, List.append_assoc, split, split', List.append_assoc]

/-- A pair of braces around a text that closes what it opens. -/
theorem Closes.braces {inside : String} (closes : Closes inside) :
    Closes ("\x7b" ++ (inside ++ "\x7d")) := by
  obtain ⟨code, nested, split⟩ := closes
  refine ⟨'\x7b' :: code ++ '\x7d' :: [], .braces nested .nil, fun rest => ?_⟩
  have opening : "\x7b".toList = ['\x7b'] := rfl
  have closing : "\x7d".toList = ['\x7d'] := rfl
  rw [String.toList_append, String.toList_append, opening, closing]
  simp only [List.append_assoc, List.cons_append, List.nil_append]
  rw [codeOf_cons (by decide), split, codeOf_cons (by decide)]

theorem closes_quoted (alphabet : Quoted.Alphabet) (text : String) : Closes (quoted alphabet text) :=
  ⟨['"', '"'], nested_of_not_mem (by decide) (by decide), codeOf_quoted alphabet text⟩

/-- A text without quotes and braces. -/
theorem closes_of_not_mem {text : String} (plain : ∀ c ∈ text.toList, c ∉ ['"', '\x7b', '\x7d']) :
    Closes text := by
  have without (c : Char) (mark : c ∈ ['"', '\x7b', '\x7d']) : c ∉ text.toList :=
    fun member => plain c member mark
  have nested := nested_of_not_mem (without '\x7b' (by simp)) (without '\x7d' (by simp))
  exact ⟨text.toList, nested, codeOf_append (without '"' (by simp))⟩

namespace Json

theorem closes_indent (level : Nat) : Closes (indent level) := by
  apply closes_of_not_mem
  intro c member
  rw [eq_of_mem_indent member]
  decide

theorem closes_number {words : List String} {text : String} (number : NumberText words text.toList)
    (plain : ∀ word ∈ words, ∀ c ∈ word.toList, c ∉ ['"', '\x7b', '\x7d']) : Closes text := by
  apply closes_of_not_mem
  intro c member
  rcases number.mem member with digit | mark | ⟨word, known, inside⟩
  · rintro brace
    simp only [List.mem_cons, List.not_mem_nil, or_false] at brace
    rcases brace with rfl | rfl | rfl <;> simp at digit
  · have marks : ∀ c ∈ ['.', 'e', '+', '-'], c ∉ ['"', '\x7b', '\x7d'] := by decide
    exact marks c mark
  · exact plain word known c inside

/-- The text of a value without parts closes what it opens. -/
theorem closes_leaf (alphabet : Quoted.Alphabet) (value : Json) :
    Closes ((standard alphabet).leaf value) := by
  cases value with
  | null => exact closes_of_not_mem (by decide : ∀ c ∈ "null".toList, _)
  | bool value =>
      cases value with
      | true => exact closes_of_not_mem (by decide : ∀ c ∈ "true".toList, _)
      | false => exact closes_of_not_mem (by decide : ∀ c ∈ "false".toList, _)
  | int value => exact closes_number (numberText_int [] value) (by simp)
  | float value =>
      exact closes_number (numberText_render (numberLayout "NaN" "Infinity") value)
        (by decide : ∀ word ∈ ["NaN", "Infinity"], _)
  | str value => exact closes_quoted alphabet value
  | arr items => exact closes_of_not_mem (by decide : ∀ c ∈ "[]".toList, _)
  | obj fields =>
      have empty : Closes "" := closes_of_not_mem (by simp)
      exact empty.braces

mutual
/-- The text of a value closes the braces that it opens. -/
theorem closes_indented (alphabet : Quoted.Alphabet) (level : Nat) :
    (value : Json) → Closes (indented (standard alphabet) level value)
  | .null => closes_leaf alphabet .null
  | .bool value => closes_leaf alphabet (.bool value)
  | .int value => closes_leaf alphabet (.int value)
  | .float value => closes_leaf alphabet (.float value)
  | .str value => closes_leaf alphabet (.str value)
  | .arr [] => closes_leaf alphabet (.arr [])
  | .arr (item :: rest) => by
      have opening : Closes "[\n" := closes_of_not_mem (by decide)
      have line : Closes "\n" := closes_of_not_mem (by decide)
      have closing : Closes "]" := closes_of_not_mem (by decide)
      have first := closes_indented alphabet (level + 1) item
      have others := closes_indentedItems alphabet (level + 1) rest
      exact (((((opening.append (closes_indent _)).append first).append others).append line).append
        (closes_indent _)).append closing
  | .obj [] => closes_leaf alphabet (.obj [])
  | .obj ((key, value) :: rest) => by
      have colon : Closes ": " := closes_of_not_mem (by decide)
      have line : Closes "\n" := closes_of_not_mem (by decide)
      have quoted : Closes ((standard alphabet).quote key) := closes_quoted alphabet key
      have first := closes_indented alphabet (level + 1) value
      have others := closes_indentedFields alphabet (level + 1) rest
      have inside := ((((((line.append (closes_indent (level + 1))).append quoted).append colon).append
        first).append others).append line).append (closes_indent level)
      have start : "\x7b\n" = "\x7b" ++ "\n" := rfl
      rw [indented, start]
      simpa only [String.append_assoc] using inside.braces

theorem closes_indentedItems (alphabet : Quoted.Alphabet) (level : Nat) :
    (items : List Json) → Closes (indentedItems (standard alphabet) level items)
  | [] => closes_of_not_mem (by simp [indentedItems])
  | item :: rest => by
      have comma : Closes ",\n" := closes_of_not_mem (by decide)
      have first := closes_indented alphabet level item
      exact ((comma.append (closes_indent level)).append first).append
        (closes_indentedItems alphabet level rest)

theorem closes_indentedFields (alphabet : Quoted.Alphabet) (level : Nat) :
    (fields : List (String × Json)) → Closes (indentedFields (standard alphabet) level fields)
  | [] => closes_of_not_mem (by simp [indentedFields])
  | (key, value) :: rest => by
      have comma : Closes ",\n" := closes_of_not_mem (by decide)
      have colon : Closes ": " := closes_of_not_mem (by decide)
      have quoted : Closes ((standard alphabet).quote key) := closes_quoted alphabet key
      have first := closes_indented alphabet level value
      exact ((((comma.append (closes_indent level)).append quoted).append colon).append first).append
        (closes_indentedFields alphabet level rest)
end

end Json

theorem closes_intercalate {separator : String} {texts : List String} (between : Closes separator)
    (each : ∀ text ∈ texts, Closes text) : Closes (separator.intercalate texts) := by
  induction texts with
  | nil => exact closes_of_not_mem (by simp)
  | cons text rest ih =>
      obtain ⟨here, others⟩ := List.forall_mem_cons.mp each
      cases rest with
      | nil => simpa using here
      | cons next rest =>
          rw [String.intercalate_cons_cons]
          exact (here.append between).append (ih others)

theorem closes_join {texts : List String} (each : ∀ text ∈ texts, Closes text) :
    Closes (String.join texts) := by
  induction texts with
  | nil => exact closes_of_not_mem (by simp)
  | cons text rest ih =>
      obtain ⟨here, others⟩ := List.forall_mem_cons.mp each
      rw [String.join_cons]
      exact here.append (ih others)

theorem closes_className (qualified : Bool) (id : String) : Closes (className qualified id) := by
  apply closes_of_not_mem
  intro c member mark
  have marks : ∀ c ∈ ['"', '\x7b', '\x7d'], isWordChar c = false := by decide
  exact not_mem_className (marks c mark) member

namespace Language

theorem closes_registrationCall (qualified : Bool) (id : String) :
    Closes (typescript.registrationCall (className qualified id)) := by
  have indent : Closes "  " := closes_of_not_mem (by decide)
  have ending : Closes "();\n" := closes_of_not_mem (by decide)
  exact (indent.append (closes_className _ _)).append ending

theorem closes_ownRegistration (id : String) : Closes (typescript.ownRegistration id) := by
  have start : Closes "  register(" := closes_of_not_mem (by decide)
  have ending : Closes ", schema);\n" := closes_of_not_mem (by decide)
  exact (start.append (closes_quoted _ _)).append ending

/-- What stands in a module before the brace of the registration function closes what it opens. -/
theorem exists_moduleHead {imports schema : String} (statements : Closes imports) (text : Closes schema) :
    ∃ front, Closes front ∧ typescript.moduleHead imports schema = front ++ "\x7b\n" := by
  have constant : Closes "\n\nconst schema: object = " := closes_of_not_mem (by decide)
  have function : Closes ";\n\nexport function " := closes_of_not_mem (by decide)
  have name : Closes typescript.registerFunction := closes_of_not_mem (by decide)
  have parameters : Closes "() " := closes_of_not_mem (by decide)
  have front := ((((statements.append constant).append text).append function).append name).append parameters
  have opening : "() \x7b\n" = "() " ++ "\x7b\n" := rfl
  refine ⟨_, front, ?_⟩
  rw [moduleHead, opening]
  simp only [String.append_assoc]

end Language

namespace Emission

variable {settings : Settings} {definition : Definition} {file : GeneratedFile}
  (emission : Emission settings definition file)

/-- What a statement imports is named by texts without braces. -/
theorem closes_binding {imported : Import} (member : imported ∈ settings.importsFor emission.targets) :
    Closes imported.binding.text := by
  rcases Settings.mem_importsFor.mp member with rfl | ⟨target, -, rfl⟩
  · exact closes_of_not_mem (by decide : ∀ c ∈ "register".toList, _)
  · have separator : Closes " as " := closes_of_not_mem (by decide)
    have function : Closes settings.language.registerFunction := by
      cases settings.language
      · exact closes_of_not_mem (by decide)
      · exact closes_of_not_mem (by decide)
    have renamed := closes_className settings.qualified target
    simp only [Settings.dependencyImport, Settings.dependencyOn, Binding.text]
    split
    · exact function
    · exact function
    · rename_i found
      obtain rfl := Option.some.inj found
      exact (function.append separator).append renamed

/-- A place that can serve as a key is written without braces. -/
theorem closes_spaced {path : Json} (key : checkKey path = .ok ()) : Closes path.spaced := by
  cases path with
  | arr items => simp [checkKey] at key
  | obj fields => simp [checkKey] at key
  | _ => exact Json.closes_leaf .ascii _

/-- An import statement closes the braces that it opens. -/
theorem closes_importStatement (typescript : settings.language = .typescript) {group : ImportGroup}
    (member : group ∈ emission.groups) : Closes (settings.language.importStatement group) := by
  have written {binding : Binding} (named : binding ∈ group.names) :
      ⟨group.path, binding⟩ ∈ settings.importsFor emission.targets :=
    emission.grouping.written.mem_iff.mp (mem_writtenImports.mpr ⟨group, member, rfl, named⟩)
  obtain ⟨binding, named⟩ := List.exists_mem_of_ne_nil _ (emission.grouping.named group member)
  have key := checkKey_of_groupImports emission.grouped _ (written named)
  have word : Closes "import " := closes_of_not_mem (by decide)
  have blank : Closes " " := closes_of_not_mem (by decide)
  have origin : Closes " from " := closes_of_not_mem (by decide)
  have ending : Closes ";" := closes_of_not_mem (by decide)
  have comma : Closes ", " := closes_of_not_mem (by decide)
  have names : Closes (", ".intercalate (group.names.map Binding.text)) := by
    apply closes_intercalate comma
    rw [List.forall_mem_map]
    intro binding named
    exact emission.closes_binding (written named)
  have whole := (((word.append ((blank.append names).append blank).braces).append origin).append
    (closes_spaced key)).append ending
  have opening : "import \x7b " = "import " ++ ("\x7b" ++ " ") := rfl
  have closing : " \x7d from " = " " ++ ("\x7d" ++ " from ") := rfl
  rw [typescript, Language.importStatement, opening, closing]
  simpa only [String.append_assoc] using whole

include emission in
/-- The braces of the registration function stand around its calls and its own registration, between texts
that close what they open. -/
theorem exists_parts (typescript : settings.language = .typescript) :
    ∃ front calls, Closes front ∧ Closes calls ∧ file.content = front ++ "\x7b\n" ++
      (calls ++ Language.typescript.ownRegistration definition.id) ++ Language.typescript.moduleEnd := by
  have statements : Closes ("\n".intercalate (emission.groups.map settings.language.importStatement)) := by
    apply closes_intercalate (closes_of_not_mem (by decide))
    rw [List.forall_mem_map]
    exact fun group member => emission.closes_importStatement typescript member
  have schema : Closes (settings.language.schemaText emission.schema) := by
    rw [typescript]
    exact Json.closes_indented .unicode 0 emission.schema
  have calls : Closes (String.join ((emission.targets.map settings.className).map
      settings.language.registrationCall)) := by
    apply closes_join
    rw [List.map_map, List.forall_mem_map, typescript]
    exact fun target _ => Language.closes_registrationCall _ target
  obtain ⟨front, closes, head⟩ := Language.exists_moduleHead statements schema
  refine ⟨front, _, closes, calls, ?_⟩
  rw [emission.content, String.join_append, String.join_cons, String.join_nil, String.append_empty,
    ← head, typescript]

include emission in
/-- A generated TypeScript module closes the braces that it opens. -/
theorem closes_content (typescript : settings.language = .typescript) : Closes file.content := by
  obtain ⟨front, calls, head, called, content⟩ := emission.exists_parts typescript
  have line : Closes "\n" := closes_of_not_mem (by decide)
  have body := (line.append called).append (Language.closes_ownRegistration definition.id)
  have whole := (head.append body.braces).append line
  have opening : "\x7b\n" = "\x7b" ++ "\n" := rfl
  have ending : Language.typescript.moduleEnd = "\x7d" ++ "\n" := rfl
  rw [content, opening, ending]
  simpa only [String.append_assoc] using whole

include emission in
theorem opens_content (typescript : settings.language = .typescript) : Opens 0 file.content :=
  (emission.closes_content typescript).opens

end Emission

/-- A path that ends as TypeScript files do does not end as Python files do. -/
theorem not_isPythonPath_typescript (path : String) : isPythonPath (path ++ ".ts") = false := by
  rw [isPythonPath, Bool.eq_false_iff]
  intro python
  obtain ⟨before, same⟩ := List.isSuffixOf_iff_suffix.mp python
  rw [String.toList_append] at same
  have last := congrArg List.getLast? same
  simp at last

/-- Every TypeScript module that is generated passes the check before writing, whatever texts its ids, its
schema and the settings hold. -/
theorem validate_typescript {settings : Settings} {definition : Definition} {file : GeneratedFile}
    (typescript : settings.language = .typescript) (generated : settings.fileOf definition = .ok file) :
    validate file = .ok () := by
  obtain ⟨emission⟩ := Emission.of_fileOf generated
  have noPython : isPythonPath file.path = false := by
    rw [emission.path, Settings.schemaPath, typescript]
    exact not_isPythonPath_typescript _
  have balanced : surplus (codeOf file.content.toList) = 0 := by
    simpa [codeOf, codeBehind] using emission.opens_content typescript []
  rw [validate_eq_ok_iff, Text.marked_coe]
  refine ⟨?_, emission.occursIn_registrationMark⟩
  rw [checkCode, noPython, Text.marked_coe]
  simp only [Bool.false_eq_true, if_false, (surplus_eq_zero_iff _).mp balanced, if_true]

/-- A module with quotes, backslashes and braces in its id, its schema, its reference and the settings. -/
theorem validate_typescript_braces :
    let settings : Settings := { Settings.standard with registerModule := .str "\\\"\x7b" }
    let definition : Definition := ⟨"a.\"\x7b\\", .obj [("description", .str "\x7d\"\\\n"),
      ("allOf", .arr [.obj [("$ref", .str "#/definitions/\x7b.C\"")]])], []⟩
    ∃ file, settings.language = .typescript ∧ settings.fileOf definition = .ok file ∧
      validate file = .ok () := by
  intro settings definition
  obtain ⟨file, generated⟩ := exists_eq_ok_of_isOk (x := settings.fileOf definition) (by decide +kernel)
  exact ⟨file, rfl, generated, validate_typescript rfl generated⟩

end Registrar
