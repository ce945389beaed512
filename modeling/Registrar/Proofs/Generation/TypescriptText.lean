import Registrar.Proofs.Generation.PythonText
import Registrar.Proofs.Json.Determined
import Registrar.Proofs.Registration.Linking

/-!
# The text of a TypeScript module

A TypeScript module is put together from lines of imports, the indented JSON text of its schema, one call
for each class name, and the registration of its own id. The lines of imports end where an empty line
stands, the schema ends by its own marks, and no call is one of the registration. So whatever texts, keys
and packages there are in it, the whole text determines all of these, and with them the schemas that the
module depends on.
-/

namespace Registrar

/-- Lists with the same images under one function have the same images under another one that it
determines. -/
theorem map_eq_of_map_eq {α β γ : Type} {f : α → β} {g : α → γ} {xs ys : List α}
    (same : xs.map f = ys.map f) (determined : ∀ x ∈ xs, ∀ y ∈ ys, f x = f y → g x = g y) :
    xs.map g = ys.map g := by
  induction xs generalizing ys with
  | nil =>
      obtain rfl := List.map_eq_nil_iff.mp same.symm
      rfl
  | cons x xs ih =>
      cases ys with
      | nil => simp at same
      | cons y ys =>
          obtain ⟨here, there⟩ := List.cons.inj same
          rw [List.map_cons, List.map_cons, determined x List.mem_cons_self y List.mem_cons_self here]
          exact congrArg _ (ih there fun other member more inside =>
            determined other (List.mem_cons_of_mem _ member) more (List.mem_cons_of_mem _ inside))

/-- Lists with the same images are the same if items with the same image are. -/
theorem eq_of_map_eq {α β : Type} {f : α → β} {xs ys : List α} (same : xs.map f = ys.map f)
    (injective : ∀ x ∈ xs, ∀ y ∈ ys, f x = f y → x = y) : xs = ys := by
  have images := map_eq_of_map_eq (g := id) same injective
  rwa [List.map_id, List.map_id] at images

namespace Json

theorem spaced_str (text : String) : (Json.str text).spaced = quoted .ascii text := by
  simp [spaced, inline, Spelling.leaf, standard]

/-- On one line, a constant or a number has the same text as on several. -/
theorem wordView_spaced {value : Json} (word : value.opening? = none) : WordView value value.spaced := by
  have same : value.spaced = value.indented (standard .unicode) 0 := by
    cases value with
    | null => rfl
    | bool value => cases value <;> rfl
    | int value => rfl
    | float value => rfl
    | _ => simp [opening?] at word
  rw [same]
  exact wordView_of_opening?_eq_none word 0

/-- A key is a text, or a constant or a number. -/
theorem text_or_word {key : Json} (usable : checkKey key = .ok ()) :
    (∃ text, key = .str text) ∨ key.opening? = none := by
  cases key <;> simp [checkKey, opening?] at usable ⊢

/-- The text of a key has no line end. -/
theorem not_mem_spaced {key : Json} (usable : checkKey key = .ok ()) : '\n' ∉ key.spaced.toList := by
  rcases text_or_word usable with ⟨text, rfl⟩ | word
  · rw [spaced_str]
    exact fun inside => absurd (visible_of_mem_quoted _ inside) (by decide)
  · exact fun inside => not_isBoundary_of_wordView (wordView_spaced word) _ inside (by decide)

/-- No constant or number has the text of a text. -/
theorem spaced_ne_of_word {key : Json} (word : key.opening? = none) (text : String) :
    key.spaced ≠ (Json.str text).spaced := by
  intro same
  have quote : '"' ∈ key.spaced.toList := by
    rw [same, spaced_str, toList_quoted]
    exact List.mem_cons_self
  exact not_isBoundary_of_wordView (wordView_spaced word) _ quote (by decide)

end Json

/-- A new name is determined by its text with the word in front of it. -/
theorem eq_of_aliasText_eq {first second : List Char}
    (same : Python.aliasText first = Python.aliasText second) : first = second := by
  unfold Python.aliasText at same
  split at same <;> rename_i none <;> split at same <;> rename_i none'
  · exact none.trans none'.symm
  · simp at same
  · simp at same
  · exact List.append_cancel_left same

/-- The parts of the statement for a group. -/
theorem ImportGroup.toList_importStatement (group : ImportGroup) :
    (Language.typescript.importStatement group).toList =
      "import \x7b ".toList ++ ((", ".intercalate (group.names.map Binding.text)).toList ++
        ' ' :: '}' :: (" from ".toList ++ (group.path.spaced.toList ++ [';']))) := by
  simp [Language.importStatement]

/-- The statement of a group is one line, if what it imports is written without line ends. -/
theorem ImportGroup.not_mem_importStatement {group : ImportGroup} (usable : checkKey group.path = .ok ())
    (each : ∀ binding ∈ group.names, '\n' ∉ binding.text.toList) :
    '\n' ∉ (Language.typescript.importStatement group).toList := by
  have names : '\n' ∉ (", ".intercalate (group.names.map Binding.text)).toList :=
    not_mem_intercalate (by decide) (List.forall_mem_map.mpr each)
  rw [toList_importStatement]
  simp only [List.mem_append, List.mem_cons, not_or, List.not_mem_nil]
  exact ⟨by decide, names, by decide, by decide, by decide, Json.not_mem_spaced usable, by decide,
    not_false⟩

/-- A group of a TypeScript module that imports registration functions from one place. -/
structure ImportGroup.Registers (settings : Settings) (group : ImportGroup) : Prop where
  usable : checkKey group.path = .ok ()
  place : group.path = settings.registerModule ∨ ∃ text, group.path = .str text
  named : group.names ≠ []
  bindings : ∀ binding ∈ group.names, binding = ⟨"register", none⟩ ∨
    ∃ id, binding = ⟨"addSchema", some (settings.className id)⟩

namespace ImportGroup.Registers

variable {settings : Settings} {group other : ImportGroup}

/-- Places with one text are one place, since only one of them may be no text. -/
theorem path_eq (registers : group.Registers settings) (registers' : other.Registers settings)
    (same : group.path.spaced = other.path.spaced) : group.path = other.path := by
  rcases Json.text_or_word registers.usable with ⟨text, path⟩ | word <;>
    rcases Json.text_or_word registers'.usable with ⟨text', path'⟩ | word'
  · rw [path, path', Json.spaced_str, Json.spaced_str] at same
    obtain ⟨rfl, -⟩ := eq_of_quoted_append (congrArg (String.toList · ++ []) same)
    exact path.trans path'.symm
  · rw [path] at same
    exact absurd same.symm (Json.spaced_ne_of_word word' text)
  · rw [path'] at same
    exact absurd same (Json.spaced_ne_of_word word text')
  · have module {group : ImportGroup} (registers : group.Registers settings)
        (word : group.path.opening? = none) : group.path = settings.registerModule := by
      rcases registers.place with module | ⟨text, path⟩
      · exact module
      · rw [path] at word
        simp [Json.opening?] at word
    exact (module registers word).trans (module registers' word').symm

/-- What is imported is written in letters, digits and blanks. -/
theorem plain_text (registers : group.Registers settings) : ∀ binding ∈ group.names,
    ∀ c ∈ binding.text.toList, isWordChar c = true ∨ c = ' ' := by
  intro binding member c inside
  rw [Binding.toList_text] at inside
  rcases registers.bindings binding member with rfl | ⟨id, rfl⟩
  · have letters : ∀ c ∈ "register".toList, isWordChar c = true := by decide
    exact .inl (letters c (by simpa [Python.aliasText] using inside))
  · have letters : ∀ c ∈ "addSchema".toList ++ " as ".toList, isWordChar c = true ∨ c = ' ' := by decide
    rcases List.mem_append.mp inside with word | renamed
    · exact letters c (List.mem_append_left _ word)
    · unfold Python.aliasText at renamed
      split at renamed
      · exact absurd renamed List.not_mem_nil
      · rcases List.mem_append.mp renamed with word | part
        · exact letters c (List.mem_append_right _ word)
        · exact .inl (isWordChar_of_mem_className part)

theorem text_ne_empty (registers : group.Registers settings) :
    ∀ binding ∈ group.names, binding.text ≠ "" := by
  intro binding member empty
  have none := congrArg String.toList empty
  rw [Binding.toList_text] at none
  rcases registers.bindings binding member with rfl | ⟨id, rfl⟩
  · simp at none
  · simp at none

/-- What is imported is determined by its text. -/
theorem eq_of_text_eq (registers : group.Registers settings) (registers' : other.Registers settings) :
    ∀ first ∈ group.names, ∀ second ∈ other.names, first.text = second.text → first = second := by
  intro first here second there same
  have texts := congrArg String.toList same
  rw [Binding.toList_text, Binding.toList_text] at texts
  rcases registers.bindings first here with rfl | ⟨id, rfl⟩ <;>
    rcases registers'.bindings second there with rfl | ⟨id', rfl⟩
  · rfl
  · simp at texts
  · simp at texts
  · have names : settings.className id = settings.className id' :=
      String.toList_inj.mp (eq_of_aliasText_eq (List.append_cancel_left texts))
    rw [names]

/-- The statement of a group is one line. -/
theorem not_mem_importStatement (registers : group.Registers settings) :
    '\n' ∉ (Language.typescript.importStatement group).toList := by
  apply ImportGroup.not_mem_importStatement registers.usable
  intro binding member inside
  exact absurd (registers.plain_text binding member _ inside) (by decide)

/-- The names of a group are determined by their texts with commas between them. -/
theorem names_eq (registers : group.Registers settings) (registers' : other.Registers settings)
    (same : (", ".intercalate (group.names.map Binding.text)).toList =
      (", ".intercalate (other.names.map Binding.text)).toList) : group.names = other.names := by
  have plain {group : ImportGroup} (registers : group.Registers settings) :
      ∀ text ∈ group.names.map Binding.text, ',' ∉ text.toList ∧ text ≠ "" := by
    rw [List.forall_mem_map]
    intro binding member
    refine ⟨fun inside => ?_, registers.text_ne_empty binding member⟩
    exact absurd (registers.plain_text binding member _ inside) (by decide)
  have rows := congrArg (· ++ ", ".toList ++ [',']) same
  simp only [toList_intercalate_append, List.map_eq_nil_iff, ne_eq, registers.named, registers'.named,
    not_false_eq_true] at rows
  obtain ⟨texts, -⟩ := eq_of_rows_append (plain registers) (plain registers') rows
  exact eq_of_map_eq texts (registers.eq_of_text_eq registers')

/-- A group is determined by its statement. -/
theorem eq_of_importStatement_eq (registers : group.Registers settings)
    (registers' : other.Registers settings)
    (same : Language.typescript.importStatement group = Language.typescript.importStatement other) :
    group = other := by
  have line := congrArg String.toList same
  rw [toList_importStatement, toList_importStatement] at line
  have inside := List.append_cancel_left line
  -- The names end at the first brace, as there is none in them.
  have noBrace {group : ImportGroup} (registers : group.Registers settings) :
      '}' ∉ (", ".intercalate (group.names.map Binding.text)).toList ++ [' '] := by
    rw [List.mem_append, not_or]
    refine ⟨not_mem_intercalate (by decide) (List.forall_mem_map.mpr ?_), by decide⟩
    intro binding member inside
    exact absurd (registers.plain_text binding member _ inside) (by decide)
  rw [List.append_cons, List.append_cons _ ' ' ('}' :: _)] at inside
  obtain ⟨names, path⟩ := eq_of_append_same_mark (noBrace registers) (noBrace registers') inside
  have places := List.append_cancel_right (List.append_cancel_left path)
  have paths := registers.path_eq registers' (String.toList_inj.mp places)
  have bindings := registers.names_eq registers' (List.append_cancel_right names)
  obtain ⟨path, names⟩ := group
  obtain ⟨path', names'⟩ := other
  exact congrArg₂ ImportGroup.mk paths bindings

end ImportGroup.Registers

/-- What the function of a TypeScript module does: it makes a call by each class name and registers the
schema of the module. -/
def typescriptBody (names : List String) (id : String) : List Char :=
  (names.flatMap fun name => "  ".toList ++ (name.toList ++ '(' :: ");\n".toList)) ++
    ("  register(".toList ++ ((quoted .ascii id).toList ++ ", schema);\n\x7d\n".toList))

/-- The calls of a module and its id are determined by what its function does, since no class name is the
name of the registry's function. -/
theorem eq_of_typescriptBody_eq {first second : List String} {id other : String}
    (named : ∀ name ∈ first, '(' ∉ name.toList ∧ name ≠ "register")
    (named' : ∀ name ∈ second, '(' ∉ name.toList ∧ name ≠ "register")
    (same : typescriptBody first id = typescriptBody second other) : first = second ∧ id = other := by
  have call (name : String) (names : List String) (id : String) : typescriptBody (name :: names) id =
      "  ".toList ++ (name.toList ++ '(' :: (");\n".toList ++ typescriptBody names id)) := by
    simp [typescriptBody]
  have last (id : String) : typescriptBody [] id = "  ".toList ++ ("register".toList ++
      '(' :: ((quoted .ascii id).toList ++ ", schema);\n\x7d\n".toList)) := by
    simp [typescriptBody]
  have own : '(' ∉ "register".toList := by decide
  induction first generalizing second with
  | nil =>
      cases second with
      | nil =>
          rw [last, last] at same
          have behind := List.append_cancel_left (List.append_cancel_left same)
          exact ⟨rfl, (eq_of_quoted_append (List.cons.inj behind).2).1⟩
      | cons name second =>
          rw [last, call] at same
          have here' := named' name List.mem_cons_self
          obtain ⟨words, -⟩ := eq_of_append_same_mark own here'.1 (List.append_cancel_left same)
          exact absurd (String.toList_inj.mp words).symm here'.2
  | cons name first ih =>
      obtain ⟨here, others⟩ := List.forall_mem_cons.mp named
      cases second with
      | nil =>
          rw [call, last] at same
          obtain ⟨words, -⟩ := eq_of_append_same_mark here.1 own (List.append_cancel_left same)
          exact absurd (String.toList_inj.mp words) here.2
      | cons name' second =>
          obtain ⟨here', others'⟩ := List.forall_mem_cons.mp named'
          rw [call, call] at same
          obtain ⟨words, rest⟩ := eq_of_append_same_mark here.1 here'.1 (List.append_cancel_left same)
          obtain ⟨rfl, ids⟩ := ih others others' (List.append_cancel_left rest)
          rw [String.toList_inj.mp words]
          exact ⟨rfl, ids⟩

namespace Emission

variable {settings : Settings} {definition : Definition} {file : GeneratedFile}
  (emission : Emission settings definition file)

/-- Each group of imports of a TypeScript module is one of registration functions. -/
theorem registers (typescript : settings.language = .typescript) :
    ∀ group ∈ emission.groups, group.Registers settings := by
  intro group member
  have imported : ∀ binding ∈ group.names, (⟨group.path, binding⟩ : Import) ∈
      settings.importsFor emission.targets := fun binding named =>
    emission.grouping.written.mem_iff.mp (mem_writtenImports.mpr ⟨group, member, rfl, named⟩)
  have named := emission.grouping.named group member
  obtain ⟨some, inside⟩ := List.exists_mem_of_ne_nil _ named
  refine ⟨checkKey_of_groupImports emission.grouped _ (imported some inside), ?_, named, ?_⟩
  · rcases Settings.mem_importsFor.mp (imported some inside) with same | ⟨target, -, same⟩
    · exact .inl (congrArg Import.path same)
    · exact .inr ⟨_, congrArg Import.path same⟩
  · intro binding among
    rcases Settings.mem_importsFor.mp (imported binding among) with same | ⟨target, -, same⟩
    · exact .inl (congrArg Import.binding same)
    · refine .inr ⟨target, (congrArg Import.binding same).trans ?_⟩
      rw [Settings.dependencyImport, typescript]
      rfl

/-- Each statement of a TypeScript module that imports something is a line. -/
theorem lines (typescript : settings.language = .typescript) :
    ∀ line ∈ emission.groups.map Language.typescript.importStatement, '\n' ∉ line.toList ∧ line ≠ "" := by
  rw [List.forall_mem_map]
  intro group member
  refine ⟨(emission.registers typescript group member).not_mem_importStatement, fun empty => ?_⟩
  have none := congrArg String.toList empty
  rw [ImportGroup.toList_importStatement] at none
  simp at none

/-- A module imports something. -/
theorem groups_ne_nil : emission.groups ≠ [] := by
  intro none
  have written := emission.grouping.written
  rw [none, writtenImports_nil, Settings.importsFor] at written
  exact List.cons_ne_nil _ _ written.nil_eq.symm

/-- The text of a TypeScript module. -/
theorem toList_content_typescript (typescript : settings.language = .typescript) :
    file.content.toList =
      ((emission.groups.map Language.typescript.importStatement).flatMap fun line =>
          line.toList ++ '\n' :: []) ++
        '\n' :: ("const schema: object = ".toList ++
          ((emission.schema.indented (Json.standard .unicode) 0).toList ++ ';' ::
            ("\n\nexport function addSchema() \x7b\n".toList ++
              typescriptBody (emission.targets.map settings.className) definition.id))) := by
  have some : emission.groups.map Language.typescript.importStatement ≠ [] := by
    simpa using emission.groups_ne_nil
  rw [← toList_intercalate_lines some, emission.content, typescript]
  simp [Language.moduleHead, Language.schemaText, Language.registerFunction,
    Language.ownRegistration, Language.moduleEnd, Language.registrationCall, typescriptBody,
    String.toList_join, List.flatMap_map, Function.comp_def]

/-- The calls of a module are no registration of its own schema. -/
theorem call_ne_register : ∀ name ∈ emission.targets.map settings.className,
    '(' ∉ name.toList ∧ name ≠ "register" := by
  rw [List.forall_mem_map]
  intro target _
  exact ⟨not_mem_className (by decide), className_ne_of_small (c := 'r') rfl rfl⟩

/-- Schemas that modules with the same imports know by the same name are imported from the same place. -/
theorem importPath_eq {other : Definition} {file' : GeneratedFile} (emission' : Emission settings other file')
    (groups : emission.groups = emission'.groups) : ∀ first ∈ emission.targets,
      ∀ second ∈ emission'.targets, settings.className first = settings.className second →
        settings.importPath first = settings.importPath second := by
  intro first here second there same
  have imported : settings.dependencyImport (settings.dependencyOn first) ∈
      settings.importsFor emission'.targets := by
    rw [← emission'.grouping.written.mem_iff, ← groups, emission.grouping.written.mem_iff]
    exact Settings.mem_importsFor.mpr (.inr ⟨first, here, rfl⟩)
  rcases Settings.mem_importsFor.mp imported with own | ⟨target, among, equal⟩
  · simp [Settings.dependencyImport, Settings.registerImport] at own
  · have names : settings.className first = settings.className target := by
      simpa [Settings.dependencyImport, Settings.dependencyOn] using congrArg Import.binding equal
    obtain rfl := emission'.className_injOn target among second there (names.symm.trans same)
    simpa [Settings.dependencyImport, Settings.dependencyOn] using congrArg Import.path equal

end Emission

/-- The text of a TypeScript module determines the id of its schema, the schema that is embedded in it, and
under which names and from where it imports the schemas that it depends on. -/
theorem typescript_text_determines {settings : Settings} {first second : Definition}
    {file other : GeneratedFile} (typescript : settings.language = .typescript)
    (made : settings.fileOf first = .ok file) (made' : settings.fileOf second = .ok other)
    (same : file.content = other.content) :
    first.id = second.id ∧
      (∃ schema schema', first.embeddedSchema = .ok schema ∧ second.embeddedSchema = .ok schema' ∧
        schema.Alike schema') ∧
      ∃ dependencies dependencies', settings.dependenciesOf first = .ok dependencies ∧
        settings.dependenciesOf second = .ok dependencies' ∧
        (dependencies.map fun dependency => (dependency.localName, dependency.importPath)) =
          dependencies'.map fun dependency => (dependency.localName, dependency.importPath) := by
  obtain ⟨emission⟩ := Emission.of_fileOf made
  obtain ⟨emission'⟩ := Emission.of_fileOf made'
  have texts := congrArg String.toList same
  rw [emission.toList_content_typescript typescript, emission'.toList_content_typescript typescript] at texts
  obtain ⟨lines, behindLines⟩ := eq_of_rows_append (emission.lines typescript)
    (emission'.lines typescript) texts
  obtain ⟨alike, behindSchema⟩ := emission.schema.determined ⟨';', _, rfl, by simp⟩ ⟨';', _, rfl, by simp⟩
    (List.append_cancel_left behindLines)
  obtain ⟨names, ids⟩ := eq_of_typescriptBody_eq emission.call_ne_register emission'.call_ne_register
    (List.append_cancel_left (List.cons.inj behindSchema).2)
  have groups : emission.groups = emission'.groups := by
    apply eq_of_map_eq lines
    intro group member group' member'
    exact (emission.registers typescript group member).eq_of_importStatement_eq
      (emission'.registers typescript group' member')
  refine ⟨ids, ⟨_, _, emission.embedded, emission'.embedded, alike⟩, _, _, emission.dependenciesOf_eq,
    emission'.dependenciesOf_eq, ?_⟩
  rw [List.map_map, List.map_map]
  apply map_eq_of_map_eq names
  intro target member target' member' label
  exact Prod.ext label (emission.importPath_eq emission' groups target member target' member' label)

/-- Two spellings of one reference give the same module. -/
theorem typescript_text_determines_for_spellings :
    let first := Definition.referringTo "a.B" ["#/definitions/a.C"]
    let second := Definition.referringTo "a.B" ["#/components/schemas/a.C"]
    ∃ file other, Settings.standard.fileOf first = .ok file ∧ Settings.standard.fileOf second = .ok other ∧
      first.schema ≠ second.schema ∧ file.content = other.content ∧ first.id = second.id := by
  intro first second
  obtain ⟨file, made⟩ := exists_eq_ok_of_isOk (x := Settings.standard.fileOf first) (by decide +kernel)
  obtain ⟨other, made'⟩ := exists_eq_ok_of_isOk (x := Settings.standard.fileOf second) (by decide +kernel)
  have files : Settings.standard.fileOf first = Settings.standard.fileOf second := by decide +kernel
  obtain rfl := Except.ok.inj (made.symm.trans (files.trans made'))
  have determined := typescript_text_determines rfl made made' rfl
  exact ⟨file, file, made, made', by decide, rfl, determined.1⟩

end Registrar
