import Registrar.Proofs.Python.Lines

/-!
# Programs of a generated module

A module that imports functions under names, assigns the schema, and calls the functions is a program. If
a line tries to import from what is no module, the text is no program, whatever stands behind the line.
-/

namespace Registrar.Python

/-- What a line imports: a function from a member of a package, under another name if that is not empty. -/
structure ImportLine where
  words : List (List Char)
  member : List Char
  function : List Char
  word : List Char

namespace ImportLine

def text (line : ImportLine) : List Char :=
  importText line.words line.member line.function line.word

def tokens (line : ImportLine) : List Token :=
  importTokens (packageTokens line.words ++ memberTokens line.member) line.function line.word

/-- The words of a line are names, but the member of no package and the other name may be missing. -/
structure Named (line : ImportLine) : Prop where
  words : ∀ word ∈ line.words, isPlainName word = true
  member : (line.words = [] ∧ line.member = []) ∨ isPlainName line.member = true
  function : isPlainName line.function = true
  word : line.word = [] ∨ isPlainName line.word = true

end ImportLine

theorem skipAttributes_flatMap (words : List (List Char)) (rest : List Token) :
    skipAttributes ((words.flatMap fun word => [.op .dot, .name word]) ++ rest) = skipAttributes rest := by
  induction words with
  | nil => rfl
  | cons word words ih => simpa [skipAttributes] using ih

/-- The member of a package is a module, and so is what has no package. -/
theorem namesModule {words : List (List Char)} {member : List Char} (place : words = [] ∨ member ≠ []) :
    NamesModule (packageTokens words ++ memberTokens member) := by
  intro rest
  cases words with
  | nil =>
      unfold memberTokens
      split <;> rfl
  | cons word words =>
      have named : member ≠ [] := by simpa using place
      simp [packageTokens, memberTokens, named, importedFrom, skipAttributes_flatMap, skipAttributes]

namespace ImportLine.Named

variable {line : ImportLine} (named : line.Named)

include named

theorem scans (rest : List Char) :
    Scans ⟨true, [], []⟩ (line.text ++ rest) line.tokens ⟨true, [], []⟩ rest :=
  scans_import named.words (named.member.imp And.right id) named.function named.word rest

theorem isStatement : IsStatement 4 line.tokens := by
  apply isStatement_import (namesModule _)
  exact named.member.imp And.left ne_nil_of_isPlainName

end ImportLine.Named

/-- Statements are no more than their tokens. -/
theorem length_le_length_flatten {cost : Nat} {lines : List (List Token)}
    (each : ∀ tokens ∈ lines, IsStatement cost tokens) : lines.length ≤ lines.flatten.length := by
  induction lines with
  | nil => simp
  | cons tokens lines ih =>
      obtain ⟨here, others⟩ := List.forall_mem_cons.mp each
      obtain ⟨token, more, rfl, -⟩ := here.begins
      have rest := ih others
      simp only [List.length_cons, List.flatten_cons, List.length_append]
      omega

/-- Imports are read line by line. -/
theorem scans_imports {imports : List ImportLine} (named : ∀ line ∈ imports, line.Named) (rest : List Char) :
    Scans ⟨true, [], []⟩ (imports.flatMap ImportLine.text ++ rest) (imports.map ImportLine.tokens).flatten
      ⟨true, [], []⟩ rest := by
  induction imports with
  | nil => exact Scans.refl _ rest
  | cons line imports ih =>
      obtain ⟨here, others⟩ := List.forall_mem_cons.mp named
      simpa using (here.scans _).trans (ih others)

/-- The text of a module: its imports, the assignment of the schema, and a function that calls others and
then registers the schema. -/
def programText (imports : List ImportLine) (schema : Json) (names : List (List Char)) (id : String) :
    List Char :=
  imports.flatMap ImportLine.text ++ '\n' :: ("schema: dict = ".toList ++
    ((Json.indented Json.literal 0 schema).toList ++ '\n' :: '\n' :: '\n' :: ("def ".toList ++
      ("add_schema".toList ++ ("() -> None:\n".toList ++
        (names.flatMap callText ++ registrationText id))))))

/-- The statements of the function of a module. -/
def bodyTokens (names : List (List Char)) : List (List Token) :=
  names.map callTokens ++ [registrationTokens "register".toList "schema".toList]

/-- The statements of a module whose schema is a value. -/
def programTokens (imports : List ImportLine) (value : List Token) (names : List (List Char)) :
    List (List Token) :=
  imports.map ImportLine.tokens ++
    [assignmentTokens "schema".toList "dict".toList value,
      functionTokens "add_schema".toList (bodyTokens names).flatten]

section

variable {imports : List ImportLine} {schema : Json} {names : List (List Char)} {id : String}

theorem getLast?_programText : (programText imports schema names id).getLast? = some '\n' := by
  have own : (registrationText id).getLast? = some '\n' := by
    simp [registrationText, List.getLast?_append, List.getLast?_cons]
  simp [programText, List.getLast?_append, List.getLast?_cons, own]

/-- The text of a module is read as its statements. -/
theorem tokens?_programText (lines : ∀ line ∈ imports, line.Named)
    (calls : ∀ name ∈ names, name = [] ∨ isPlainName name = true)
    (shallow : schema.nesting ≤ greatestDepth)
    (noReturn : '\r' ∉ programText imports schema names id) :
    ∃ value, ValueTokens value ∧
      tokens? (programText imports schema names id) = some (programTokens imports value names).flatten ∧
      (programTokens imports value names).flatten.length ≤
        (programText imports schema names id).length + 1 := by
  have body := scans_body bodyLine_first calls id []
  have head := scans_functionHead (by decide : isPlainName "add_schema".toList = true)
    (names.flatMap callText ++ (registrationText id ++ []))
  have function := (scans_emptyLine _).trans ((scans_emptyLine _).trans (head.trans body))
  obtain ⟨value, values, valueRun⟩ :=
    scans_indented [] 0 _ (endsValue_line _) schema [] (by simpa using shallow)
  have assignment := (scans_emptyLine _).trans ((scans_assignment _).trans
    (valueRun.trans ((scans_lineEnd _).trans function)))
  have run : Scans ⟨true, [], []⟩ (programText imports schema names id) _ ⟨true, [⟨4, 4⟩], []⟩ [] :=
    (scans_imports lines _).trans (by simpa using assignment)
  have read := tokens?_of_scans noReturn getLast?_programText run
  have few := run.short
  refine ⟨value, values, ?_, ?_⟩
  · rw [read]
    simp [programTokens, assignmentTokens, functionTokens, bodyTokens]
  · simp only [programTokens, assignmentTokens, functionTokens, bodyTokens] at few ⊢
    simp at few ⊢
    omega

theorem isStatement_of_mem_bodyTokens (calls : ∀ name ∈ names, name ≠ matchWord) :
    ∀ tokens ∈ bodyTokens names, IsStatement 27 tokens := by
  rw [bodyTokens, List.forall_mem_append, List.forall_mem_map, List.forall_mem_singleton]
  exact ⟨fun name member => (isStatement_call (calls name member)).mono (by omega),
    isStatement_registration (by decide) _⟩

theorem isStatement_of_mem_programTokens (lines : ∀ line ∈ imports, line.Named) {value : List Token}
    (values : ValueTokens value) (calls : ∀ name ∈ names, name ≠ matchWord) :
    ∀ tokens ∈ programTokens imports value names,
      IsStatement (12 * value.length + names.length + 56) tokens := by
  rw [programTokens, List.forall_mem_append, List.forall_mem_map, List.forall_mem_cons,
    List.forall_mem_singleton]
  refine ⟨fun line member => (lines line member).isStatement.mono (by omega), ?_, ?_⟩
  · exact (isStatement_assignment (by decide) _ values).mono (by omega)
  · apply (isStatement_function _ (isStatement_of_mem_bodyTokens calls)).mono
    simp [bodyTokens]
    omega

/-- The statements of a module are read in steps for each of their tokens. -/
theorem areStatements_programTokens (lines : ∀ line ∈ imports, line.Named) {value : List Token}
    (values : ValueTokens value) (calls : ∀ name ∈ names, name ≠ matchWord) {steps : Nat}
    (enough : 40 * ((programTokens imports value names).flatten.length + 1) ≤ steps) :
    areStatements steps (programTokens imports value names).flatten = true := by
  have each := isStatement_of_mem_programTokens lines values calls
  have more := length_le_length_flatten each
  have inBody := length_le_length_flatten (isStatement_of_mem_bodyTokens calls)
  have long : value.length + names.length < (programTokens imports value names).flatten.length := by
    simp only [bodyTokens, List.length_append, List.length_map] at inBody
    simp [programTokens, assignmentTokens, functionTokens, bodyTokens] at inBody ⊢
    omega
  obtain ⟨left, rfl⟩ : ∃ left, steps = left + 1 + (programTokens imports value names).length :=
    ⟨steps - (programTokens imports value names).length - 1, by omega⟩
  have read := reads_statements_flatten each [] (by omega : _ ≤ left + 1)
  rw [List.append_nil] at read
  rw [areStatements, read]
  rfl

/-- The text of a module with names for its imports and its calls is a program. -/
theorem isProgram_programText (lines : ∀ line ∈ imports, line.Named)
    (calls : ∀ name ∈ names, (name = [] ∨ isPlainName name = true) ∧ name ≠ matchWord)
    (shallow : schema.nesting ≤ greatestDepth)
    (plain : ∀ c ∈ programText imports schema names id, c ≠ '\r' ∧ c ≠ '\x00') :
    isProgram (String.ofList (programText imports schema names id)) = true := by
  have noNull : (programText imports schema names id).contains '\x00' = false := by
    rw [Bool.eq_false_iff, ne_eq, List.contains_iff_mem]
    exact fun member => (plain _ member).2 rfl
  obtain ⟨value, values, read, few⟩ := tokens?_programText lines
    (fun name member => (calls name member).1) shallow (fun member => (plain _ member).1 rfl)
  have statements := areStatements_programTokens lines values (fun name member => (calls name member).2)
    (by omega : _ ≤ 40 * ((programText imports schema names id).length + 2))
  simp [isProgram, read, statements, List.contains_eq_mem] at noNull ⊢
  exact noNull

/-- What stands behind the point after a package is no member of it. -/
def NoModule (words : List (List Char)) (rest : List Char) : Prop :=
  ∀ left more, Position.cost ⟨false, [], []⟩ ('.' :: rest) ≤ left →
    scan left ⟨false, [], []⟩ ('.' :: rest) = some more →
      (importedFrom (packageTokens words ++ more)).bind (skipWord? .import_) = none

/-- Behind a package there is an import only where no point follows. -/
theorem importedFrom_package {words : List (List Char)} {more : List Token}
    (noMember : ∀ name rest, more ≠ .op .dot :: .name name :: rest) (package : words ≠ []) :
    importedFrom (packageTokens words ++ more) = some more := by
  obtain ⟨word, others, rfl⟩ := List.exists_cons_of_ne_nil package
  have stops : skipAttributes more = more := by
    unfold skipAttributes
    split
    · exact absurd rfl (noMember _ _)
    · rfl
  simp [packageTokens, importedFrom, skipAttributes_flatMap, stops]

/-- A point and a digit behind it are the begin of a number. -/
theorem noModule_digit (words : List (List Char)) {digit : Char} (isDigit : digit.isDigit = true)
    (rest : List Char) : NoModule words (digit :: rest) := by
  intro left more _ found
  obtain ⟨imaginary, after, rfl⟩ : ∃ imaginary after, more = .number imaginary :: after := by
    have read : lexeme? ('.' :: digit :: rest) = (numeral? ('.' :: digit :: rest)).map
        fun found => (.number found.1, found.2) := by
      unfold lexeme?
      rw [literalStart?_cons_eq_none (by decide) (by decide) (by decide)]
      simp [startsNumeral, isDigit, (by decide : isNameStart '.' = false)]
    cases left with
    | zero => simp [scan] at found
    | succ left =>
        rw [scan_visible (by decide), read] at found
        cases number : numeral? ('.' :: digit :: rest) with
        | none => simp [number] at found
        | some answer =>
            obtain ⟨after, -, same⟩ := Option.map_eq_some_iff.mp (by simpa [number, dueBehind] using found)
            exact ⟨_, after, same.symm⟩
  cases words with
  | nil => rfl
  | cons word words =>
      rw [importedFrom_package (by simp) (by simp)]
      rfl

/-- A reserved word is no member of a package. -/
theorem noModule_keyword (words : List (List Char)) {word : List Char} (plain : isPlainWord word = true)
    {keyword : Keyword} (reserved : Token.ofWord word = .keyword keyword) (other : keyword ≠ .import_)
    (rest : List Char) : NoModule words (word ++ ' ' :: rest) := by
  intro left more enough found
  have run : Scans ⟨false, [], []⟩ ('.' :: (word ++ ' ' :: rest)) _ ⟨false, [], []⟩ (' ' :: rest) :=
    scans_dotWord plain (by decide) rest
  obtain ⟨-, after, -, -, rfl⟩ := run.exists_of_scan enough found
  rw [reserved]
  cases words with
  | nil => simp [packageTokens, importedFrom, skipDots, skipWord?, other]
  | cons word words =>
      rw [importedFrom_package (by simp) (by simp)]
      rfl

/-- A package has a member behind its point. -/
theorem noModule_empty {words : List (List Char)} (package : words ≠ []) (rest : List Char) :
    NoModule words (' ' :: ("import ".toList ++ rest)) := by
  intro left more enough found
  have keyword : Scans ⟨false, [], []⟩ ("import".toList ++ ' ' :: rest) [.keyword .import_]
      ⟨false, [], []⟩ rest := scans_wordBlank (by decide) (by decide) rest
  have run := (scans_dot (by decide) (by decide) _).trans ((scans_blank _).trans keyword)
  obtain ⟨-, after, -, -, rfl⟩ := run.exists_of_scan enough found
  rw [importedFrom_package (by simp) package]
  rfl

/-- The text of a module up to what one of its lines imports from. -/
theorem exists_programText_eq (before : List ImportLine) (line : ImportLine) (after : List ImportLine) :
    ∃ rest, programText (before ++ line :: after) schema names id =
      before.flatMap ImportLine.text ++
        ("from ".toList ++ (packageText line.words ++
          '.' :: (line.member ++ ' ' :: ("import ".toList ++ rest)))) := by
  refine ⟨line.function ++ (aliasText line.word ++ '\n' :: (programText after schema names id)), ?_⟩
  simp [programText, ImportLine.text, importText]

/-- A text is no program if, behind lines that import from modules, one tries to import from what is
none. -/
theorem isProgram_of_broken {words : List (List Char)} {rest : List Char}
    (lines : ∀ line ∈ imports, line.Named) (package : ∀ word ∈ words, isPlainName word = true)
    (noModule : NoModule words rest)
    (noReturn : '\r' ∉ imports.flatMap ImportLine.text ++
      ("from ".toList ++ (packageText words ++ '.' :: rest)))
    (last : rest.getLast? = some '\n') :
    isProgram (String.ofList (imports.flatMap ImportLine.text ++
      ("from ".toList ++ (packageText words ++ '.' :: rest)))) = false := by
  have run := (scans_imports lines _).trans (scans_from package rest)
  have lastLine : (imports.flatMap ImportLine.text ++
      ("from ".toList ++ (packageText words ++ '.' :: rest))).getLast? = some '\n' := by
    simp [List.getLast?_append, List.getLast?_cons, last]
  generalize imports.flatMap ImportLine.text ++
    ("from ".toList ++ (packageText words ++ '.' :: rest)) = text at run noReturn lastLine ⊢
  have each : ∀ tokens ∈ imports.map ImportLine.tokens, IsStatement 4 tokens := by
    rw [List.forall_mem_map]
    exact fun line member => (lines line member).isStatement
  have refused : ∀ tokens, tokens? text = some tokens →
      areStatements (40 * (text.length + 2)) tokens = false := by
    intro tokens whole
    obtain ⟨left, more, among, behind, rfl⟩ := exists_of_tokens? noReturn lastLine run whole
    have few := run.short
    have fewer := length_le_length_flatten each
    rw [List.length_append] at few
    obtain ⟨steps, enough⟩ : ∃ steps, 40 * (text.length + 2) = steps + (imports.map ImportLine.tokens).length :=
      ⟨40 * (text.length + 2) - (imports.map ImportLine.tokens).length, by omega⟩
    have read := reads_statements_flatten each (.keyword .from_ :: (packageTokens words ++ more))
      (by omega : 4 ≤ steps)
    rw [reads_statements_import_eq_none (noModule left more among behind)] at read
    rw [enough]
    simp only [areStatements, List.append_assoc, List.cons_append, read]
  cases whole : tokens? text with
  | none => simp [isProgram, whole]
  | some tokens => simp [isProgram, whole, refused tokens whole]

end

end Registrar.Python
