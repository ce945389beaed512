import Registrar.Proofs.Python.Expressions

/-!
# Reading statements

The statements that a generated module consists of, each by its tokens. A statement is read in a number
of steps whatever stands behind it, so statements one behind the other are read one by one. An import
from what is no module is never read.
-/

namespace Registrar.Python

variable {steps cost : Nat}

/-- Tokens that are read as one statement, whatever stands behind them. -/
structure IsStatement (cost : Nat) (tokens : List Token) : Prop where
  begins : ∃ token more, tokens = token :: more ∧ token ≠ .dedent
  reads : ∀ steps rest, cost ≤ steps → Reads steps .statement (tokens ++ rest) rest

theorem IsStatement.mono {more : Nat} {tokens : List Token} (statement : IsStatement cost tokens)
    (enough : cost ≤ more) : IsStatement more tokens where
  begins := statement.begins
  reads steps rest large := statement.reads steps rest (by omega)

/-- Behind a statement, the statements that follow it are read. -/
theorem IsStatement.reads_statements {tokens : List Token} (statement : IsStatement cost tokens)
    (rest : List Token) (enough : cost ≤ steps) :
    Python.reads (steps + 1) .statements (tokens ++ rest) = Python.reads steps .statements rest := by
  have read := (statement.reads steps rest enough).behind
  obtain ⟨token, more, rfl, other⟩ := statement.begins
  rw [reads_succ, rules]
  unfold statementsRule
  split
  · simp_all
  · simp_all
  · rw [read]
    rfl

/-- Statements are read one behind the other. -/
theorem reads_statements_flatten {lines : List (List Token)}
    (each : ∀ line ∈ lines, IsStatement cost line) (rest : List Token) (enough : cost ≤ steps) :
    reads (steps + lines.length) .statements (lines.flatten ++ rest) = reads steps .statements rest := by
  induction lines with
  | nil => rfl
  | cons line lines ih =>
      obtain ⟨here, others⟩ := List.forall_mem_cons.mp each
      rw [List.length_cons, List.flatten_cons, List.append_assoc, ← Nat.add_assoc,
        here.reads_statements _ (by omega), ih others]

/-- A simple statement may have a line of its own. -/
theorem Reads.simpleLine {tokens rest : List Token} (read : Reads steps .simple tokens (.newline :: rest)) :
    Reads (steps + 1) .simpleLine tokens rest := by
  refine ⟨.other, ?_⟩
  rw [reads_succ, rules]
  simp only [simpleLineRule, read.behind]
  rfl

/-- A line that begins with a name is no choice between patterns unless the name is the word for one. -/
theorem statementRule_name (read : Goal → Rule) {name : List Char} (other : name ≠ matchWord)
    (more : List Token) :
    statementRule read (.name name :: more) = read .simpleLine (.name name :: more) := by
  simp [statementRule, other]

/-- Tokens that name a module behind `from`. -/
def NamesModule (place : List Token) : Prop :=
  ∀ rest, importedFrom (place ++ .keyword .import_ :: rest) = some (.keyword .import_ :: rest)

/-- A new name behind `as`, if there is one. -/
def aliasTokens (word : List Char) : List Token :=
  if word = [] then [] else [.keyword .as_, .name word]

/-- An import of a function from a place, under another name if that is not empty. -/
def importTokens (place : List Token) (function word : List Char) : List Token :=
  .keyword .from_ :: (place ++ .keyword .import_ :: .name function :: (aliasTokens word ++ [.newline]))

theorem isStatement_import {place : List Token} (names : NamesModule place) (function word : List Char) :
    IsStatement 4 (importTokens place function word) where
  begins := ⟨_, _, rfl, by simp⟩
  reads steps rest enough := by
    obtain ⟨steps, rfl⟩ : ∃ before, steps = before + 4 := ⟨steps - 4, by omega⟩
    have imported : Python.reads (steps + 1) .importedNames
        (.name function :: (aliasTokens word ++ .newline :: rest)) = some (.other, .newline :: rest) := by
      unfold aliasTokens
      split <;> rfl
    have from_ := names (.name function :: (aliasTokens word ++ .newline :: rest))
    have simple : Reads (steps + 2) .simple (.keyword .from_ :: (place ++ .keyword .import_ ::
        .name function :: (aliasTokens word ++ .newline :: rest))) (.newline :: rest) := by
      refine ⟨.other, ?_⟩
      rw [reads_succ, rules]
      simp only [simpleRule, from_]
      exact imported
    obtain ⟨form, same⟩ := simple.simpleLine
    refine ⟨form, ?_⟩
    simp only [importTokens, List.cons_append, List.append_assoc, List.nil_append]
    exact same

/-- Tokens behind `from` that name no module are no statement. -/
theorem reads_statements_import_eq_none {place : List Token}
    (noModule : (importedFrom place).bind (skipWord? .import_) = none) (steps : Nat) :
    reads steps .statements (.keyword .from_ :: place) = none := by
  have simple (steps : Nat) : reads steps .simple (.keyword .from_ :: place) = none := by
    cases steps with
    | zero => rfl
    | succ steps =>
        rw [reads_succ, rules]
        simp only [simpleRule]
        cases named : importedFrom place with
        | none => rfl
        | some behind =>
            rw [named, Option.bind_some] at noModule
            simp [noModule]
  have line (steps : Nat) : reads steps .simpleLine (.keyword .from_ :: place) = none := by
    cases steps with
    | zero => rfl
    | succ steps =>
        rw [reads_succ, rules]
        simp [simpleLineRule, behind, simple]
  have statement (steps : Nat) : reads steps .statement (.keyword .from_ :: place) = none := by
    cases steps with
    | zero => rfl
    | succ steps => exact line steps
  cases steps with
  | zero => rfl
  | succ steps =>
      rw [reads_succ, rules]
      simp [statementsRule, behind, statement]

/-- The assignment of a value to a name with an annotation. -/
def assignmentTokens (name type : List Char) (value : List Token) : List Token :=
  .name name :: .op .colon :: .name type :: .op .assign :: (value ++ [.newline])

/-- A value is read where several expressions may stand. -/
theorem reads_expressions_of_value {value : List Token} (values : ValueTokens value) (rest : List Token)
    (enough : 12 * value.length ≤ steps) :
    Reads (steps + 2) .expressions (value ++ .newline :: rest) (.newline :: rest) := by
  obtain ⟨form, same⟩ := isReadable_of_valueTokens values steps (.newline :: rest) enough
    (.newline rest)
  have item : reads (steps + 1) .starItem (value ++ .newline :: rest) = some (form, .newline :: rest) := by
    rw [reads_succ, rules, starOr_of_value _ _ values, same]
  refine ⟨form, ?_⟩
  rw [reads_succ, rules]
  simp [expressionsRule, item]

/-- A value is not yielded. -/
theorem assignedValue_of_value (read : Goal → Rule) {value : List Token} (values : ValueTokens value)
    (behind : List Token) : assignedValue read (value ++ behind) = read .expressions (value ++ behind) := by
  rcases values.begins with ⟨token, known, rfl⟩ | ⟨operator, more, opening, rfl⟩
  · unfold assignedValue
    split
    · simp_all [isAtom]
    · rfl
  · rfl

theorem isStatement_assignment {name : List Char} (other : name ≠ matchWord) (type : List Char)
    {value : List Token} (values : ValueTokens value) :
    IsStatement (12 * value.length + 16) (assignmentTokens name type value) where
  begins := ⟨_, _, rfl, by simp⟩
  reads steps rest enough := by
    obtain ⟨steps, rfl⟩ : ∃ before, steps = before + 13 := ⟨steps - 13, by omega⟩
    obtain ⟨form, same⟩ : Reads (steps + 10) .expressions (value ++ .newline :: rest) (.newline :: rest) :=
      reads_expressions_of_value values rest (by omega)
    have target : Python.reads (steps + 10) .expressions
        (.name name :: .op .colon :: .name type :: .op .assign :: (value ++ .newline :: rest)) =
          some (.name, .op .colon :: .name type :: .op .assign :: (value ++ .newline :: rest)) := rfl
    have annotated : behind (Python.reads (steps + 10)) .expression
        (.name type :: .op .assign :: (value ++ .newline :: rest)) =
          some (.op .assign :: (value ++ .newline :: rest)) := rfl
    have simple : Reads (steps + 11) .simple
        (.name name :: .op .colon :: .name type :: .op .assign :: (value ++ .newline :: rest))
        (.newline :: rest) := by
      refine ⟨form, ?_⟩
      rw [reads_succ, rules]
      simp [simpleRule, expressionStatement, target, isAnnotatable, annotated,
        assignedValue_of_value _ values, same]
    obtain ⟨form, line⟩ := simple.simpleLine
    refine ⟨form, ?_⟩
    simp only [assignmentTokens, List.cons_append, List.append_assoc, List.nil_append]
    rw [reads_succ, rules, statementRule_name _ other, line]

/-- A call without arguments of a function whose name may be empty. -/
def callTokens (function : List Char) : List Token :=
  (if function = [] then [] else [.name function]) ++ [.op .openParen, .op .closeParen, .newline]

theorem isStatement_call {function : List Char} (other : function ≠ matchWord) :
    IsStatement 15 (callTokens function) where
  begins := by
    unfold callTokens
    split <;> exact ⟨_, _, rfl, by simp⟩
  reads steps rest enough := by
    obtain ⟨steps, rfl⟩ : ∃ before, steps = before + 15 := ⟨steps - 15, by omega⟩
    unfold callTokens
    split
    · exact ⟨.other, rfl⟩
    · refine ⟨.other, ?_⟩
      rw [reads_succ, rules]
      exact statementRule_name _ other _

/-- The call of a function with a text and a name. -/
def registrationTokens (function name : List Char) : List Token :=
  [.name function, .op .openParen, .literal false [], .op .comma, .name name, .op .closeParen, .newline]

theorem isStatement_registration {function : List Char} (other : function ≠ matchWord)
    (name : List Char) : IsStatement 27 (registrationTokens function name) where
  begins := ⟨_, _, rfl, by simp⟩
  reads steps rest enough := by
    obtain ⟨steps, rfl⟩ : ∃ before, steps = before + 27 := ⟨steps - 27, by omega⟩
    refine ⟨.other, ?_⟩
    rw [reads_succ, rules]
    exact statementRule_name _ other _

/-- A function without parameters that returns nothing, with the statements of its body. -/
def functionTokens (name : List Char) (body : List Token) : List Token :=
  [.keyword .def_, .name name, .op .openParen, .op .closeParen, .op .arrow, .keyword .none_, .op .colon,
    .newline, .indent] ++ body ++ [.dedent]

theorem isStatement_function (name : List Char) {lines : List (List Token)}
    (each : ∀ line ∈ lines, IsStatement cost line) :
    IsStatement (cost + lines.length + 12) (functionTokens name lines.flatten) where
  begins := ⟨_, _, rfl, by simp⟩
  reads steps rest enough := by
    obtain ⟨steps, rfl⟩ : ∃ before, steps = before + 1 + lines.length + 2 :=
      ⟨steps - lines.length - 3, by omega⟩
    have body : Python.reads (steps + 1 + lines.length) .statements
        (lines.flatten ++ .dedent :: rest) = some (.other, .dedent :: rest) :=
      reads_statements_flatten each (.dedent :: rest) (by omega)
    have block : Python.reads (steps + 1 + lines.length + 1) .block
        (.op .colon :: .newline :: .indent :: (lines.flatten ++ .dedent :: rest)) = some (.other, rest) := by
      rw [reads_succ, rules]
      simp [blockRule, behind, body]
    obtain ⟨inner, same⟩ : ∃ inner, steps + 1 + lines.length + 1 = inner + 8 :=
      ⟨steps + lines.length - 6, by omega⟩
    rw [same] at block
    have returned : behind (Python.reads (inner + 8)) .expression
        (.keyword .none_ :: .op .colon :: .newline :: .indent :: (lines.flatten ++ .dedent :: rest)) =
          some (.op .colon :: .newline :: .indent :: (lines.flatten ++ .dedent :: rest)) := rfl
    have parameters (after : List Token) :
        behind (Python.reads (inner + 8)) (.parameters true .start) (.op .closeParen :: after) =
          some (.op .closeParen :: after) := rfl
    refine ⟨.other, ?_⟩
    rw [show steps + 1 + lines.length + 2 = inner + 8 + 1 by omega, reads_succ, rules]
    simp [functionTokens, statementRule, functionStatement, skipName?, skip?, parameters, returned, block]

end Registrar.Python
