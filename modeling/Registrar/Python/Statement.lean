import Registrar.Python.Pattern

/-!
# The grammar of statements

A program is a list of statements, and so is an indented block. Simple statements share a line,
with semicolons between them; the others end with a block.

The words `match` and `case` are names everywhere else. A line that begins with `match` is read as
the begin of a choice between patterns, and as an ordinary line if that fails.
-/

namespace Registrar.Python

variable (read : Goal → Rule)

/-- Any number of statements, up to the end of the block or of the program. -/
def statementsRule : Rule
  | [] => some (.other, [])
  | .dedent :: rest => some (.other, .dedent :: rest)
  | tokens => do read .statements (← behind read .statement tokens)

/-- A colon and a block: simple statements on the same line, or lines that are indented. -/
def blockRule : Rule
  | .op .colon :: .newline :: .indent :: rest => do
      match ← behind read .statements rest with
      | .dedent :: after => return (.other, after)
      | _ => none
  | .op .colon :: rest => read .simpleLine rest
  | _ => none

/-- Simple statements up to the end of the line. -/
def simpleLineRule : Rule := fun tokens => do
  match ← behind read .simple tokens with
  | .newline :: rest => return (.other, rest)
  | .op .semicolon :: .newline :: rest => return (.other, rest)
  | .op .semicolon :: rest => read .simpleLine rest
  | _ => none

/-- An `else` with its block, if there is one. -/
def elseBlockRule : Rule
  | .keyword .else_ :: rest => read .block rest
  | tokens => some (.other, tokens)

/-- A `finally` with its block, if there is one. -/
def finallyBlockRule : Rule
  | .keyword .finally_ :: rest => read .block rest
  | tokens => some (.other, tokens)

/-- What follows an equals sign: a `yield`, or expressions that are the value or the next
target. -/
def assignedRule : Rule
  | .keyword .yield_ :: rest => read .yielded rest
  | tokens => do
      let (form, after) ← read .expressions tokens
      match after with
      | .op .assign :: rest => if form.isItemTarget then read .assigned rest else none
      | _ => return (form, after)

/-- The value of an assignment to one target. -/
def assignedValue : Rule
  | .keyword .yield_ :: rest => read .yielded rest
  | tokens => read .expressions tokens

/-- Whether a target for one value stands in parentheses at the front of some tokens. -/
def startsGroupedTarget (tokens : List Token) : Bool :=
  match read .atom tokens with
  | some (.group inner, _) => inner.isSingle
  | _ => false

/-- Whether an expression of a form that is read from some tokens may have an annotation. Where
parentheses around a target begin the expression, they have to be all of it. -/
def isAnnotatable (tokens : List Token) : Form → Bool
  | .name => true
  | .part => !startsGroupedTarget read tokens
  | .group inner => inner.isSingle
  | _ => false

/-- Expressions by themselves, or as targets of an assignment. -/
def expressionStatement : Rule := fun tokens => do
  let (form, after) ← read .expressions tokens
  match after with
  | .op .assign :: rest => if form.isItemTarget then read .assigned rest else none
  | .op .augmented :: rest => if form.isSingle then assignedValue read rest else none
  | .op .colon :: rest =>
      if isAnnotatable read tokens form then do
        let annotated ← behind read .expression rest
        match annotated with
        | .op .assign :: value => assignedValue read value
        | _ => return (.other, annotated)
      else none
  | _ => return (form, after)

/-- One or more names with commas. -/
def namesRule : Rule := fun tokens => do
  match ← skipName? tokens with
  | .op .comma :: rest => read .names rest
  | after => return (.other, after)

/-- A new name behind `as`, if there is one. -/
def renamed : List Token → Option (List Token)
  | .keyword .as_ :: rest => skipName? rest
  | tokens => some tokens

/-- One or more modules with commas. -/
def importedModulesRule : Rule := fun tokens => do
  match ← renamed (skipAttributes (← skipName? tokens)) with
  | .op .comma :: rest => read .importedModules rest
  | after => return (.other, after)

/-- One or more imported names with commas. A comma at the end is left. -/
def importedNamesRule : Rule := fun tokens => do
  match ← renamed (← skipName? tokens) with
  | .op .comma :: .name word :: rest => read .importedNames (.name word :: rest)
  | after => return (.other, after)

/-- What is left behind the dots in front of a relative module. -/
def skipDots : List Token → List Token
  | .op .dot :: rest => skipDots rest
  | .op .ellipsis :: rest => skipDots rest
  | tokens => tokens

/-- The module behind `from`, which may be nothing but dots. -/
def importedFrom : List Token → Option (List Token)
  | .name _ :: rest => some (skipAttributes rest)
  | .op .dot :: rest =>
      match skipDots rest with
      | .name _ :: after => some (skipAttributes after)
      | after => some after
  | .op .ellipsis :: rest =>
      match skipDots rest with
      | .name _ :: after => some (skipAttributes after)
      | after => some after
  | _ => none

/-- The names behind `import`: all, some in parentheses, or some without. -/
def importTargets : Rule
  | .op .star :: rest => some (.other, rest)
  | .op .openParen :: rest => do
      match ← behind read .importedNames rest with
      | .op .comma :: after => return (.other, ← skip? .closeParen after)
      | after => return (.other, ← skip? .closeParen after)
  | tokens => read .importedNames tokens

/-- One simple statement. -/
def simpleRule : Rule
  | .keyword .pass_ :: rest => some (.other, rest)
  | .keyword .break_ :: rest => some (.other, rest)
  | .keyword .continue_ :: rest => some (.other, rest)
  | .keyword .return_ :: rest =>
      if startsItem rest then read .expressions rest else some (.other, rest)
  | .keyword .yield_ :: rest => read .yielded rest
  | .keyword .raise_ :: rest =>
      if startsExpression rest then do
        match ← behind read .expression rest with
        | .keyword .from_ :: cause => read .expression cause
        | after => return (.other, after)
      else some (.other, rest)
  | .keyword .global_ :: rest => read .names rest
  | .keyword .nonlocal_ :: rest => read .names rest
  | .keyword .del_ :: rest => do
      let (form, after) ← read .expressions rest
      if form.isDeletable then return (.other, after) else none
  | .keyword .assert_ :: rest => do
      match ← behind read .expression rest with
      | .op .comma :: message => read .expression message
      | after => return (.other, after)
  | .keyword .import_ :: rest => read .importedModules rest
  | .keyword .from_ :: rest => do
      importTargets read (← skipWord? .import_ (← importedFrom rest))
  | tokens => expressionStatement read tokens

/-- A condition with its block, and what may follow it. -/
def conditionRule : Rule := fun tokens => do
  match ← behind read .block (← behind read .named tokens) with
  | .keyword .elif_ :: rest => read .condition rest
  | after => read .elseBlock after

/-- A loop over values, behind its word. -/
def forStatement : Rule := fun tokens => do
  let values ← skipWord? .in_ (← behind read .targets tokens)
  read .elseBlock (← behind read .block (← behind read .expressions values))

/-- A loop under a condition, behind its word. -/
def whileStatement : Rule := fun tokens => do
  read .elseBlock (← behind read .block (← behind read .named tokens))

/-- One or more contexts, each perhaps with a target, with commas. A comma at the end is left. -/
def withItemsRule : Rule := fun tokens => do
  let context ← behind read .expression tokens
  let after ←
    match context with
    | .keyword .as_ :: rest => (targetItem read rest).map (·.2)
    | _ => some context
  match after with
  | .op .comma :: rest =>
      if startsExpression rest then read .withItems rest else some (.other, after)
  | _ => some (.other, after)

/-- Contexts in parentheses, up to the colon. -/
def groupedContexts (tokens : List Token) : Option (List Token) := do
  let items ← behind read .withItems (← skip? .openParen tokens)
  let closed ←
    match items with
    | .op .comma :: rest => skip? .closeParen rest
    | _ => skip? .closeParen items
  match closed with
  | .op .colon :: _ => return closed
  | _ => none

/-- A block with contexts, behind its word. Parentheses around all of the contexts are tried
first. -/
def withStatement : Rule := fun tokens =>
  match groupedContexts read tokens with
  | some after => read .block after
  | none => do read .block (← behind read .withItems tokens)

/-- One or more handlers, all of them for groups or none, and what may follow them. -/
def handlersRule (starred : Bool) : Rule := fun tokens => do
  let rest ← skipWord? .except_ tokens
  let caught ←
    match starred, rest with
    | true, _ => do renamed (← behind read .expression (← skip? .star rest))
    | false, .op .colon :: _ => some rest
    | false, _ => do renamed (← behind read .expression rest)
  match ← behind read .block caught with
  | .keyword .except_ :: more => read (.handlers starred) (.keyword .except_ :: more)
  | after => read .finallyBlock (← behind read .elseBlock after)

/-- A block whose errors are handled, behind its word. -/
def tryStatement : Rule := fun tokens => do
  match ← behind read .block tokens with
  | .keyword .finally_ :: rest => read .block rest
  | .keyword .except_ :: .op .star :: rest =>
      read (.handlers true) (.keyword .except_ :: .op .star :: rest)
  | after => read (.handlers false) after

/-- A function, behind its word. -/
def functionStatement : Rule := fun tokens => do
  let parameters ← skip? .openParen (← skipName? tokens)
  match ← skip? .closeParen (← behind read (.parameters true .start) parameters) with
  | .op .arrow :: rest => do read .block (← behind read .expression rest)
  | after => read .block after

/-- A class, behind its word. -/
def classStatement : Rule := fun tokens => do
  match ← skipName? tokens with
  | .op .openParen :: .op .closeParen :: rest => read .block rest
  | .op .openParen :: rest => do
      read .block (← skip? .closeParen (← behind read (.arguments .positional) rest))
  | after => read .block after

/-- Decorators with the function or class they stand at, behind the first sign. -/
def decoratedRule : Rule := fun tokens => do
  match ← behind read .named tokens with
  | .newline :: .op .at :: rest => read .decorated rest
  | .newline :: .keyword .def_ :: rest => functionStatement read rest
  | .newline :: .keyword .class_ :: rest => classStatement read rest
  | .newline :: .keyword .async_ :: .keyword .def_ :: rest => functionStatement read rest
  | _ => none

/-- The word that begins a choice between patterns. -/
def matchWord : List Char := ['m', 'a', 't', 'c', 'h']

/-- The word that begins a pattern. -/
def caseWord : List Char := ['c', 'a', 's', 'e']

/-- One or more patterns with their blocks. -/
def casesRule : Rule
  | .name word :: rest =>
      if word = caseWord then do
        let (_, pattern) ← openPattern read rest
        let guarded ←
          match pattern with
          | .keyword .if_ :: condition => behind read .named condition
          | _ => some pattern
        match ← behind read .block guarded with
        | .name next :: more => read .cases (.name next :: more)
        | after => return (.other, after)
      else none
  | _ => none

/-- A choice between patterns, behind its word. -/
def matchStatement : Rule := fun tokens => do
  let (form, after) ← read .starNamed tokens
  let subject ←
    match after with
    | .op .comma :: rest => behind read .moreNamed rest
    | _ => if form.isStarred then none else some after
  match subject with
  | .op .colon :: .newline :: .indent :: rest => do
      match ← behind read .cases rest with
      | .dedent :: last => return (.other, last)
      | _ => none
  | _ => none

/-- One statement. -/
def statementRule : Rule
  | .keyword .if_ :: rest => read .condition rest
  | .keyword .while_ :: rest => whileStatement read rest
  | .keyword .for_ :: rest => forStatement read rest
  | .keyword .try_ :: rest => tryStatement read rest
  | .keyword .with_ :: rest => withStatement read rest
  | .keyword .def_ :: rest => functionStatement read rest
  | .keyword .class_ :: rest => classStatement read rest
  | .keyword .async_ :: .keyword .def_ :: rest => functionStatement read rest
  | .keyword .async_ :: .keyword .for_ :: rest => forStatement read rest
  | .keyword .async_ :: .keyword .with_ :: rest => withStatement read rest
  | .op .at :: rest => read .decorated rest
  | .name word :: rest =>
      if word = matchWord then
        match matchStatement read rest with
        | some result => some result
        | none => read .simpleLine (.name word :: rest)
      else read .simpleLine (.name word :: rest)
  | tokens => read .simpleLine tokens

end Registrar.Python
