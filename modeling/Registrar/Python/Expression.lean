import Registrar.Python.Goal

/-!
# The grammar of expressions

Operators that bind more closely are read by later rules: a disjunction is made of inversions, these
of comparisons, these of arithmetic expressions, and these of operands, which are primary
expressions with signs in front. How the operators of one rule group their operands does not matter
for whether an expression is one, so a rule reads what follows an operator by itself again.
-/

namespace Registrar.Python

variable (read : Goal → Rule)

/-- Read a part of the grammar and forget its form. -/
def behind (goal : Goal) (tokens : List Token) : Option (List Token) :=
  (read goal tokens).map (·.2)

/-- Read a part of the grammar that makes an expression of no special form. -/
def plainly (goal : Goal) : Rule := fun tokens =>
  (behind read goal tokens).map fun rest => (.other, rest)

/-- A conditional expression, a function without a name, or a disjunction. -/
def expressionRule : Rule
  | .keyword .lambda_ :: rest => read .lambda rest
  | tokens => do
      let (form, after) ← read .disjunction tokens
      match after with
      | .keyword .if_ :: rest =>
          let condition ← behind read .disjunction rest
          plainly read .expression (← skipWord? .else_ condition)
      | _ => return (form, after)

/-- Inversions joined by `and` and `or`. -/
def disjunctionRule : Rule := fun tokens => do
  let (form, after) ← read .inversion tokens
  match after with
  | .keyword .and_ :: rest => plainly read .disjunction rest
  | .keyword .or_ :: rest => plainly read .disjunction rest
  | _ => return (form, after)

/-- A comparison with any number of `not` in front. -/
def inversionRule : Rule
  | .keyword .not_ :: rest => plainly read .inversion rest
  | tokens => read .comparison tokens

/-- The tokens behind an operator that compares. -/
def skipComparison? : List Token → Option (List Token)
  | .op .comparison :: rest => some rest
  | .keyword .in_ :: rest => some rest
  | .keyword .not_ :: .keyword .in_ :: rest => some rest
  | .keyword .is_ :: .keyword .not_ :: rest => some rest
  | .keyword .is_ :: rest => some rest
  | _ => none

/-- Arithmetic expressions that are compared. -/
def comparisonRule : Rule := fun tokens => do
  let (form, after) ← read .arithmetic tokens
  match skipComparison? after with
  | some rest => plainly read .comparison rest
  | none => return (form, after)

/-- Whether an operator stands between two operands of arithmetic. -/
def Operator.isArithmetic : Operator → Bool
  | .plus | .minus | .star | .doubleStar | .slash | .at | .bar | .binary => true
  | _ => false

/-- Operands joined by operators of arithmetic. -/
def arithmeticRule : Rule := fun tokens => do
  let (form, after) ← read .operand tokens
  match after with
  | .op operator :: rest =>
      if operator.isArithmetic then plainly read .arithmetic rest else return (form, after)
  | _ => return (form, after)

/-- A primary expression with signs or `await` in front. -/
def operandRule : Rule
  | .op .plus :: rest => plainly read .operand rest
  | .op .minus :: rest => plainly read .operand rest
  | .op .tilde :: rest => plainly read .operand rest
  | .keyword .await_ :: rest => plainly read .primary rest
  | tokens => read .primary tokens

/-- An atom with attributes, calls and subscripts behind it. -/
def primaryRule : Rule := fun tokens => do
  let (form, after) ← read .atom tokens
  read (.trailers form) after

/-- Attributes, calls and subscripts. -/
def trailersRule (base : Form) : Rule
  | .op .dot :: rest => do read (.trailers .part) (← skipName? rest)
  | .op .openParen :: rest => do read (.trailers .other) (← behind read .call rest)
  | .op .openBracket :: rest => do
      let after ← behind read .subscript rest
      read (.trailers .part) (← skip? .closeBracket after)
  | tokens => some (base, tokens)

/-- Whether a literal is right as far as the expressions in its fields go. -/
def hasExpressions (fields : List (List Char)) : Bool :=
  fields.all fun field =>
    match tokens? ('(' :: (field ++ [')'])) with
    | some tokens => (read .expressions tokens).isSome
    | none => false

/-- Literals that stand side by side, either all texts or all bytes. -/
def literalsRule (bytes : Bool) : List Token → Option (List Token)
  | .literal found fields :: rest =>
      if found = bytes ∧ hasExpressions read fields then literalsRule bytes rest else none
  | tokens => some tokens

/-- Names, constants, literals and whatever stands in brackets. -/
def atomRule : Rule
  | .name _ :: rest => some (.name, rest)
  | .number _ :: rest => some (.other, rest)
  | .keyword .none_ :: rest => some (.other, rest)
  | .keyword .true_ :: rest => some (.other, rest)
  | .keyword .false_ :: rest => some (.other, rest)
  | .op .ellipsis :: rest => some (.other, rest)
  | .literal bytes fields :: rest =>
      (literalsRule read bytes (.literal bytes fields :: rest)).map fun after => (.other, after)
  | .op .openParen :: rest => read .parenthesised rest
  | .op .openBracket :: rest => read .bracketed rest
  | .op .openBrace :: rest => read .braced rest
  | _ => none

/-- What stands behind one argument: others, or the end of the arguments. -/
def argumentsAfter (stage : ArgumentStage) : Rule
  | .op .comma :: .op .closeParen :: rest => some (.other, .op .closeParen :: rest)
  | .op .comma :: rest => read (.arguments stage) rest
  | tokens => some (.other, tokens)

/-- One or more arguments. Behind an argument that is given by name there are no others by
position, and behind a mapping none that are unpacked from a sequence. -/
def argumentsRule (stage : ArgumentStage) : Rule
  | .op .star :: rest =>
      if stage = .unpacked then none
      else do argumentsAfter read stage (← behind read .expression rest)
  | .op .doubleStar :: rest => do
      argumentsAfter read .unpacked (← behind read .expression rest)
  | .name _ :: .op .assign :: rest => do
      let next : ArgumentStage := if stage = .positional then .named else stage
      argumentsAfter read next (← behind read .expression rest)
  | tokens =>
      if stage = .positional then do
        argumentsAfter read stage (← behind read .named tokens)
      else none

/-- Whether the first of some arguments is given by name. -/
def startsKeyword : List Token → Bool
  | .name _ :: .op .assign :: _ => true
  | _ => false

/-- The arguments of a call up to the closing parenthesis. A comprehension may be the only one. -/
def callRule : Rule := fun tokens =>
  match tokens with
  | .op .closeParen :: rest => some (.other, rest)
  | _ =>
      if startsExpression tokens && !startsKeyword tokens then do
        let after ← behind read .named tokens
        let last ←
          if startsClause after then behind read .clauses after
          else (argumentsAfter read .positional after).map (·.2)
        return (.other, ← skip? .closeParen last)
      else do
        return (.other, ← skip? .closeParen (← behind read (.arguments .positional) tokens))

/-- An expression if one begins here. -/
def perhaps (goal : Goal) (tokens : List Token) : Option (List Token) :=
  if startsExpression tokens then behind read goal tokens else some tokens

/-- What follows the first colon of a slice. -/
def sliceEnd (tokens : List Token) : Option (List Token) := do
  let after ← perhaps read .expression tokens
  match after with
  | .op .colon :: rest => perhaps read .expression rest
  | _ => return after

/-- One subscript: an expression or a slice. -/
def subscriptItem : List Token → Option (List Token)
  | .op .star :: rest => behind read .expression rest
  | .op .colon :: rest => sliceEnd read rest
  | .name word :: .op .walrus :: rest => behind read .named (.name word :: .op .walrus :: rest)
  | tokens => do
      let after ← behind read .expression tokens
      match after with
      | .op .colon :: rest => sliceEnd read rest
      | _ => return after

/-- Subscripts up to the closing bracket. -/
def subscriptRule : Rule := fun tokens => do
  let after ← subscriptItem read tokens
  match after with
  | .op .comma :: .op .closeBracket :: rest => return (.other, .op .closeBracket :: rest)
  | .op .comma :: rest => read .subscript rest
  | _ => return (.other, after)

/-- An annotation, where there can be one. -/
def annotation (annotated : Bool) (goal : Goal) (tokens : List Token) : Option (List Token) :=
  match annotated, tokens with
  | true, .op .colon :: rest => behind read goal rest
  | _, _ => some tokens

/-- What stands behind one parameter: others, or the end of the parameters. -/
def parametersAfter (annotated : Bool) (stage : ParameterStage) : Rule
  | .op .comma :: rest => read (.parameters annotated stage) rest
  | tokens => some (.other, tokens)

/-- The stage behind a parameter, given whether it has a default. A parameter that can be given by
position needs a default if one in front of it has. -/
def ParameterStage.next? (stage : ParameterStage) (hasDefault : Bool) : Option ParameterStage :=
  match stage with
  | .start => some (.positional hasDefault false)
  | .positional defaulted marked =>
      if defaulted && !hasDefault then none else some (.positional hasDefault marked)
  | .bareStar | .named => some .named

/-- A parameter with its default behind its name. -/
def parameterRule (annotated : Bool) (stage : ParameterStage) : Rule := fun tokens => do
  let after ← annotation read annotated .expression tokens
  match after with
  | .op .assign :: rest => do
      let behindDefault ← behind read .expression rest
      parametersAfter read annotated (← stage.next? true) behindDefault
  | _ => parametersAfter read annotated (← stage.next? false) after

/-- Any number of parameters. -/
def parametersRule (annotated : Bool) (stage : ParameterStage) : Rule
  | .name _ :: rest => parameterRule read annotated stage rest
  | .op .slash :: rest =>
      match stage with
      | .positional defaulted false =>
          parametersAfter read annotated (.positional defaulted true) rest
      | _ => none
  | .op .star :: rest =>
      match stage, rest with
      | .bareStar, _ => none
      | .named, _ => none
      | _, .op .comma :: after => read (.parameters annotated .bareStar) after
      | _, .name _ :: after => do
          parametersAfter read annotated .named (← annotation read annotated .starItem after)
      | _, _ => none
  | .op .doubleStar :: .name _ :: rest =>
      if stage = .bareStar then none
      else do
        let after ← annotation read annotated .expression rest
        match after with
        | .op .comma :: last => return (.other, last)
        | _ => return (.other, after)
  | tokens => if stage = .bareStar then none else some (.other, tokens)

/-- A function without a name, behind the word that begins it. -/
def lambdaRule : Rule := fun tokens => do
  let after ← behind read (.parameters false .start) tokens
  plainly read .expression (← skip? .colon after)

/-- An expression that may give a name to its value. -/
def namedRule : Rule
  | .name _ :: .op .walrus :: rest => plainly read .expression rest
  | tokens => read .expression tokens

/-- An arithmetic expression with a star in front, or what a goal asks for. -/
def starOr (goal : Goal) : Rule
  | .op .star :: rest => do
      let (form, after) ← read .arithmetic rest
      return (.starred form, after)
  | tokens => read goal tokens

/-- Any number of items behind a comma, with their forms in a tuple. -/
def itemsRule (item more : Goal) : Rule := fun tokens =>
  if startsItem tokens then do
    let (form, after) ← read item tokens
    match after with
    | .op .comma :: rest => do
        let (others, last) ← read more rest
        return (.tuple (form :: others.items), last)
    | _ => return (.tuple [form], after)
  else some (.tuple [], tokens)

/-- One expression, or several with commas. -/
def expressionsRule : Rule := fun tokens => do
  let (form, after) ← read .starItem tokens
  match after with
  | .op .comma :: rest => do
      let (others, last) ← read .moreItems rest
      return (.tuple (form :: others.items), last)
  | _ => return (form, after)

/-- A `yield` behind its word. -/
def yieldedRule : Rule
  | .keyword .from_ :: rest => plainly read .expression rest
  | tokens => if startsItem tokens then plainly read .expressions tokens else some (.other, tokens)

/-- What stands in parentheses, and the closing one. -/
def parenthesisedRule : Rule
  | .op .closeParen :: rest => some (.tuple [], rest)
  | .keyword .yield_ :: rest => do
      return (.other, ← skip? .closeParen (← behind read .yielded rest))
  | tokens => do
      let (form, after) ← read .starNamed tokens
      match after with
      | .op .comma :: rest => do
          let (others, last) ← read .moreNamed rest
          return (.tuple (form :: others.items), ← skip? .closeParen last)
      | _ =>
          if form.isStarred then none
          else if startsClause after then
            return (.other, ← skip? .closeParen (← behind read .clauses after))
          else return (.group form, ← skip? .closeParen after)

/-- What stands in square brackets, and the closing one. -/
def bracketedRule : Rule
  | .op .closeBracket :: rest => some (.list [], rest)
  | tokens => do
      let (form, after) ← read .starNamed tokens
      match after with
      | .op .comma :: rest => do
          let (others, last) ← read .moreNamed rest
          return (.list (form :: others.items), ← skip? .closeBracket last)
      | _ =>
          if !form.isStarred && startsClause after then
            return (.other, ← skip? .closeBracket (← behind read .clauses after))
          else return (.list [form], ← skip? .closeBracket after)

/-- What stands behind one entry of a mapping: others, or the closing brace. -/
def entriesAfter : Rule
  | .op .comma :: .op .closeBrace :: rest => some (.other, rest)
  | .op .comma :: rest => read .entries rest
  | .op .closeBrace :: rest => some (.other, rest)
  | _ => none

/-- Entries of a mapping up to the closing brace. -/
def entriesRule : Rule
  | .op .doubleStar :: rest => do entriesAfter read (← behind read .arithmetic rest)
  | tokens => do
      let key ← behind read .expression tokens
      entriesAfter read (← behind read .expression (← skip? .colon key))

/-- The rest of a set, behind its first item. -/
def setEnd (tokens : List Token) : Option (Form × List Token) := do
  match tokens with
  | .op .comma :: rest =>
      return (.other, ← skip? .closeBrace (← behind read .moreNamed rest))
  | _ => return (.other, ← skip? .closeBrace tokens)

/-- What stands in braces, and the closing one: a mapping, a set, or a comprehension of either. -/
def bracedRule : Rule
  | .op .closeBrace :: rest => some (.other, rest)
  | .op .doubleStar :: rest => do entriesAfter read (← behind read .arithmetic rest)
  | .op .star :: rest => do setEnd read (← behind read .arithmetic rest)
  | .name word :: .op .walrus :: rest => do
      let after ← behind read .named (.name word :: .op .walrus :: rest)
      if startsClause after then
        return (.other, ← skip? .closeBrace (← behind read .clauses after))
      else setEnd read after
  | tokens => do
      let after ← behind read .expression tokens
      match after with
      | .op .colon :: rest => do
          let value ← behind read .expression rest
          if startsClause value then
            return (.other, ← skip? .closeBrace (← behind read .clauses value))
          else entriesAfter read value
      | _ =>
          if startsClause after then
            return (.other, ← skip? .closeBrace (← behind read .clauses after))
          else setEnd read after

/-- One or more clauses of a comprehension. -/
def clausesRule : Rule
  | .keyword .async_ :: .keyword .for_ :: rest => read .clauses (.keyword .for_ :: rest)
  | .keyword .for_ :: rest => do
      let after ← behind read .targets rest
      let values ← behind read .disjunction (← skipWord? .in_ after)
      read .conditions values
  | _ => none

/-- Any number of conditions and further clauses. -/
def conditionsRule : Rule
  | .keyword .if_ :: rest => do read .conditions (← behind read .disjunction rest)
  | tokens => if startsClause tokens then read .clauses tokens else some (.other, tokens)

/-- One target of an assignment that is no whole statement. -/
def targetItem : Rule := fun tokens => do
  let (form, after) ← starOr read .arithmetic tokens
  if form.isItemTarget then return (form, after) else none

/-- Any number of targets behind a comma. -/
def moreTargetsRule : Rule := fun tokens =>
  if startsItem tokens then do
    let (_, after) ← targetItem read tokens
    match after with
    | .op .comma :: rest => read .moreTargets rest
    | _ => return (.other, after)
  else some (.other, tokens)

/-- One or more targets. -/
def targetsRule : Rule := fun tokens => do
  let (form, after) ← targetItem read tokens
  match after with
  | .op .comma :: rest => read .moreTargets rest
  | _ => return (form, after)

end Registrar.Python
