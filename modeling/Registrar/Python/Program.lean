import Registrar.Python.Statement

/-!
# Python programs

The rules of the grammar are tied together here: `rules` is one step of all of them, and `reads`
goes down a given number of steps. A text is a program if its tokens are statements to the end.

## Implementation notes

Between two tokens that are read there are fewer than thirty steps from one rule to the next, and
an expression inside a literal is made of characters of the text, so a number of steps for each
character is enough for all of them.

Two limits of the interpreter are left out. It refuses a decimal numeral of more than 4300 digits, and it runs
out of its stack where expressions nest some thousands deep, as with so many signs in front of a number. Here
such texts are read like any others.
-/

namespace Registrar.Python

/-- The rule for each part of the grammar. -/
def rules (read : Goal → Rule) : Goal → Rule
  | .expression => expressionRule read
  | .disjunction => disjunctionRule read
  | .inversion => inversionRule read
  | .comparison => comparisonRule read
  | .arithmetic => arithmeticRule read
  | .operand => operandRule read
  | .primary => primaryRule read
  | .atom => atomRule read
  | .trailers base => trailersRule read base
  | .call => callRule read
  | .arguments stage => argumentsRule read stage
  | .subscript => subscriptRule read
  | .lambda => lambdaRule read
  | .parameters annotated stage => parametersRule read annotated stage
  | .named => namedRule read
  | .starItem => starOr read .expression
  | .starNamed => starOr read .named
  | .expressions => expressionsRule read
  | .moreItems => itemsRule read .starItem .moreItems
  | .moreNamed => itemsRule read .starNamed .moreNamed
  | .parenthesised => parenthesisedRule read
  | .bracketed => bracketedRule read
  | .braced => bracedRule read
  | .entries => entriesRule read
  | .clauses => clausesRule read
  | .conditions => conditionsRule read
  | .targets => targetsRule read
  | .moreTargets => moreTargetsRule read
  | .yielded => yieldedRule read
  | .pattern => patternRule read
  | .alternatives => alternativesRule read
  | .closedPattern => closedPatternRule read
  | .patternLiteral => patternLiteralRule read
  | .patternItems => patternItemsRule read
  | .mappingPattern => mappingPatternRule read
  | .classPattern stage => classPatternRule read stage
  | .statements => statementsRule read
  | .statement => statementRule read
  | .simpleLine => simpleLineRule read
  | .simple => simpleRule read
  | .assigned => assignedRule read
  | .block => blockRule read
  | .condition => conditionRule read
  | .elseBlock => elseBlockRule read
  | .handlers starred => handlersRule read starred
  | .finallyBlock => finallyBlockRule read
  | .withItems => withItemsRule read
  | .decorated => decoratedRule read
  | .cases => casesRule read
  | .importedModules => importedModulesRule read
  | .importedNames => importedNamesRule read
  | .names => namesRule read

/-- Read a part of the grammar in a number of steps. -/
def reads : Nat → Goal → Rule
  | 0, _ => fun _ => none
  | steps + 1, goal => rules (reads steps) goal

theorem reads_succ (steps : Nat) (goal : Goal) :
    reads (steps + 1) goal = rules (reads steps) goal := rfl

/-- Whether tokens are the statements of a program, read in a number of steps. -/
def areStatements (steps : Nat) (tokens : List Token) : Bool :=
  match reads steps .statements tokens with
  | some (_, rest) => rest.isEmpty
  | none => false

/-- Whether a text is a program, for an interpreter without limits on the length of numerals and on its stack.
The character U+0000 stands in none. -/
def isProgram (text : String) : Bool :=
  let cs := text.toList
  !cs.contains '\x00' &&
    match tokens? cs with
    | some tokens => areStatements (40 * (cs.length + 2)) tokens
    | none => false

end Registrar.Python
