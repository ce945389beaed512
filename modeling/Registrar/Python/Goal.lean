import Registrar.Python.Form
import Registrar.Python.Layout

/-!
# What the grammar looks for

A goal names a part of the grammar, and a rule reads such a part at the front of some tokens. The
rules are written against a reader for all goals, so each of them is a function of its own, and
the recursion between them is tied in one place.
-/

namespace Registrar.Python

/-- How far the parameters of a function have been read. -/
inductive ParameterStage where
  | start
  /-- Behind parameters that can be given by position. One of them may have had a default, and the
  mark may have been read behind which names count. -/
  | positional (defaulted marked : Bool)
  /-- Behind a star that is no parameter itself. -/
  | bareStar
  /-- Among the parameters that are given by name. -/
  | named
  deriving DecidableEq, Repr

/-- How far the arguments of a call have been read. -/
inductive ArgumentStage where
  | positional
  | named
  /-- Behind a mapping that was unpacked. -/
  | unpacked
  deriving DecidableEq, Repr

/-- How far the arguments of a class in a pattern have been read. -/
inductive ClassStage where
  | start
  /-- Behind arguments that are given by position. -/
  | positional
  /-- Behind arguments that are given by name. -/
  | named
  deriving DecidableEq, Repr

/-- The parts of the grammar. -/
inductive Goal where
  | expression | disjunction | inversion | comparison | arithmetic | operand | primary | atom
  | trailers (base : Form) | call | arguments (stage : ArgumentStage) | subscript
  | lambda | parameters (annotated : Bool) (stage : ParameterStage)
  | named | starItem | starNamed | expressions | moreItems | moreNamed
  | parenthesised | bracketed | braced | entries | clauses | conditions | targets | moreTargets
  | yielded
  | pattern | alternatives | closedPattern | patternLiteral | patternItems | mappingPattern
  | classPattern (stage : ClassStage)
  | statements | statement | simpleLine | simple | assigned
  | block | condition | elseBlock | handlers (starred : Bool) | finallyBlock
  | withItems | decorated | cases | importedModules | importedNames | names
  deriving Repr

/-- Reads a part of the grammar at the front of some tokens, and gives what follows it. -/
abbrev Rule := List Token → Option (Form × List Token)

/-- The tokens behind an operator. -/
def skip? (operator : Operator) : List Token → Option (List Token)
  | .op found :: rest => if found = operator then some rest else none
  | _ => none

/-- The tokens behind a reserved word. -/
def skipWord? (word : Keyword) : List Token → Option (List Token)
  | .keyword found :: rest => if found = word then some rest else none
  | _ => none

/-- The tokens behind a name. -/
def skipName? : List Token → Option (List Token)
  | .name _ :: rest => some rest
  | _ => none

/-- Whether an expression may begin with the first of some tokens. -/
def startsExpression : List Token → Bool
  | .name _ :: _ | .number _ :: _ | .literal _ _ :: _ => true
  | .keyword word :: _ =>
      match word with
      | .none_ | .true_ | .false_ | .lambda_ | .not_ | .await_ => true
      | _ => false
  | .op operator :: _ =>
      match operator with
      | .openParen | .openBracket | .openBrace | .plus | .minus | .tilde | .ellipsis => true
      | _ => false
  | _ => false

/-- Whether an expression, perhaps with a star in front, may begin with the first of some
tokens. -/
def startsItem : List Token → Bool
  | .op .star :: _ => true
  | tokens => startsExpression tokens

/-- Whether a clause of a comprehension begins with the first of some tokens. -/
def startsClause : List Token → Bool
  | .keyword .for_ :: _ => true
  | .keyword .async_ :: .keyword .for_ :: _ => true
  | _ => false

end Registrar.Python
