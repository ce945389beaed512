import Registrar.Python.Expression

/-!
# The grammar of patterns

What stands behind `case`: alternatives of closed patterns, which are literals, names, sequences,
mappings and classes. A lone underscore matches anything and is no name.
-/

namespace Registrar.Python

variable (read : Goal → Rule)

/-- The word that stands for anything. -/
def wildcard : List Char := ['_']

/-- Alternatives, perhaps with a name for what is matched. -/
def patternRule : Rule := fun tokens => do
  let after ← behind read .alternatives tokens
  match after with
  | .keyword .as_ :: .name word :: rest => if word = wildcard then none else some (.other, rest)
  | _ => return (.other, after)

/-- Closed patterns with bars between them. -/
def alternativesRule : Rule := fun tokens => do
  let after ← behind read .closedPattern tokens
  match after with
  | .op .bar :: rest => read .alternatives rest
  | _ => return (.other, after)

/-- The rest of a number behind its first part: the imaginary part of a complex one, or nothing. -/
def complexEnd (imaginary : Bool) : List Token → Option (List Token)
  | .op .plus :: rest =>
      match imaginary, rest with
      | false, .number true :: after => some after
      | _, _ => none
  | .op .minus :: rest =>
      match imaginary, rest with
      | false, .number true :: after => some after
      | _, _ => none
  | tokens => some tokens

/-- A literal that can be matched. -/
def patternLiteralRule : Rule
  | .number imaginary :: rest => (complexEnd imaginary rest).map fun after => (.other, after)
  | .op .minus :: .number imaginary :: rest =>
      (complexEnd imaginary rest).map fun after => (.other, after)
  | .literal bytes fields :: rest =>
      (literalsRule read bytes (.literal bytes fields :: rest)).map fun after => (.other, after)
  | .keyword .none_ :: rest => some (.other, rest)
  | .keyword .true_ :: rest => some (.other, rest)
  | .keyword .false_ :: rest => some (.other, rest)
  | _ => none

/-- What is left behind the attributes of a name. -/
def skipAttributes : List Token → List Token
  | .op .dot :: .name _ :: rest => skipAttributes rest
  | tokens => tokens

/-- Whether a pattern, perhaps with a star in front, may begin with the first of some tokens. -/
def startsPattern : List Token → Bool
  | .name _ :: _ | .number _ :: _ | .literal _ _ :: _ => true
  | .keyword word :: _ =>
      match word with
      | .none_ | .true_ | .false_ => true
      | _ => false
  | .op operator :: _ =>
      match operator with
      | .openParen | .openBracket | .openBrace | .minus | .star => true
      | _ => false
  | _ => false

/-- A pattern, or a name for the rest of a sequence. The form tells whether there was a star. -/
def patternItem : Rule
  | .op .star :: .name _ :: rest => some (.starred .other, rest)
  | tokens => read .pattern tokens

/-- Any number of patterns with commas. -/
def patternItemsRule : Rule := fun tokens =>
  if startsPattern tokens then do
    let (_, after) ← patternItem read tokens
    match after with
    | .op .comma :: rest => read .patternItems rest
    | _ => return (.other, after)
  else some (.other, tokens)

/-- Behind the first item of an open sequence: the other items, or the end of the only pattern. -/
def sequenceEnd (first : Form) : Rule
  | .op .comma :: rest => read .patternItems rest
  | tokens => if first.isStarred then none else some (.other, tokens)

/-- A pattern that is not in brackets, or a sequence of some. -/
def openPattern : Rule := fun tokens => do
  let (form, after) ← patternItem read tokens
  sequenceEnd read form after

/-- A name, an attribute or a class. -/
def namePattern (word : List Char) (rest : List Token) : Option (Form × List Token) :=
  if word = wildcard then some (.other, rest)
  else
    match skipAttributes rest with
    | .op .openParen :: inside => read (.classPattern .start) inside
    | after => some (.other, after)

/-- A pattern that has nothing loose at its ends. -/
def closedPatternRule : Rule
  | .name word :: rest => namePattern read word rest
  | .op .openParen :: .op .closeParen :: rest => some (.other, rest)
  | .op .openParen :: rest => do
      let (_, after) ← openPattern read rest
      return (.other, ← skip? .closeParen after)
  | .op .openBracket :: rest => do
      return (.other, ← skip? .closeBracket (← behind read .patternItems rest))
  | .op .openBrace :: rest => read .mappingPattern rest
  | tokens => read .patternLiteral tokens

/-- The key of an entry in a mapping: a literal or an attribute. -/
def patternKey : List Token → Option (List Token)
  | .name _ :: .op .dot :: .name _ :: rest => some (skipAttributes rest)
  | .name _ :: _ => none
  | tokens => behind read .patternLiteral tokens

/-- Entries of a mapping up to the closing brace. A name for the rest stands at the end. -/
def mappingPatternRule : Rule
  | .op .closeBrace :: rest => some (.other, rest)
  | .op .doubleStar :: .name word :: rest =>
      if word = wildcard then none
      else
        match rest with
        | .op .comma :: .op .closeBrace :: after => some (.other, after)
        | .op .closeBrace :: after => some (.other, after)
        | _ => none
  | tokens => do
      let value ← skip? .colon (← patternKey read tokens)
      match ← behind read .pattern value with
      | .op .comma :: rest => read .mappingPattern rest
      | .op .closeBrace :: rest => return (.other, rest)
      | _ => none

/-- The arguments of a class up to the closing parenthesis. Those that are given by name stand at
the end. Right behind a pattern, the underscore is another pattern and not a name. -/
def classPatternRule (stage : ClassStage) : Rule
  | .op .closeParen :: rest => some (.other, rest)
  | .name word :: .op .assign :: rest =>
      if stage = .positional ∧ word = wildcard then none
      else do
        match ← behind read .pattern rest with
        | .op .comma :: more => read (.classPattern .named) more
        | .op .closeParen :: more => return (.other, more)
        | _ => none
  | tokens =>
      if stage = .named then none
      else do
        match ← behind read .pattern tokens with
        | .op .comma :: more => read (.classPattern .positional) more
        | .op .closeParen :: more => return (.other, more)
        | _ => none

end Registrar.Python
