import Registrar.Python.Numeral
import Registrar.Python.Token
import Registrar.Text.CharName

/-!
# Text literals of Python source

A literal is a text or a sequence of bytes between quotes, one of a kind or three. Letters in front
of the quotes tell its kind. What stands between the quotes is checked here: the escapes have to be
complete, bytes have to be ASCII, and a formatted text has to consist of plain parts and
replacement fields. The expressions in the fields are only cut out; whether they are expressions is
for the grammar to say.

## Implementation notes

A field may have a format with fields of its own, but those have no fields in their formats, so the
functions on fields go down by the depth that is left.
-/

namespace Registrar.Python

/-- What the letters in front of the quotes say. -/
structure LiteralKind where
  bytes : Bool
  raw : Bool
  formatted : Bool
  deriving DecidableEq, Repr

/-- The kind of a literal with given letters in front, all in lower case. -/
def literalKind? (letters : List Char) : Option LiteralKind :=
  match letters with
  | [] => some ⟨false, false, false⟩
  | ['u'] => some ⟨false, false, false⟩
  | ['r'] => some ⟨false, true, false⟩
  | ['b'] => some ⟨true, false, false⟩
  | ['f'] => some ⟨false, false, true⟩
  | ['b', 'r'] => some ⟨true, true, false⟩
  | ['r', 'b'] => some ⟨true, true, false⟩
  | ['f', 'r'] => some ⟨false, true, true⟩
  | ['r', 'f'] => some ⟨false, true, true⟩
  | _ => none

/-- The inside of a literal up to its closing quote, and what follows that. -/
def singleQuoted (quote : Char) : List Char → Option (List Char × List Char)
  | [] => none
  | '\n' :: _ => none
  | '\\' :: c :: rest =>
      (singleQuoted quote rest).map fun (inside, after) => ('\\' :: c :: inside, after)
  | c :: rest =>
      if c = quote then some ([], rest)
      else (singleQuoted quote rest).map fun (inside, after) => (c :: inside, after)

/-- The inside of a literal up to its three closing quotes, and what follows those. -/
def tripleQuoted (quote : Char) : List Char → Option (List Char × List Char)
  | [] => none
  | '\\' :: c :: rest =>
      (tripleQuoted quote rest).map fun (inside, after) => ('\\' :: c :: inside, after)
  | c :: rest =>
      if c = quote ∧ [quote, quote].isPrefixOf rest then some ([], rest.drop 2)
      else (tripleQuoted quote rest).map fun (inside, after) => (c :: inside, after)

/-- The inside of a literal that begins with a quote, and what follows the literal. -/
def quotedInside? : List Char → Option (List Char × List Char)
  | quote :: second :: third :: rest =>
      if second = quote ∧ third = quote then tripleQuoted quote rest
      else singleQuoted quote (second :: third :: rest)
  | quote :: rest => singleQuoted quote rest
  | [] => none

/-- The value of hexadecimal digits. -/
def hexNumber (digits : List Char) : Nat :=
  digits.foldl (fun n c =>
    16 * n + if c.isDigit then c.toNat - 48 else c.toLower.toNat - 87) 0

/-- Whether a text begins with a number of hexadecimal digits whose value is below a bound. -/
def hasHexDigits (count bound : Nat) (cs : List Char) : Bool :=
  let digits := cs.take count
  digits.length == count && digits.all isHexDigit && hexNumber digits < bound

/-- Whether a text begins with the name of a character in braces. -/
def hasCharacterName (cs : List Char) : Bool :=
  match cs with
  | '\x7b' :: rest =>
      let name := rest.takeWhile (· ≠ '\x7d')
      name.length < rest.length && isCharName name
  | _ => false

/-- Whether the escape of a letter is complete, given what follows the letter. -/
def isEscape (bytes : Bool) (letter : Char) (rest : List Char) : Bool :=
  if letter = 'x' then hasHexDigits 2 0x100 rest
  else if bytes then true
  else if letter = 'u' then hasHexDigits 4 0x10000 rest
  else if letter = 'U' then hasHexDigits 8 0x110000 rest
  else if letter = 'N' then hasCharacterName rest
  else true

/-- Whether all escapes of a text are complete. -/
def hasEscapes (bytes : Bool) : List Char → Bool
  | [] => true
  | '\\' :: letter :: rest => isEscape bytes letter rest && hasEscapes bytes rest
  | _ :: rest => hasEscapes bytes rest

/-- Whether the inside of a literal without fields is as it should be. -/
def isPlainInside (kind : LiteralKind) (inside : List Char) : Bool :=
  (!kind.bytes || inside.all fun c => c.toNat < 0x80) &&
    (kind.raw || hasEscapes kind.bytes inside)

/-- The plain part at the front of a formatted text, and what is left from the brace on that ends
it. Two braces are one character outside of formats. The first flag says that a name of a
character is being read. -/
def plainPart (raw inFormat : Bool) : Bool → List Char → Option (List Char × List Char)
  | _, [] => some ([], [])
  | true, c :: rest =>
      (plainPart raw inFormat (c ≠ '\x7d') rest).map fun (part, after) => (c :: part, after)
  | false, '\\' :: c :: rest =>
      if raw ∨ c = '\x7b' ∨ c = '\x7d' then
        (plainPart raw inFormat false (c :: rest)).map fun (part, after) => ('\\' :: part, after)
      else
        (plainPart raw inFormat (c = 'N' ∧ rest.head? = some '\x7b') rest).map
          fun (part, after) => ('\\' :: c :: part, after)
  | false, c :: rest =>
      if c = '\x7b' ∨ c = '\x7d' then
        if inFormat then some ([], c :: rest)
        else
          match rest with
          | second :: others =>
              if second = c then
                (plainPart raw inFormat false others).map fun (part, after) => (c :: part, after)
              else if c = '\x7d' then none
              else some ([], c :: rest)
          | [] => if c = '\x7d' then none else some ([], [c])
      else (plainPart raw inFormat false rest).map fun (part, after) => (c :: part, after)

/-- The closing bracket of an opening one. -/
def closingOf? : Char → Option Char
  | '(' => some ')'
  | '[' => some ']'
  | '\x7b' => some '\x7d'
  | _ => none

/-- Where the end of an expression is looked for: the closing brackets that are due, and the quote
of a text that was begun, with a flag for three of them. -/
structure CutState where
  due : List Char
  quote : Option (Char × Bool)
  deriving DecidableEq, Repr

/-- What is done at a character of an expression. -/
inductive CutStep where
  /-- The expression ends in front of it. -/
  | ends
  /-- It may not stand there. -/
  | refused
  /-- It belongs to the expression, with the characters that are taken together with it. -/
  | takes (count : Nat) (next : CutState)
  deriving DecidableEq, Repr

/-- The step at a character inside a text of an expression. -/
def cutQuoted (state : CutState) (quote : Char) (triple : Bool) (c : Char) (rest : List Char) :
    CutStep :=
  if c ≠ quote then .takes 1 state
  else if !triple then .takes 1 { state with quote := none }
  else if [quote, quote].isPrefixOf rest then .takes 3 { state with quote := none }
  else .takes 1 state

/-- The step at a character outside of texts. A mark that could end the expression does not do so
as the first half of a comparison. -/
def cutPlain (state : CutState) (c : Char) (rest : List Char) : CutStep :=
  if c = '\'' ∨ c = '"' then
    if [c, c].isPrefixOf rest then .takes 3 { state with quote := some (c, true) }
    else .takes 1 { state with quote := some (c, false) }
  else if c = '#' then .refused
  else
    match closingOf? c, state.due with
    | some closing, due => .takes 1 { state with due := closing :: due }
    | none, closing :: due =>
        if c = closing then .takes 1 { state with due }
        else if c = ')' ∨ c = ']' ∨ c = '\x7d' then .refused
        else .takes 1 state
    | none, [] =>
        if c = ')' ∨ c = ']' then .refused
        else if c = '\x7d' ∨ c = ':' then .ends
        else if rest.head? = some '=' ∧ (c = '!' ∨ c = '=' ∨ c = '<' ∨ c = '>') then
          .takes 2 state
        else if c = '!' ∨ c = '=' then .ends
        else .takes 1 state

/-- The step at a character of an expression. A backslash is nowhere allowed. -/
def cutStep (state : CutState) (c : Char) (rest : List Char) : CutStep :=
  if c = '\\' then .refused
  else
    match state.quote with
    | some (quote, triple) => cutQuoted state quote triple c rest
    | none => cutPlain state c rest

/-- The expression at the front of a text, and what is left from the mark on that ends it. The
bound limits the number of steps. -/
def cutExpression : (bound : Nat) → CutState → List Char → Option (List Char × List Char)
  | 0, _, _ => none
  | _, _, [] => none
  | bound + 1, state, c :: rest =>
      match cutStep state c rest with
      | .ends => some ([], c :: rest)
      | .refused => none
      | .takes count next =>
          (cutExpression bound next (rest.drop (count - 1))).map fun (part, after) =>
            (c :: rest.take (count - 1) ++ part, after)

/-- Whether a character is white space inside an expression. -/
def isBlank (c : Char) : Bool :=
  c == ' ' || c == '\t' || c == '\x0c'

/-- What is left behind the mark that asks for the expression itself to be shown. -/
def afterShowMark (cs : List Char) : List Char :=
  match cs with
  | '=' :: rest => rest.dropWhile fun c => isBlank c || c == '\n' || c == '\x0b'
  | _ => cs

/-- What is left behind the letter that asks for a conversion. -/
def afterConversion (cs : List Char) : Option (List Char) :=
  match cs with
  | '!' :: letter :: rest =>
      if letter = 's' ∨ letter = 'r' ∨ letter = 'a' then some rest else none
  | '!' :: [] => none
  | _ => some cs

mutual
/-- The expressions in the fields of a formatted text, and what is left from the closing brace of
the field on whose format it is. The depth says how far fields may nest, and the bound limits how
many parts are looked at. -/
def fieldsOf (raw inFormat : Bool) : (depth bound : Nat) → List Char →
    Option (List (List Char) × List Char)
  | _, 0, _ => none
  | depth, bound + 1, cs => do
      let (part, rest) ← plainPart raw inFormat false cs
      if !raw && !hasEscapes false part then none
      else
        match rest with
        | '\x7b' :: inside => do
            let (first, after) ← fieldOf raw depth bound inside
            let (others, behind) ← fieldsOf raw inFormat depth bound after
            return (first ++ others, behind)
        | _ => return ([], rest)

/-- The expressions of one field whose opening brace was read, and what follows the field. -/
def fieldOf (raw : Bool) : (depth bound : Nat) → List Char →
    Option (List (List Char) × List Char)
  | 0, _, _ => none
  | _, 0, _ => none
  | depth + 1, bound + 1, cs => do
      let (expression, rest) ← cutExpression (cs.length + 1) ⟨[], none⟩ cs
      if expression.all fun c => isBlank c || c == '\n' then none
      else
        let after ← afterConversion (afterShowMark rest)
        match after with
        | '\x7d' :: behind => return ([expression], behind)
        | ':' :: format => do
            let (nested, closing) ← fieldsOf raw true depth bound format
            match closing with
            | '\x7d' :: behind => return (expression :: nested, behind)
            | _ => none
        | _ => none
end

/-- The expressions in the fields of a formatted text, if it is well formed. -/
def replacementFields? (raw : Bool) (inside : List Char) : Option (List (List Char)) :=
  match fieldsOf raw false 2 (2 * inside.length + 2) inside with
  | some (fields, []) => some fields
  | _ => none

/-- The token of a literal with a given inside, if the inside is as it should be. -/
def literalOf? (kind : LiteralKind) (inside : List Char) : Option Token :=
  if kind.formatted then (replacementFields? kind.raw inside).map (.literal false)
  else if isPlainInside kind inside then some (.literal kind.bytes [])
  else none

/-- The letters at the front of a text that may tell the kind of a literal, in lower case. -/
def kindLetters (cs : List Char) : List Char :=
  (cs.takeWhile Char.isAlpha).map Char.toLower

/-- Whether a literal begins a text, and of which kind it is. -/
def literalStart? (cs : List Char) : Option (LiteralKind × List Char) :=
  let letters := kindLetters cs
  match cs.drop letters.length with
  | c :: rest =>
      if c = '\'' ∨ c = '"' then (literalKind? letters).map (·, c :: rest) else none
  | [] => none

end Registrar.Python
