import Registrar.Python.Literal

/-!
# From characters to tokens

Source text is cut into tokens line by line. Outside of brackets the end of a line is a token, and
so is every change of the indentation in front of a line; lines that hold nothing but blanks and a
comment count for neither. Inside brackets lines do not matter, and a backslash joins two lines.

## Implementation notes

Indentation is measured twice, with tabs that go to multiples of eight and with tabs that count for
one column. Both measures have to agree on how lines compare, so no mixture of tabs and blanks can
be read in two ways.
-/

namespace Registrar.Python

/-- Text with a newline for every end of a line, the last one included. A carriage return and a
newline at the end of the text leave an empty line behind them. -/
def withNewlines : List Char → List Char
  | [] => ['\n']
  | ['\n'] => ['\n']
  | ['\r'] => ['\n']
  | '\r' :: '\n' :: rest => '\n' :: withNewlines rest
  | '\r' :: rest => '\n' :: withNewlines rest
  | c :: rest => c :: withNewlines rest

/-- What is left from the end of the line on. -/
def fromLineEnd (cs : List Char) : List Char :=
  cs.dropWhile (· ≠ '\n')

/-- Whether a character begins a word. -/
def isNameStart (c : Char) : Bool :=
  c.isAlpha || c == '_' || 0x80 ≤ c.toNat

/-- The word at the front of a text, and what follows it. -/
def word? (cs : List Char) : Option (Token × List Char) :=
  let word := cs.takeWhile isNameChar
  if isIdentifier word then some (.ofWord word, cs.dropWhile isNameChar) else none

/-- The literal whose quotes begin a text, and what follows it. -/
def literal? (kind : LiteralKind) (cs : List Char) : Option (Token × List Char) := do
  let (inside, rest) ← quotedInside? cs
  return (← literalOf? kind inside, rest)

/-- Whether a numeral begins a text. -/
def startsNumeral (cs : List Char) : Bool :=
  match cs with
  | '.' :: c :: _ => c.isDigit
  | c :: _ => c.isDigit
  | [] => false

/-- The token at the front of a text that begins with no blank, and what follows it. -/
def lexeme? (cs : List Char) : Option (Token × List Char) :=
  match literalStart? cs with
  | some (kind, quoted) => literal? kind quoted
  | none =>
      match cs with
      | [] => none
      | c :: rest =>
          if isNameStart c then word? cs
          else if startsNumeral cs then
            (numeral? cs).map fun (imaginary, after) => (.number imaginary, after)
          else (operator? c rest).map fun (operator, after) => (.op operator, after)

/-- The closing bracket of an opening one. -/
def Operator.closing? : Operator → Option Operator
  | .openParen => some .closeParen
  | .openBracket => some .closeBracket
  | .openBrace => some .closeBrace
  | _ => none

/-- Whether an operator is a closing bracket. -/
def Operator.isClosing : Operator → Bool
  | .closeParen | .closeBracket | .closeBrace => true
  | _ => false

/-- The most brackets that may be open at once. -/
def greatestDepth : Nat := 200

/-- The closing brackets that are due behind a token. -/
def dueBehind (due : List Operator) : Token → Option (List Operator)
  | .op operator =>
      match operator.closing? with
      | some closing => if due.length < greatestDepth then some (closing :: due) else none
      | none =>
          if operator.isClosing then
            match due with
            | expected :: outer => if operator = expected then some outer else none
            | [] => none
          else some due
  | _ => some due

/-- The two measures of an indentation. -/
structure Columns where
  wide : Nat
  narrow : Nat
  deriving DecidableEq, Repr

/-- The indentation at the front of a line, and what follows it. If a backslash joins the line to
the next one, the first column that is not zero at a backslash is the one that counts. -/
def indentation (columns : Columns) (joined : Nat) : List Char → Option (Columns × List Char)
  | ' ' :: rest => indentation ⟨columns.wide + 1, columns.narrow + 1⟩ joined rest
  | '\t' :: rest => indentation ⟨(columns.wide / 8 + 1) * 8, columns.narrow + 1⟩ joined rest
  | '\x0c' :: rest => indentation ⟨0, 0⟩ joined rest
  | '\\' :: '\n' :: rest =>
      if rest.isEmpty then none
      else indentation columns (if joined = 0 then columns.wide else joined) rest
  | '\\' :: _ => none
  | rest => some (if joined = 0 then columns else ⟨joined, joined⟩, rest)

/-- The most blocks that may be open at once. -/
def greatestNesting : Nat := 99

/-- Close the blocks that are indented more than a line. The line has to fit the block that is left
open. -/
def closeBlocks (line : Columns) : List Columns → Option (List Token × List Columns)
  | [] => if line = ⟨0, 0⟩ then some ([], []) else none
  | block :: outer =>
      if line.wide < block.wide then
        (closeBlocks line outer).map fun (tokens, blocks) => (.dedent :: tokens, blocks)
      else if line = block then some ([], block :: outer)
      else none

/-- The tokens in front of a line with a given indentation, and the blocks that are then open. -/
def blocksAt (line : Columns) (blocks : List Columns) : Option (List Token × List Columns) :=
  let inner := blocks.head?.getD ⟨0, 0⟩
  if inner.wide < line.wide then
    if inner.narrow < line.narrow ∧ blocks.length < greatestNesting then
      some ([.indent], line :: blocks)
    else none
  else closeBlocks line blocks

/-- Where scanning stands: whether at the front of a line, which blocks are open, and which closing
brackets are due. -/
structure Position where
  fresh : Bool
  blocks : List Columns
  due : List Operator
  deriving DecidableEq, Repr

/-- The tokens of a text from a position on. The bound limits the number of steps; no step leaves
both the text and the position as they are. -/
def scan : (bound : Nat) → Position → List Char → Option (List Token)
  | 0, _, _ => none
  | bound + 1, ⟨true, blocks, due⟩, cs =>
      match indentation ⟨0, 0⟩ 0 cs with
      | none => none
      | some (_, []) =>
          if due.isEmpty then some (blocks.map fun _ => .dedent) else none
      | some (line, c :: rest) =>
          if c = '#' ∨ c = '\n' then
            scan bound ⟨true, blocks, due⟩ ((fromLineEnd (c :: rest)).drop 1)
          else if due.isEmpty then do
            let (tokens, blocks) ← blocksAt line blocks
            let more ← scan bound ⟨false, blocks, due⟩ (c :: rest)
            return tokens ++ more
          else scan bound ⟨false, blocks, due⟩ (c :: rest)
  | bound + 1, ⟨false, blocks, due⟩, cs =>
      match cs.dropWhile isBlank with
      | [] => none
      | '\n' :: rest =>
          if due.isEmpty then (scan bound ⟨true, blocks, due⟩ rest).map (.newline :: ·)
          else scan bound ⟨true, blocks, due⟩ rest
      | '#' :: rest => scan bound ⟨false, blocks, due⟩ (fromLineEnd rest)
      | '\\' :: '\n' :: rest => if rest.isEmpty then none else scan bound ⟨false, blocks, due⟩ rest
      | visible => do
          let (token, rest) ← lexeme? visible
          let due ← dueBehind due token
          let more ← scan bound ⟨false, blocks, due⟩ rest
          return token :: more

/-- The tokens of a text. -/
def tokens? (text : List Char) : Option (List Token) :=
  let lines := withNewlines text
  scan (2 * lines.length + 2) ⟨true, [], []⟩ lines

end Registrar.Python
