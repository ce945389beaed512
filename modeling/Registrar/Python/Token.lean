import Registrar.Python.Identifier

/-!
# Tokens of Python source

The words, marks and literals that source text consists of, with the marks for the ends of lines
and for the begin and end of indented blocks. Operators that the grammar does not tell apart are
one operator here, and a literal keeps only what decides whether it may stand where it does.
-/

namespace Registrar.Python

/-- The reserved words. -/
inductive Keyword where
  | false_ | none_ | true_ | and_ | as_ | assert_ | async_ | await_ | break_ | class_ | continue_
  | def_ | del_ | elif_ | else_ | except_ | finally_ | for_ | from_ | global_ | if_ | import_
  | in_ | is_ | lambda_ | nonlocal_ | not_ | or_ | pass_ | raise_ | return_ | try_ | while_
  | with_ | yield_
  deriving DecidableEq, Repr

/-- The reserved words with their spelling. -/
def keywords : List (String × Keyword) :=
  [("False", .false_), ("None", .none_), ("True", .true_), ("and", .and_), ("as", .as_),
    ("assert", .assert_), ("async", .async_), ("await", .await_), ("break", .break_),
    ("class", .class_), ("continue", .continue_), ("def", .def_), ("del", .del_),
    ("elif", .elif_), ("else", .else_), ("except", .except_), ("finally", .finally_),
    ("for", .for_), ("from", .from_), ("global", .global_), ("if", .if_),
    ("import", .import_), ("in", .in_), ("is", .is_), ("lambda", .lambda_),
    ("nonlocal", .nonlocal_), ("not", .not_), ("or", .or_), ("pass", .pass_),
    ("raise", .raise_), ("return", .return_), ("try", .try_), ("while", .while_),
    ("with", .with_), ("yield", .yield_)]

/-- The reserved word that characters spell. -/
def keyword? (word : List Char) : Option Keyword :=
  (keywords.find? fun entry => entry.1.toList = word).map (·.2)

/-- Operators and delimiters. -/
inductive Operator where
  | openParen | closeParen | openBracket | closeBracket | openBrace | closeBrace
  | comma | colon | dot | ellipsis | semicolon | at | assign | arrow | walrus
  | plus | minus | star | doubleStar | slash | bar | tilde
  /-- Any other operator between two operands. -/
  | binary
  /-- An operator that compares. -/
  | comparison
  /-- An operator joined with an equals sign. -/
  | augmented
  deriving DecidableEq, Repr

/-- One token. -/
inductive Token where
  | name (word : List Char)
  | keyword (word : Keyword)
  | number (imaginary : Bool)
  /-- A text or a sequence of bytes, with the expressions in its replacement fields. -/
  | literal (bytes : Bool) (fields : List (List Char))
  | op (operator : Operator)
  | newline
  | indent
  | dedent
  deriving DecidableEq, Repr

/-- The token of a word. -/
def Token.ofWord (word : List Char) : Token :=
  match keyword? word with
  | some reserved => .keyword reserved
  | none => .name word

/-- The operator that begins with a character, given what follows it. The longest one is taken. -/
def operator? (first : Char) (rest : List Char) : Option (Operator × List Char) :=
  let orAssigned (plain : Operator) : Operator × List Char :=
    match rest with
    | '=' :: after => (.augmented, after)
    | _ => (plain, rest)
  let doubled (double single : Operator) : Operator × List Char :=
    match rest with
    | second :: '=' :: after =>
        if second = first then (.augmented, after)
        else if second = '=' then (.augmented, '=' :: after)
        else (single, rest)
    | second :: after =>
        if second = first then (double, after)
        else if second = '=' then (.augmented, after)
        else (single, rest)
    | [] => (single, rest)
  match first with
  | '(' => some (.openParen, rest)
  | ')' => some (.closeParen, rest)
  | '[' => some (.openBracket, rest)
  | ']' => some (.closeBracket, rest)
  | '\x7b' => some (.openBrace, rest)
  | '\x7d' => some (.closeBrace, rest)
  | ',' => some (.comma, rest)
  | ';' => some (.semicolon, rest)
  | '~' => some (.tilde, rest)
  | '.' =>
      match rest with
      | '.' :: '.' :: after => some (.ellipsis, after)
      | _ => some (.dot, rest)
  | ':' =>
      match rest with
      | '=' :: after => some (.walrus, after)
      | _ => some (.colon, rest)
  | '=' =>
      match rest with
      | '=' :: after => some (.comparison, after)
      | _ => some (.assign, rest)
  | '!' =>
      match rest with
      | '=' :: after => some (.comparison, after)
      | _ => none
  | '-' =>
      match rest with
      | '>' :: after => some (.arrow, after)
      | _ => some (orAssigned .minus)
  | '+' => some (orAssigned .plus)
  | '@' => some (orAssigned .at)
  | '|' => some (orAssigned .bar)
  | '%' => some (orAssigned .binary)
  | '&' => some (orAssigned .binary)
  | '^' => some (orAssigned .binary)
  | '*' => some (doubled .doubleStar .star)
  | '/' => some (doubled .binary .slash)
  | '<' =>
      match rest with
      | '=' :: after => some (.comparison, after)
      | _ => some (doubled .binary .comparison)
  | '>' =>
      match rest with
      | '=' :: after => some (.comparison, after)
      | _ => some (doubled .binary .comparison)
  | _ => none

end Registrar.Python
