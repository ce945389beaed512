import Registrar.Python.Identifier

/-!
# Numerals of Python source

Whole numbers in base two, eight, ten and sixteen, and decimal fractions with an exponent; an
ending `j` makes a number imaginary. Digits may be grouped by single underscores. A numeral ends
where no character of a name follows, or where one of the words begins that may follow a number.
-/

namespace Registrar.Python

/-- Whether a character can be part of a word. All characters outside ASCII count here. -/
def isNameChar (c : Char) : Bool :=
  c.isAlphanum || c == '_' || 0x80 ≤ c.toNat

/-- The words that may follow a number without a blank, each as far as it is looked at. -/
def wordsAfterNumber : List (List Char) :=
  [['a', 'n', 'd'], ['e', 'l', 's', 'e'], ['f', 'o', 'r'], ['i', 'f'], ['i', 'n'], ['i', 's'],
    ['o', 'r'], ['n', 'o', 't']]

/-- Whether a numeral may end in front of a text. -/
def mayFollowNumber (cs : List Char) : Bool :=
  match cs with
  | [] => true
  | c :: _ => !isNameChar c || wordsAfterNumber.any (·.isPrefixOf cs)

/-- Skip digits, each of which may have one underscore in front. An underscore without a digit
behind it is refused. -/
def skipDigits (isDigit : Char → Bool) : List Char → Option (List Char)
  | [] => some []
  | '_' :: rest =>
      match rest with
      | [] => none
      | c :: after => if isDigit c then skipDigits isDigit after else none
  | c :: rest => if isDigit c then skipDigits isDigit rest else some (c :: rest)

/-- A digit of base sixteen. -/
def isHexDigit (c : Char) : Bool :=
  c.isDigit || ('a' ≤ c && c ≤ 'f') || ('A' ≤ c && c ≤ 'F')

/-- The digits behind the mark of a base: at least one, all of that base. -/
def afterBase (isDigit : Char → Bool) (cs : List Char) : Option (Bool × List Char) :=
  match cs with
  | [] => none
  | c :: _ =>
      if isDigit c || c == '_' then do
        let rest ← skipDigits isDigit cs
        if mayFollowNumber rest then some (false, rest) else none
      else none

/-- The mark of an imaginary number and the end of a numeral. -/
def imaginaryEnd (cs : List Char) : Option (Bool × List Char) :=
  match cs with
  | c :: rest =>
      if c = 'j' ∨ c = 'J' then if mayFollowNumber rest then some (true, rest) else none
      else if mayFollowNumber cs then some (false, cs)
      else none
  | [] => some (false, [])

/-- An exponent, if there is one, and the end of a numeral. A letter that begins no exponent may
begin the next word. -/
def exponentEnd (cs : List Char) : Option (Bool × List Char) :=
  match cs with
  | mark :: rest =>
      if mark = 'e' ∨ mark = 'E' then
        match rest with
        | sign :: digit :: after =>
            if sign = '+' ∨ sign = '-' then
              if digit.isDigit then (skipDigits Char.isDigit after).bind imaginaryEnd else none
            else if sign.isDigit then
              (skipDigits Char.isDigit (digit :: after)).bind imaginaryEnd
            else if mayFollowNumber cs then some (false, cs)
            else none
        | [digit] =>
            if digit.isDigit then some (false, []) else none
        | [] => none
      else imaginaryEnd cs
  | [] => some (false, [])

/-- What may stand behind the whole part of a decimal number. A whole number that begins with a
zero has no other digits than zeros. -/
def decimalEnd (zeroLed : Bool) (cs : List Char) : Option (Bool × List Char) :=
  match cs with
  | '.' :: c :: rest =>
      if c.isDigit then (skipDigits Char.isDigit (c :: rest)).bind exponentEnd
      else exponentEnd (c :: rest)
  | ['.'] => some (false, [])
  | c :: _ =>
      if c = 'e' ∨ c = 'E' then exponentEnd cs
      else if c = 'j' ∨ c = 'J' then imaginaryEnd cs
      else if zeroLed then none
      else imaginaryEnd cs
  | [] => if zeroLed then none else some (false, [])

/-- Whether digits begin with a zero although there is another digit among them. -/
def isZeroLed (cs : List Char) : Bool :=
  match cs with
  | '0' :: rest =>
      match rest.dropWhile fun c => c == '0' || c == '_' with
      | c :: _ => c.isDigit
      | [] => false
  | _ => false

/-- Read a numeral at a text that begins with a digit, or with a point and a digit. The answer
says whether the number is imaginary. -/
def numeral? (cs : List Char) : Option (Bool × List Char) :=
  match cs with
  | '.' :: _ => decimalEnd false cs
  | '0' :: mark :: rest =>
      if mark = 'x' ∨ mark = 'X' then afterBase isHexDigit rest
      else if mark = 'o' ∨ mark = 'O' then afterBase (fun c => '0' ≤ c && c ≤ '7') rest
      else if mark = 'b' ∨ mark = 'B' then afterBase (fun c => c == '0' || c == '1') rest
      else (skipDigits Char.isDigit cs).bind (decimalEnd (isZeroLed cs))
  | _ => (skipDigits Char.isDigit cs).bind (decimalEnd (isZeroLed cs))

/-- Digits of a numeral without underscores are skipped one by one. -/
theorem skipDigits_cons {isDigit : Char → Bool} {c : Char} (plain : c ≠ '_')
    (digit : isDigit c = true) (rest : List Char) :
    skipDigits isDigit (c :: rest) = skipDigits isDigit rest := by
  rw [skipDigits]
  · simp [digit]
  · exact plain

end Registrar.Python
