import Registrar.Text.Surrogate

/-!
# Quoted text

The form of a text between double quotes: a backslash in front of a quote, a backslash or a
letter that stands for a control character, and four hexadecimal digits for the rest. Two
alphabets are written: one leaves every character from a space on as it is, the other only the
visible ASCII characters.

`unquote` reads both forms back, and any other spelling the form allows. An escape may spell a surrogate
that is alone. What is read for it is left open, since it is no character.
-/

namespace Registrar

namespace Quoted

/-- Which characters may stand for themselves. -/
inductive Alphabet where
  | unicode
  | ascii
  deriving DecidableEq, Repr

/-- A digit of base sixteen. -/
def hexDigit (n : Nat) : Char :=
  if n < 10 then Char.ofNat (48 + n) else Char.ofNat (87 + n)

/-- The last hexadecimal digits of a number, a given count of them. -/
def hexDigits : Nat → Nat → List Char
  | 0, _ => []
  | count + 1, n => hexDigits count (n / 16) ++ [hexDigit (n % 16)]

/-- The value of a digit of base sixteen, in either case. -/
def hexValue? (c : Char) : Option Nat :=
  if '0' ≤ c ∧ c ≤ '9' then some (c.toNat - 48)
  else if 'a' ≤ c ∧ c ≤ 'f' then some (c.toNat - 87)
  else if 'A' ≤ c ∧ c ≤ 'F' then some (c.toNat - 55)
  else none

/-- A 16-bit unit as a backslash, the letter `u` and four digits. -/
def unitEscape (n : Nat) : List Char :=
  ['\\', 'u', hexDigit (n / 4096 % 16), hexDigit (n / 256 % 16), hexDigit (n / 16 % 16),
    hexDigit (n % 16)]

/-- The 16-bit units of a character: one, or a pair for a character from U+10000 on. -/
def units (c : Char) : List Nat :=
  if c.toNat < 0x10000 then [c.toNat]
  else [0xD800 + (c.toNat - 0x10000) / 0x400, 0xDC00 + (c.toNat - 0x10000) % 0x400]

/-- The letter after a backslash for the characters that have one. -/
def letter? : Char → Option Char
  | '"' => some '"'
  | '\\' => some '\\'
  | '\n' => some 'n'
  | '\r' => some 'r'
  | '\t' => some 't'
  | '\x08' => some 'b'
  | '\x0c' => some 'f'
  | _ => none

/-- Whether a character without a letter stands for itself. -/
def plain (alphabet : Alphabet) (c : Char) : Bool :=
  match alphabet with
  | .unicode => ' ' ≤ c
  | .ascii => ' ' ≤ c && c ≤ '~'

/-- The written form of one character. -/
def escape (alphabet : Alphabet) (c : Char) : List Char :=
  match letter? c with
  | some l => ['\\', l]
  | none => if plain alphabet c then [c] else (units c).flatMap unitEscape

/-- The written form of a text, without the quotes around it. -/
def encode (alphabet : Alphabet) (cs : List Char) : List Char :=
  cs.flatMap (escape alphabet)

/-- The character that a letter after a backslash stands for. -/
def unletter? : Char → Option Char
  | '"' => some '"'
  | '\\' => some '\\'
  | '/' => some '/'
  | 'n' => some '\n'
  | 'r' => some '\r'
  | 't' => some '\t'
  | 'b' => some '\x08'
  | 'f' => some '\x0c'
  | _ => none

/-- The value of four digits of base sixteen. -/
def unitValue? (a b c d : Char) : Option Nat := do
  return (← hexValue? a) * 4096 + (← hexValue? b) * 256 + (← hexValue? c) * 16 + (← hexValue? d)

/-- The character of two 16-bit units, if they are a pair. -/
def paired? (high low : Nat) : Option Char :=
  if 0xD800 ≤ high ∧ high < 0xDC00 ∧ 0xDC00 ≤ low ∧ low < 0xE000 then
    some (Char.ofNat (0x10000 + (high - 0xD800) * 0x400 + (low - 0xDC00)))
  else none

/-- Read a text up to its closing quote, and return what follows the quote. A control character has to be
escaped. Two surrogates that are a pair give their character, and any other is stood in for, if it can
be. -/
def unquote (standIn : Surrogate → Option Char) : List Char → Option (List Char × List Char)
  | [] => none
  | '"' :: rest => some ([], rest)
  | '\\' :: 'u' :: a :: b :: c :: d :: rest =>
      match unitValue? a b c d with
      | none => none
      | some unit =>
          if inside : 0xD800 ≤ unit ∧ unit < 0xE000 then
            let alone (_ : Unit) : Option (List Char × List Char) :=
              (standIn ⟨unit, inside⟩).bind fun character =>
                (unquote standIn rest).map fun (cs, after) => (character :: cs, after)
            match rest with
            | '\\' :: 'u' :: a' :: b' :: c' :: d' :: rest' =>
                match (unitValue? a' b' c' d').bind (paired? unit) with
                | some character =>
                    (unquote standIn rest').map fun (cs, after) => (character :: cs, after)
                | none => alone ()
            | _ => alone ()
          else (unquote standIn rest).map fun (cs, after) => (Char.ofNat unit :: cs, after)
  | '\\' :: l :: rest =>
      match unletter? l with
      | none => none
      | some c => (unquote standIn rest).map fun (cs, after) => (c :: cs, after)
  | c :: rest =>
      if c < ' ' then none else (unquote standIn rest).map fun (cs, after) => (c :: cs, after)

end Quoted

/-- A text between double quotes. -/
def quoted (alphabet : Quoted.Alphabet) (text : String) : String :=
  String.ofList ('"' :: (Quoted.encode alphabet text.toList ++ ['"']))

end Registrar
