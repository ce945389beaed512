import Registrar.Json.Basic
import Registrar.Text.Quoted

/-!
# Reading JSON

A reader of JSON texts that also takes the words `NaN`, `Infinity` and `-Infinity`. A number
without a fraction and an exponent is a whole number of any size; any other number is rounded to
binary64. A key that is repeated keeps its first place and its last value. How a surrogate is read that an
escape spells alone is left to the caller.

## Implementation notes

The reader descends by fuel. Every opening bracket and every item takes a character, and at most
two calls are made for each, so twice the length of the text is enough.
-/

namespace Registrar

namespace Json

/-- What is left behind blanks. -/
def skipBlank (cs : List Char) : List Char :=
  cs.dropWhile fun c => c == ' ' || c == '\t' || c == '\n' || c == '\r'

/-- The rest behind a word. -/
def afterWord? : List Char → List Char → Option (List Char)
  | [], rest => some rest
  | _ :: _, [] => none
  | w :: word, c :: rest => if w = c then afterWord? word rest else none

/-- The value of decimal digits. -/
def digitsValue (digits : List Char) : Nat :=
  digits.foldl (fun n c => 10 * n + (c.toNat - 48)) 0

/-- The digits at the front and what follows them. -/
def takeDigits (cs : List Char) : List Char × List Char :=
  (cs.takeWhile Char.isDigit, cs.dropWhile Char.isDigit)

/-- The digits of a whole part: a single zero, or digits that begin with another one. -/
def wholeDigits? : List Char → Option (List Char × List Char)
  | '0' :: rest => some (['0'], rest)
  | c :: rest => if c.isDigit then some (takeDigits (c :: rest)) else none
  | [] => none

/-- The digits of a fraction. A point without a digit behind it is no fraction. -/
def fractionDigits : List Char → List Char × List Char
  | '.' :: rest =>
      let (digits, after) := takeDigits rest
      if digits.isEmpty then ([], '.' :: rest) else (digits, after)
  | cs => ([], cs)

/-- An exponent, if there is one with digits. -/
def exponent? : List Char → Option (Int × List Char)
  | mark :: rest =>
      if mark = 'e' ∨ mark = 'E' then
        let (negative, unsigned) : Bool × List Char :=
          match rest with
          | '-' :: after => (true, after)
          | '+' :: after => (false, after)
          | _ => (false, rest)
        let (digits, after) := takeDigits unsigned
        if digits.isEmpty then none
        else
          let size : Int := digitsValue digits
          some (if negative then -size else size, after)
      else none
  | [] => none

/-- A number without its sign. -/
def unsignedNumber? (negative : Bool) (cs : List Char) : Option (Json × List Char) := do
  let (whole, afterWhole) ← wholeDigits? cs
  let (fraction, afterFraction) := fractionDigits afterWhole
  match exponent? afterFraction with
  | some (exponent, rest) =>
      return (.float (.ofDecimal negative (digitsValue (whole ++ fraction))
        (exponent - fraction.length)), rest)
  | none =>
      if fraction.isEmpty then
        let size : Int := digitsValue whole
        return (.int (if negative then -size else size), afterFraction)
      else
        return (.float (.ofDecimal negative (digitsValue (whole ++ fraction))
          (-(fraction.length : Int))), afterFraction)

/-- A constant or a number. -/
def scalar? (cs : List Char) : Option (Json × List Char) :=
  match cs with
  | 'n' :: _ => (afterWord? "null".toList cs).map (.null, ·)
  | 't' :: _ => (afterWord? "true".toList cs).map (.bool true, ·)
  | 'f' :: _ => (afterWord? "false".toList cs).map (.bool false, ·)
  | 'N' :: _ => (afterWord? "NaN".toList cs).map (.float .nan, ·)
  | 'I' :: _ => (afterWord? "Infinity".toList cs).map (.float (.infinity false), ·)
  | '-' :: 'I' :: _ => (afterWord? "-Infinity".toList cs).map (.float (.infinity true), ·)
  | '-' :: rest => unsignedNumber? true rest
  | _ => unsignedNumber? false cs

section Values

variable (standIn : Surrogate → Option Char)

mutual
/-- A value at the front of a text, and what follows it. -/
def value? : Nat → List Char → Option (Json × List Char)
  | 0, _ => none
  | fuel + 1, cs =>
      match cs with
      | '"' :: rest => (Quoted.unquote standIn rest).map fun (text, after) => (.str (.ofList text), after)
      | '[' :: rest =>
          match skipBlank rest with
          | ']' :: after => some (.arr [], after)
          | inside => (items? fuel inside).map fun (items, after) => (.arr items, after)
      | '\x7b' :: rest =>
          match skipBlank rest with
          | '\x7d' :: after => some (.obj [], after)
          | inside => (fields? fuel [] inside).map fun (fields, after) => (.obj fields, after)
      | _ => scalar? cs

/-- One or more items up to the closing bracket. -/
def items? : Nat → List Char → Option (List Json × List Char)
  | 0, _ => none
  | fuel + 1, cs => do
      let (item, after) ← value? fuel cs
      match skipBlank after with
      | ']' :: rest => return ([item], rest)
      | ',' :: rest =>
          let (items, behind) ← items? fuel (skipBlank rest)
          return (item :: items, behind)
      | _ => none

/-- One or more fields up to the closing brace, added to the fields read before. -/
def fields? : Nat → List (String × Json) → List Char →
    Option (List (String × Json) × List Char)
  | 0, _, _ => none
  | fuel + 1, before, cs =>
      match cs with
      | '"' :: inside => do
          let (key, afterKey) ← Quoted.unquote standIn inside
          match skipBlank afterKey with
          | ':' :: afterColon =>
              let (value, afterValue) ← value? fuel (skipBlank afterColon)
              let fields := setField (.ofList key) value before
              match skipBlank afterValue with
              | '\x7d' :: rest => return (fields, rest)
              | ',' :: rest => fields? fuel fields (skipBlank rest)
              | _ => none
          | _ => none
      | _ => none
end

/-- Read a JSON text: one value between blanks. -/
def readWith (text : String) : Option Json :=
  let cs := text.toList
  match value? standIn (2 * cs.length + 2) (skipBlank cs) with
  | some (value, rest) => if (skipBlank rest).isEmpty then some value else none
  | none => none

end Values

/-- Read a JSON text in which no escape spells a surrogate that is alone. -/
def read? (text : String) : Option Json :=
  readWith (fun _ => none) text

end Json

end Registrar
