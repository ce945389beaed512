import Registrar.Json.Printer
import Registrar.Json.Reader
import Registrar.Text.Search

/-!
# Characters that stand in for surrogates

A JSON text may spell surrogates that are alone, and what is generated for it holds them again, as they are
or as escapes. In between each of them is stood in for by a character that occurs nowhere in what is read:
one for private use, which no step tells from a surrogate, as it is printed raw in a schema, with the digits
of its number where only ASCII is printed, and is no part of a name. Behind the last step the characters are
taken for the surrogates again.

## Implementation notes

There are 6400 characters for private use and 2048 surrogates. A text that uses so many of the characters
itself that none is left for one of its surrogates is not read.
-/

namespace Registrar

/-- The characters that stand in for surrogates, in the order of the surrogates. -/
structure StandIns where
  characters : List Char
  deriving DecidableEq, Repr

namespace StandIns

/-- No surrogate is stood in for. -/
def empty : StandIns := ⟨[]⟩

/-- The character that stands in for a surrogate. -/
def character? (standIns : StandIns) (surrogate : Surrogate) : Option Char :=
  standIns.characters[surrogate.number - 0xD800]?

/-- The surrogate for which a character stands in. -/
def surrogate? (standIns : StandIns) (c : Char) : Option Surrogate :=
  let number := 0xD800 + standIns.characters.idxOf c
  if known : c ∈ standIns.characters ∧ number < 0xE000 then
    some ⟨number, Nat.le_add_right _ _, known.2⟩
  else none

/-- The characters for private use. -/
def privateUse : List Char :=
  (List.range 0x1900).map fun n => Char.ofNat (0xE000 + n)

/-- Whether neither a character nor the digits of its number occur in a text. -/
def isFreeIn (text : List Char) (c : Char) : Bool :=
  !text.contains c && !occursIn (Quoted.hexDigits 4 c.toNat) text

/-- Characters that occur nowhere in some values. -/
def avoiding (values : List Json) : StandIns :=
  ⟨privateUse.filter (isFreeIn (values.flatMap fun value => value.compact.toList))⟩

/-- The characters that are needed to read some texts: none if the texts can be read without. -/
def reading (texts : List String) : StandIns :=
  if texts.all fun text => (Json.read? text).isSome then empty
  else avoiding (texts.filterMap (Json.readWith fun _ => some '\uFFFD'))

/-- The surrogate for which the character stands in that an escape at the front of a text spells. -/
def escaped? (standIns : StandIns) : List Char → Option Surrogate
  | '\\' :: 'u' :: a :: b :: c :: d :: _ => do
      standIns.surrogate? (Char.ofNat (← Quoted.unitValue? a b c d))
  | _ => none

/-- A text with escapes of surrogates for those of their characters, from behind a number of characters
on. -/
def escapedBehind (standIns : StandIns) : Nat → List Char → List Char
  | _, [] => []
  | skipped + 1, _ :: rest => escapedBehind standIns skipped rest
  | 0, c :: rest =>
      match standIns.escaped? (c :: rest) with
      | some surrogate => Quoted.unitEscape surrogate.number ++ escapedBehind standIns 5 rest
      | none => c :: escapedBehind standIns 0 rest

/-- A text divided at the characters that stand in for surrogates. -/
def divided (standIns : StandIns) : List Char → List Char × List (Surrogate × List Char)
  | [] => ([], [])
  | c :: rest =>
      let (front, behind) := divided standIns rest
      match standIns.surrogate? c with
      | some surrogate => ([], (surrogate, front) :: behind)
      | none => (c :: front, behind)

/-- A text with surrogates for the characters that stand in for them. -/
def restored (standIns : StandIns) (text : String) : Text :=
  let (front, behind) := standIns.divided (standIns.escapedBehind 0 text.toList)
  ⟨.ofList front, behind.map fun (surrogate, cs) => (surrogate, .ofList cs)⟩

/-- A text as it is shown, with escapes for the surrogates. -/
def shown (standIns : StandIns) (text : String) : String :=
  .ofList ((standIns.escapedBehind 0 text.toList).flatMap fun c =>
    match standIns.surrogate? c with
    | some surrogate => Quoted.unitEscape surrogate.number
    | none => [c])

end StandIns

end Registrar
