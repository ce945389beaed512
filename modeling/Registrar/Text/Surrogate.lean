/-!
# Texts with surrogates

The code points from U+D800 to U+DFFF are no characters: two of them are written for a character from
U+10000 on, and alone they stand for nothing. A text may still hold one that is alone, since an escape can
spell it. Such a text is worked on like any other, but it cannot be encoded.
-/

namespace Registrar

/-- A code point that is no character. -/
structure Surrogate where
  number : Nat
  inside : 0xD800 ≤ number ∧ number < 0xE000
  deriving DecidableEq, Repr

/-- A text: characters, and then each surrogate with the characters behind it. -/
structure Text where
  head : String
  tail : List (Surrogate × String)
  deriving DecidableEq, Repr

instance : Coe String Text := ⟨fun characters => ⟨characters, []⟩⟩

/-- Why a text cannot be encoded: its first surrogate, the position of that, and how many stand there in a
row. -/
structure Unencodable where
  surrogate : Surrogate
  position : Nat
  count : Nat
  deriving DecidableEq, Repr

namespace Text

/-- How many surrogates stand in a row at the begin. -/
def inRow : List (Surrogate × String) → Nat
  | [] => 0
  | (_, behind) :: rest => 1 + if behind = "" then inRow rest else 0

/-- Why a text cannot be encoded, if it cannot. -/
def unencodable? (text : Text) : Option Unencodable :=
  match text.tail with
  | [] => none
  | (surrogate, _) :: _ => some ⟨surrogate, text.head.length, inRow text.tail⟩

/-- What a file holds to which a text is written: a text that cannot be encoded leaves it empty. -/
def written (text : Text) : String :=
  if text.tail.isEmpty then text.head else ""

/-- The characters of a text, with one and the same character in the place of each surrogate. -/
def marked (text : Text) : List Char :=
  text.head.toList ++ text.tail.flatMap fun (_, behind) => '\uFFFD' :: behind.toList

/-- A text without surrogates is what is written of it. -/
theorem eq_written_of_unencodable? {text : Text} (encodable : text.unencodable? = none) :
    text = text.written := by
  obtain ⟨head, tail⟩ := text
  cases tail with
  | nil => rfl
  | cons first rest => cases encodable

theorem written_of_unencodable? {text : Text} (unencodable : text.unencodable? ≠ none) :
    text.written = "" := by
  obtain ⟨head, tail⟩ := text
  cases tail with
  | nil => exact absurd rfl unencodable
  | cons first rest => rfl

@[simp] theorem marked_coe (characters : String) : (characters : Text).marked = characters.toList := by
  simp [marked]

end Text

end Registrar
