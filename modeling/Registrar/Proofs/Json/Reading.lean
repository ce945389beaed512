import Registrar.Json.Reader

/-!
# Reading objects

Texts without escapes are read as they stand between their quotes, and so the fields of an object can be
read one after the other when their keys are such texts.
-/

namespace Registrar

/-- Whether a character stands for itself between quotes. -/
def Quoted.isUnescaped (c : Char) : Bool :=
  ' ' ≤ c && c != '"' && c != '\\'

/-- A text without escapes is read up to its closing quote. -/
theorem Quoted.unquote_unescaped {cs : List Char} (unescaped : cs.all isUnescaped = true)
    (standIn : Surrogate → Option Char) (rest : List Char) :
    unquote standIn (cs ++ '"' :: rest) = some (cs, rest) := by
  induction cs with
  | nil => rw [List.nil_append, unquote]
  | cons c more ih =>
      rw [List.all_cons, Bool.and_eq_true] at unescaped
      have plain : (' ' ≤ c ∧ c ≠ '"') ∧ c ≠ '\\' := by simpa [isUnescaped] using unescaped.1
      obtain ⟨⟨visible, quote⟩, slash⟩ := plain
      have low : ¬ c < ' ' := Nat.not_lt.mpr visible
      rw [List.cons_append, unquote, if_neg low, ih unescaped.2]
      · rfl
      · exact quote
      · intro _ _ _ _ _ same _
        exact slash same
      · intro _ _ same _
        exact slash same

namespace Json

section Fields

variable (standIn : Surrogate → Option Char) {key : List Char} (unescaped : key.all Quoted.isUnescaped = true)

include unescaped

/-- The last field of an object is read, if its value is an empty object. -/
theorem fields?_empty (fuel : Nat) (before : List (String × Json)) (rest : List Char) :
    fields? standIn (fuel + 2) before ('"' :: (key ++ '"' :: ':' :: '\x7b' :: '\x7d' :: '\x7d' :: rest)) =
      some (setField (.ofList key) (.obj []) before, rest) := by
  rw [fields?, Quoted.unquote_unescaped unescaped]
  rfl

/-- A field before others is read, if its value is an empty object. -/
theorem fields?_empty_cons (fuel : Nat) (before : List (String × Json)) (rest : List Char) :
    fields? standIn (fuel + 2) before
        ('"' :: (key ++ '"' :: ':' :: '\x7b' :: '\x7d' :: ',' :: '"' :: rest)) =
      fields? standIn (fuel + 1) (setField (.ofList key) (.obj []) before) ('"' :: rest) := by
  rw [fields?, Quoted.unquote_unescaped unescaped]
  rfl

/-- The last field of an object is read, if its value is an object that is read. -/
theorem fields?_object {inside rest : List Char} {fuel : Nat} {fields : List (String × Json)}
    (before : List (String × Json))
    (inner : fields? standIn fuel [] ('"' :: inside) = some (fields, '\x7d' :: rest)) :
    fields? standIn (fuel + 2) before ('"' :: (key ++ '"' :: ':' :: '\x7b' :: '"' :: inside)) =
      some (setField (.ofList key) (.obj fields) before, rest) := by
  rw [fields?, Quoted.unquote_unescaped unescaped]
  simp [value?, skipBlank, inner]

end Fields

end Json

end Registrar
