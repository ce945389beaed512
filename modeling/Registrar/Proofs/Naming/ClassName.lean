import Registrar.Naming

/-!
# Class names

The words of an id begin with capital letters in its class name, so no class name begins with a small
letter. The functions and constants that every generated module has of its own do, and no class name is
one of them.
-/

namespace Registrar

/-- The characters of words are the letters and digits of ASCII. -/
theorem isWordChar_eq_isAlphanum (c : Char) : isWordChar c = c.isAlphanum := by
  have unfolded : c.isAlphanum = ((decide (65 ≤ c.val ∧ c.val ≤ 90) || (97 ≤ c.val && c.val ≤ 122)) ||
      (48 ≤ c.val && c.val ≤ 57)) := rfl
  rw [Bool.eq_iff_iff, unfolded]
  simp only [isWordChar, Bool.or_eq_true, Bool.and_eq_true, decide_eq_true_eq, UInt32.le_iff_toNat_le]
  change _ ↔ ((65 ≤ c.toNat ∧ c.toNat ≤ 90) ∨ (97 ≤ c.toNat ∧ c.toNat ≤ 122)) ∨
    (48 ≤ c.toNat ∧ c.toNat ≤ 57)
  omega

/-- A character that belongs to no word is in no class name. -/
theorem not_mem_className {qualified : Bool} {id : String} {c : Char} (other : isWordChar c = false) :
    c ∉ (className qualified id).toList := by
  intro member
  rw [isWordChar_of_mem_className member] at other
  exact Bool.true_eq_false.mp other

/-- The small letters of ASCII. -/
def isSmallLetter (c : Char) : Bool :=
  97 ≤ c.toNat && c.toNat ≤ 122

theorem not_isSmallLetter_capital (c : Char) : isSmallLetter (capital c) = false := by
  unfold capital
  split
  · rename_i small
    have value : (Char.ofNat (c.toNat - 32)).toNat = c.toNat - 32 :=
      toNat_ofNat_of_ascii (by omega)
    simp only [isSmallLetter, value, Bool.and_eq_false_iff, decide_eq_false_iff_not]
    omega
  · rename_i other
    simpa [isSmallLetter] using other

/-- The first character of joined words is no small letter. -/
theorem not_isSmallLetter_of_joinWords {cs rest : List Char} {c : Char}
    (h : joinWords true cs = c :: rest) : isSmallLetter c = false := by
  induction cs with
  | nil => simp [joinWords] at h
  | cons head tail ih =>
      by_cases word : isWordChar head = true
      · simp only [joinWords, word, if_true, List.cons.injEq] at h
        rw [← h.1]
        exact not_isSmallLetter_capital head
      · rw [joinWords_cons_of_not_wordChar (by simpa using word)] at h
        exact ih h

/-- A class name does not begin with a small letter. -/
theorem className_ne_of_small {qualified : Bool} {id word : String} {c : Char} {rest : List Char}
    (begins : word.toList = c :: rest) (small : isSmallLetter c = true) :
    className qualified id ≠ word := by
  rintro rfl
  rw [className, String.toList_ofList] at begins
  rw [not_isSmallLetter_of_joinWords begins] at small
  exact Bool.false_ne_true small

end Registrar
