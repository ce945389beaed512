import Registrar.Text.Quoted

/-!
# The written form of quoted texts

What stands between the quotes of a written text is a row of visible characters that are neither quotes
nor backslashes, of backslashes with a letter, and of 16-bit units in hexadecimal digits, in whatever
alphabet the text is written. What a reader of such texts does is then settled by these three cases.
-/

namespace Registrar

/-- What holds of each character of a list is decided on the list, not on all the characters there are. -/
instance (priority := high) decidableForallChar {P : Char → Prop} [DecidablePred P] (cs : List Char) :
    Decidable (∀ c ∈ cs, P c) :=
  List.decidableBAll P cs

namespace Quoted

/-- The letters that are written behind a backslash for one character. -/
def escapeLetters : List Char := ['"', '\\', 'n', 'r', 't', 'b', 'f']

/-- Texts without an open quote that may stand between quotes. -/
inductive Escaped : List Char → Prop
  | nil : Escaped []
  | plain {c rest} (visible : ' ' ≤ c) (quote : c ≠ '"') (backslash : c ≠ '\\')
      (behind : Escaped rest) : Escaped (c :: rest)
  | letter {l rest} (known : l ∈ escapeLetters) (behind : Escaped rest) : Escaped ('\\' :: l :: rest)
  | unit {rest} (n : Nat) (behind : Escaped rest) : Escaped (unitEscape n ++ rest)

theorem mem_escapeLetters_of_letter? {c l : Char} (h : letter? c = some l) : l ∈ escapeLetters := by
  unfold letter? at h
  split at h <;> cases h <;> decide

theorem ne_of_letter?_eq_none {c : Char} (h : letter? c = none) : c ≠ '"' ∧ c ≠ '\\' := by
  constructor <;> rintro rfl <;> simp [letter?] at h

/-- A character that stands for itself is visible. -/
theorem visible_of_plain {alphabet : Alphabet} {c : Char} (itself : plain alphabet c = true) : ' ' ≤ c := by
  cases alphabet with
  | unicode => simpa [plain] using itself
  | ascii =>
      simp only [plain, Bool.and_eq_true, decide_eq_true_eq] at itself
      exact itself.1

theorem toNat_lt (c : Char) : c.toNat < 0x110000 := by
  rcases c.valid with low | ⟨-, high⟩
  · exact Nat.lt_trans low (by decide)
  · exact high

theorem Escaped.units {ns : List Nat} {rest : List Char} (behind : Escaped rest) :
    Escaped (ns.flatMap unitEscape ++ rest) := by
  induction ns with
  | nil => exact behind
  | cons n ns ih =>
      rw [List.flatMap_cons, List.append_assoc]
      exact .unit n ih

/-- A written character may stand in front of a written text. -/
theorem Escaped.escape (alphabet : Alphabet) (c : Char) {rest : List Char} (behind : Escaped rest) :
    Escaped (escape alphabet c ++ rest) := by
  unfold Quoted.escape
  split
  · rename_i l found
    exact .letter (mem_escapeLetters_of_letter? found) behind
  · rename_i none
    obtain ⟨quote, backslash⟩ := ne_of_letter?_eq_none none
    split
    · rename_i itself
      exact .plain (visible_of_plain itself) quote backslash behind
    · exact .units behind

/-- A text is written in a form that may stand between quotes. -/
theorem escaped_encode (alphabet : Alphabet) (cs : List Char) : Escaped (encode alphabet cs) := by
  induction cs with
  | nil => exact .nil
  | cons c cs ih => exact ih.escape alphabet c

/-- A written unit is a backslash, a letter and four digits. -/
theorem unitEscape_eq (n : Nat) : ∃ a b c d : Char, unitEscape n = ['\\', 'u', a, b, c, d] ∧
    ∀ digit ∈ [a, b, c, d], digit ∈ "0123456789abcdef".toList := by
  have all : ∀ digit < 16, hexDigit digit ∈ "0123456789abcdef".toList := by decide
  have each (n : Nat) := all _ (Nat.mod_lt n (by decide : 0 < 16))
  refine ⟨_, _, _, _, rfl, ?_⟩
  simp only [List.forall_mem_cons]
  exact ⟨each _, each _, each _, each _, by simp⟩

/-- What may stand between quotes is made of visible characters. -/
theorem Escaped.visible {cs : List Char} (escaped : Escaped cs) : ∀ c ∈ cs, ' ' ≤ c := by
  induction escaped with
  | nil => simp
  | plain visible _ _ _ ih => exact List.forall_mem_cons.mpr ⟨visible, ih⟩
  | @letter l rest known _ ih =>
      have letters : ∀ l ∈ escapeLetters, ' ' ≤ l := by decide
      exact List.forall_mem_cons.mpr ⟨by decide, List.forall_mem_cons.mpr ⟨letters l known, ih⟩⟩
  | unit n _ ih =>
      obtain ⟨a, b, c, d, written, digits⟩ := unitEscape_eq n
      have visible : ∀ c ∈ "0123456789abcdef".toList, ' ' ≤ c := by decide
      rw [written, List.forall_mem_append, List.forall_mem_cons, List.forall_mem_cons]
      exact ⟨⟨by decide, by decide, fun digit member => visible digit (digits digit member)⟩, ih⟩

end Quoted

theorem toList_quoted (alphabet : Quoted.Alphabet) (text : String) :
    (quoted alphabet text).toList = '"' :: (Quoted.encode alphabet text.toList ++ ['"']) := by
  rw [quoted, String.toList_ofList]

/-- A written text is made of visible characters. -/
theorem visible_of_mem_quoted {alphabet : Quoted.Alphabet} {text : String} :
    ∀ c ∈ (quoted alphabet text).toList, ' ' ≤ c := by
  rw [toList_quoted, List.forall_mem_cons, List.forall_mem_append, List.forall_mem_singleton]
  exact ⟨by decide, (Quoted.escaped_encode alphabet text.toList).visible, by decide⟩

end Registrar
