import Registrar.Json.Printer

/-!
# The texts of numbers

A whole number is written in decimal digits, with a sign in front if it is negative, and has no zero in
front of other digits. A binary64 number with digits is written with digits on both sides of a point, or
with an exponent behind its digits.
-/

namespace Registrar

/-- A row of decimal digits that is not empty. -/
structure IsDigits (cs : List Char) : Prop where
  nonempty : cs ≠ []
  digits : ∀ c ∈ cs, c.isDigit = true

theorem isDigits_cons {c : Char} {cs : List Char} (digit : c.isDigit = true)
    (digits : ∀ d ∈ cs, d.isDigit = true) : IsDigits (c :: cs) :=
  ⟨by simp, List.forall_mem_cons.mpr ⟨digit, digits⟩⟩

theorem isDigits_toDigits (n : Nat) : IsDigits (Nat.toDigits 10 n) where
  nonempty := List.ne_nil_of_length_pos Nat.length_toDigits_pos
  digits _ := Nat.isDigit_of_mem_toDigits (by decide) (by decide)

/-- A row of digits behind any number of zeros. -/
theorem IsDigits.behind_zeros {cs : List Char} (h : IsDigits cs) (n : Nat) :
    IsDigits (List.replicate n '0' ++ cs) where
  nonempty := by simp [h.nonempty]
  digits := by
    rw [List.forall_mem_append]
    exact ⟨fun c member => by rw [List.eq_of_mem_replicate member]; decide, h.digits⟩

/-- Digits with a point among them, or with an exponent behind them. -/
inductive Fractional : List Char → Prop
  | point {whole fraction} (before : IsDigits whole) (behind : IsDigits fraction) :
      Fractional (whole ++ '.' :: fraction)
  | exponent {whole power} {sign : Char} (before : IsDigits whole)
      (signed : sign = '+' ∨ sign = '-') (raised : IsDigits power) :
      Fractional (whole ++ 'e' :: sign :: power)
  | pointExponent {whole fraction power} {sign : Char} (before : IsDigits whole)
      (behind : IsDigits fraction) (signed : sign = '+' ∨ sign = '-') (raised : IsDigits power) :
      Fractional (whole ++ '.' :: (fraction ++ 'e' :: sign :: power))

/-- A decimal is written in digits with a point or an exponent. -/
theorem fractional_render (layout : Decimal.Layout) (d : Decimal) :
    Fractional (d.render layout).toList := by
  have digits := isDigits_toDigits d.digits
  unfold Decimal.render
  generalize Nat.toDigits 10 d.digits = written at digits ⊢
  obtain ⟨first, more, rfl⟩ := List.exists_cons_of_ne_nil digits.nonempty
  obtain ⟨leads, others⟩ := List.forall_mem_cons.mp digits.digits
  dsimp only
  split
  · split
    · -- Zeros stand between the point and the digits.
      have zero : IsDigits ['0'] := isDigits_cons (by decide) (by simp)
      have whole := Fractional.point zero
        (digits.behind_zeros (-((first :: more).length - 1 + d.scale) - 1 : Int).toNat)
      simpa using whole
    · -- The point stands among the digits, or behind zeros that fill up the place.
      rename_i place
      generalize ((first :: more).length - 1 + d.scale : Int).toNat = places
      have before : IsDigits ((first :: more).take (places + 1) ++
          List.replicate (places + 1 - (first :: more).length) '0') := by
        rw [List.take_succ_cons, List.cons_append]
        refine isDigits_cons leads ?_
        rw [List.forall_mem_append]
        exact ⟨fun c member => others c (List.mem_of_mem_take member),
          fun c member => by rw [List.eq_of_mem_replicate member]; decide⟩
      have behind : IsDigits (if ((first :: more).drop (places + 1)).isEmpty then ['0']
          else (first :: more).drop (places + 1)) := by
        split
        · exact isDigits_cons (by decide) (by simp)
        · rename_i some
          exact ⟨by simpa using some, fun c member => digits.digits c (List.mem_of_mem_drop member)⟩
      have whole := Fractional.point before behind
      simpa using whole
  · -- One digit stands in front of the point, which is left out where nothing is behind it.
    have lead : IsDigits [first] := isDigits_cons leads (by simp)
    generalize ((first :: more).length - 1 + d.scale : Int) = place
    have raised := (isDigits_toDigits place.natAbs).behind_zeros
      (layout.exponentWidth - (Nat.toDigits 10 place.natAbs).length)
    generalize List.replicate (layout.exponentWidth - (Nat.toDigits 10 place.natAbs).length) '0' ++
      Nat.toDigits 10 place.natAbs = power at raised ⊢
    obtain ⟨sign, signed, mark⟩ : ∃ sign : Char, (sign = '+' ∨ sign = '-') ∧
        (if place < 0 then "e-" else "e+").toList = ['e', sign] := by
      split
      · exact ⟨'-', .inr rfl, rfl⟩
      · exact ⟨'+', .inl rfl, rfl⟩
    cases more with
    | nil => simpa [mark] using Fractional.exponent lead signed raised
    | cons second more =>
        have behind : IsDigits (second :: more) := ⟨by simp, others⟩
        simpa [mark] using Fractional.pointExponent lead behind signed raised

/-- A row of digits that begins with a zero only if that is all of it. -/
def NoLeadingZero (cs : List Char) : Prop :=
  ∀ rest, cs = '0' :: rest → rest = []

theorem toDigits_ne_zero_cons {n : Nat} (positive : 0 < n) (rest : List Char) :
    Nat.toDigits 10 n ≠ '0' :: rest := by
  induction n using Nat.strongRecOn generalizing rest with
  | ind n ih =>
      rcases Nat.lt_or_ge n 10 with small | large
      · rw [Nat.toDigits_of_lt_base small]
        have digits : ∀ digit < 10, 0 < digit → Nat.digitChar digit ≠ '0' := by decide
        intro same
        exact digits n small positive (List.cons.inj same).1
      · rw [Nat.toDigits_of_base_le (by decide) large]
        have fewer := ih (n / 10) (by omega) (by omega)
        intro same
        obtain ⟨first, more, whole⟩ := List.exists_cons_of_ne_nil (isDigits_toDigits (n / 10)).nonempty
        rw [whole, List.cons_append] at same
        exact fewer more (by rw [whole, (List.cons.inj same).1])

/-- The digits of a number have no zero in front. -/
theorem noLeadingZero_toDigits (n : Nat) : NoLeadingZero (Nat.toDigits 10 n) := by
  intro rest same
  rcases Nat.eq_zero_or_pos n with rfl | positive
  · exact (List.cons.inj same).2.symm
  · exact absurd same (toDigits_ne_zero_cons positive rest)

/-- A whole number is written in its digits, with a sign in front if it is negative. -/
theorem toList_toString_int (n : Int) :
    ∃ m : Nat, (toString n).toList = Nat.toDigits 10 m ∨ (toString n).toList = '-' :: Nat.toDigits 10 m := by
  cases n with
  | ofNat m => exact ⟨m, .inl (by simp [toString, Int.repr, Nat.repr])⟩
  | negSucc m => exact ⟨m + 1, .inr (by simp [toString, Int.repr, Nat.repr])⟩

/-- The text of a number without its sign: digits, or one of the words for numbers without digits. -/
inductive Unsigned (words : List String) : List Char → Prop
  | whole {cs} (digits : IsDigits cs) (led : NoLeadingZero cs) : Unsigned words cs
  | fraction {cs} (digits : Fractional cs) : Unsigned words cs
  | word {word} (known : word ∈ words) : Unsigned words word.toList

/-- The text of a number. -/
inductive NumberText (words : List String) : List Char → Prop
  | positive {cs} (unsigned : Unsigned words cs) : NumberText words cs
  | negative {cs} (unsigned : Unsigned words cs) : NumberText words ('-' :: cs)

theorem numberText_int (words : List String) (n : Int) : NumberText words (toString n).toList := by
  obtain ⟨m, same | same⟩ := toList_toString_int n
  · rw [same]
    exact .positive (.whole (isDigits_toDigits m) (noLeadingZero_toDigits m))
  · rw [same]
    exact .negative (.whole (isDigits_toDigits m) (noLeadingZero_toDigits m))

/-- Whether a number is neither an infinity nor not a number. -/
def Binary64.isFinite : Binary64 → Bool
  | .finite _ _ _ => true
  | _ => false

/-- The digits of a finite number need no words. -/
theorem numberText_finite (layout : Decimal.Layout) (words : List String) (negative : Bool) (mantissa : Nat)
    (exponent : Int) :
    NumberText words ((Binary64.finite negative mantissa exponent).render layout).toList := by
  have unsigned : Unsigned words (if mantissa = 0 then "0.0"
      else Decimal.render layout (Decimal.shortest mantissa exponent)).toList := by
    split
    · have zero : IsDigits ['0'] := isDigits_cons (by decide) (by simp)
      exact .fraction (.point zero zero)
    · exact .fraction (fractional_render layout _)
  cases negative with
  | false => simpa [Binary64.render] using NumberText.positive unsigned
  | true => simpa [Binary64.render] using NumberText.negative unsigned

theorem numberText_render (layout : Decimal.Layout) (x : Binary64) :
    NumberText [layout.nan, layout.infinity] (x.render layout).toList := by
  cases x with
  | nan =>
      have known : layout.nan ∈ [layout.nan, layout.infinity] := by simp
      exact .positive (.word known)
  | infinity negative =>
      have known : layout.infinity ∈ [layout.nan, layout.infinity] := by simp
      cases negative with
      | false => simpa [Binary64.render] using NumberText.positive (.word known)
      | true => simpa [Binary64.render] using NumberText.negative (.word known)
  | finite negative mantissa exponent => exact numberText_finite layout _ negative mantissa exponent

/-- The characters of a number are digits, marks or characters of a word. -/
theorem NumberText.mem {words : List String} {cs : List Char} (number : NumberText words cs) {c : Char}
    (member : c ∈ cs) :
    c.isDigit = true ∨ c ∈ ['.', 'e', '+', '-'] ∨ ∃ word ∈ words, c ∈ word.toList := by
  have unsigned {cs : List Char} (number : Unsigned words cs) (member : c ∈ cs) :
      c.isDigit = true ∨ c ∈ ['.', 'e', '+', '-'] ∨ ∃ word ∈ words, c ∈ word.toList := by
    cases number with
    | whole digits _ => exact .inl (digits.digits c member)
    | word known => exact .inr (.inr ⟨_, known, member⟩)
    | fraction digits =>
        rcases digits with ⟨before, behind⟩ | ⟨before, signed, raised⟩ | ⟨before, behind, signed, raised⟩ <;>
          simp only [List.mem_append, List.mem_cons] at member
        · rcases member with member | rfl | member
          · exact .inl (before.digits c member)
          · simp
          · exact .inl (behind.digits c member)
        · rcases member with member | rfl | rfl | member
          · exact .inl (before.digits c member)
          · simp
          · rcases signed with rfl | rfl <;> simp
          · exact .inl (raised.digits c member)
        · rcases member with member | rfl | member | rfl | rfl | member
          · exact .inl (before.digits c member)
          · simp
          · exact .inl (behind.digits c member)
          · simp
          · rcases signed with rfl | rfl <;> simp
          · exact .inl (raised.digits c member)
  cases number with
  | positive number => exact unsigned number member
  | negative number =>
      rcases List.mem_cons.mp member with rfl | member
      · simp
      · exact unsigned number member

end Registrar
