import Registrar.Proofs.Text.Escaping

/-!
# Where texts end

A text that is followed by others can be told from what follows it in one of two ways. Either a mark
follows that does not occur in it, or it is quoted, and then reading it up to its closing quote gives it
back together with all that follows. So if two rows of such texts are the same, they are the same text by
text.
-/

namespace Registrar

/-- Texts up to the first mark are determined by the whole. -/
theorem eq_of_append_mark {α : Type} {IsMark : α → Prop} {first second after behind : List α}
    {mark other : α} (plain : ∀ c ∈ first, ¬ IsMark c) (plain' : ∀ c ∈ second, ¬ IsMark c)
    (marks : IsMark mark) (marks' : IsMark other)
    (same : first ++ mark :: after = second ++ other :: behind) :
    first = second ∧ mark :: after = other :: behind := by
  induction first generalizing second with
  | nil =>
      cases second with
      | nil => exact ⟨rfl, same⟩
      | cons d second =>
          obtain rfl := (List.cons.inj same).1
          exact absurd marks (plain' mark List.mem_cons_self)
  | cons c first ih =>
      cases second with
      | nil =>
          obtain rfl := (List.cons.inj same).1
          exact absurd marks' (plain c List.mem_cons_self)
      | cons d second =>
          obtain ⟨rfl, rest⟩ := List.cons.inj same
          obtain ⟨rfl, later⟩ := ih (fun e member => plain e (List.mem_cons_of_mem _ member))
            (fun e member => plain' e (List.mem_cons_of_mem _ member)) rest
          exact ⟨rfl, later⟩

/-- Texts up to the first occurrence of one mark are determined by the whole. -/
theorem eq_of_append_same_mark {α : Type} {mark : α} {first second after behind : List α}
    (plain : mark ∉ first) (plain' : mark ∉ second)
    (same : first ++ mark :: after = second ++ mark :: behind) : first = second ∧ after = behind := by
  have apart {text : List α} (plain : mark ∉ text) : ∀ c ∈ text, ¬ c = mark := by
    rintro c member rfl
    exact plain member
  obtain ⟨one, other⟩ := eq_of_append_mark (apart plain) (apart plain') rfl rfl same
  exact ⟨one, (List.cons.inj other).2⟩

/-- Rows of texts that hold no mark are determined when each text ends with the mark, and the mark where a
text would begin ends the row. -/
theorem eq_of_rows_append {mark : Char} {behindMark : List Char} {first second : List String}
    {after behind : List Char} (plain : ∀ text ∈ first, mark ∉ text.toList ∧ text ≠ "")
    (plain' : ∀ text ∈ second, mark ∉ text.toList ∧ text ≠ "")
    (same : (first.flatMap fun text => text.toList ++ mark :: behindMark) ++ mark :: after =
      (second.flatMap fun text => text.toList ++ mark :: behindMark) ++ mark :: behind) :
    first = second ∧ after = behind := by
  -- A row that has ended cannot go on as one with a text, which does not begin with the mark.
  have ended {text : String} {after more : List Char} (usual : mark ∉ text.toList ∧ text ≠ "")
      (same : mark :: after = text.toList ++ more) : False := by
    cases letters : text.toList with
    | nil => exact usual.2 (String.toList_eq_nil_iff.mp letters)
    | cons c cs =>
        rw [letters] at same usual
        exact usual.1 ((List.cons.inj same).1 ▸ List.mem_cons_self)
  induction first generalizing second with
  | nil =>
      cases second with
      | nil => exact ⟨rfl, (List.cons.inj same).2⟩
      | cons text second =>
          rw [List.flatMap_cons, List.append_assoc, List.append_assoc] at same
          exact (ended (plain' text List.mem_cons_self) same).elim
  | cons text first ih =>
      obtain ⟨here, others⟩ := List.forall_mem_cons.mp plain
      rw [List.flatMap_cons, List.append_assoc, List.append_assoc, List.cons_append] at same
      cases second with
      | nil => exact (ended here same.symm).elim
      | cons text' second =>
          obtain ⟨here', others'⟩ := List.forall_mem_cons.mp plain'
          rw [List.flatMap_cons, List.append_assoc, List.append_assoc, List.cons_append] at same
          obtain ⟨texts, rest⟩ := eq_of_append_same_mark here.1 here'.1 same
          obtain ⟨rfl, later⟩ := ih others others' (List.append_cancel_left rest)
          rw [String.toList_inj.mp texts]
          exact ⟨rfl, later⟩

/-- Texts with a separator between them, and one behind them, are texts with a separator behind each. -/
theorem toList_intercalate_append {separator : String} {texts : List String} (some : texts ≠ []) :
    (separator.intercalate texts).toList ++ separator.toList =
      texts.flatMap fun text => text.toList ++ separator.toList := by
  induction texts with
  | nil => exact absurd rfl some
  | cons text texts ih =>
      cases texts with
      | nil => simp
      | cons next texts =>
          rw [String.intercalate_cons_cons, String.toList_append, String.toList_append, List.append_assoc,
            ih (by simp)]
          simp only [List.flatMap_cons, List.append_assoc]

theorem not_mem_intercalate {separator : String} {texts : List String} {c : Char}
    (between : c ∉ separator.toList) (each : ∀ text ∈ texts, c ∉ text.toList) :
    c ∉ (separator.intercalate texts).toList := by
  cases texts with
  | nil => simp
  | cons text rest =>
      intro inside
      have whole := List.mem_append_left separator.toList inside
      rw [toList_intercalate_append (List.cons_ne_nil _ _), List.mem_flatMap] at whole
      obtain ⟨other, member, part⟩ := whole
      rcases List.mem_append.mp part with letter | mark
      · exact each other member letter
      · exact between mark

namespace Quoted

variable (standIn : Surrogate → Option Char)

theorem unquote_plain {c : Char} (visible : ' ' ≤ c) (quote : c ≠ '"') (backslash : c ≠ '\\')
    (rest : List Char) :
    unquote standIn (c :: rest) = (unquote standIn rest).map fun (cs, after) => (c :: cs, after) := by
  rw [unquote, if_neg (Char.not_lt.mpr visible)]
  · exact quote
  · simp [backslash]
  · simp [backslash]

theorem unquote_letter {c letter : Char} (written : letter? c = some letter) (rest : List Char) :
    unquote standIn ('\\' :: letter :: rest) = (unquote standIn rest).map fun (cs, after) => (c :: cs, after) := by
  unfold letter? at written
  split at written <;> cases written <;> simp [unquote, unletter?]

/-- The digits of a written unit say the unit. -/
theorem unitValue?_hexDigits {n : Nat} (small : n < 0x10000) :
    unitValue? (hexDigit (n / 4096 % 16)) (hexDigit (n / 256 % 16)) (hexDigit (n / 16 % 16))
      (hexDigit (n % 16)) = some n := by
  have digit : ∀ d < 16, hexValue? (hexDigit d) = some d := by decide
  have each (m : Nat) := digit (m % 16) (Nat.mod_lt m (by decide))
  have whole : n / 4096 % 16 * 4096 + n / 256 % 16 * 256 + n / 16 % 16 * 16 + n % 16 = n := by omega
  simp only [unitValue?, each, Option.bind_eq_bind, Option.bind_some, whole]
  rfl

/-- A character that is written as one unit is read back. -/
theorem unquote_unit {c : Char} (inside : c.toNat < 0x10000) (rest : List Char) :
    unquote standIn (unitEscape c.toNat ++ rest) =
      (unquote standIn rest).map fun (cs, after) => (c :: cs, after) := by
  have noHalf : ¬ (0xD800 ≤ c.toNat ∧ c.toNat < 0xE000) := by
    rintro ⟨least, greatest⟩
    rcases c.valid with low | ⟨high, -⟩
    · exact Nat.not_lt.mpr least low
    · exact Nat.not_lt.mpr high greatest
  simp only [unitEscape, List.cons_append, List.nil_append]
  rw [unquote, unitValue?_hexDigits inside]
  simp only [dif_neg noHalf, Char.ofNat_toNat]

/-- The two units of a character are a pair, and each of them is only half of one. -/
theorem exists_units_of_not_lt {c : Char} (outside : ¬ c.toNat < 0x10000) :
    ∃ high low, units c = [high, low] ∧ high < 0x10000 ∧ low < 0x10000 ∧
      (0xD800 ≤ high ∧ high < 0xE000) ∧ paired? high low = some c := by
  have bound := toNat_lt c
  refine ⟨_, _, by rw [units, if_neg outside], by omega, by omega, by omega, ?_⟩
  have value : 0x10000 + (0xD800 + (c.toNat - 0x10000) / 0x400 - 0xD800) * 0x400 +
      (0xDC00 + (c.toNat - 0x10000) % 0x400 - 0xDC00) = c.toNat := by omega
  rw [paired?, if_pos (by omega), value, Char.ofNat_toNat]

/-- A character that is written as a pair of units is read back. -/
theorem unquote_pair {c : Char} (outside : ¬ c.toNat < 0x10000) (rest : List Char) :
    unquote standIn ((units c).flatMap unitEscape ++ rest) =
      (unquote standIn rest).map fun (cs, after) => (c :: cs, after) := by
  obtain ⟨high, low, written, smallHigh, smallLow, half, pair⟩ := exists_units_of_not_lt outside
  rw [written]
  simp only [List.flatMap_cons, List.flatMap_nil, unitEscape, List.cons_append, List.nil_append]
  rw [unquote, unitValue?_hexDigits smallHigh]
  simp only [dif_pos half, unitValue?_hexDigits smallLow, Option.bind_some, pair]

theorem unquote_escape (alphabet : Alphabet) (c : Char) (rest : List Char) :
    unquote standIn (escape alphabet c ++ rest) =
      (unquote standIn rest).map fun (cs, after) => (c :: cs, after) := by
  unfold escape
  split
  · rename_i letter written
    exact unquote_letter standIn written rest
  · rename_i none
    obtain ⟨quote, backslash⟩ := ne_of_letter?_eq_none none
    split
    · rename_i itself
      exact unquote_plain standIn (visible_of_plain itself) quote backslash rest
    · by_cases inside : c.toNat < 0x10000
      · rw [units, if_pos inside, List.flatMap_singleton]
        exact unquote_unit standIn inside rest
      · exact unquote_pair standIn inside rest

/-- A written text is read back together with what follows its closing quote. -/
theorem unquote_encode (alphabet : Alphabet) (cs rest : List Char) :
    unquote standIn (encode alphabet cs ++ '"' :: rest) = some (cs, rest) := by
  induction cs with
  | nil => rw [encode, List.flatMap_nil, List.nil_append, unquote]
  | cons c cs ih =>
      rw [encode, List.flatMap_cons, List.append_assoc, unquote_escape]
      change (unquote standIn (encode alphabet cs ++ _)).map _ = _
      rw [ih]
      rfl

end Quoted

/-- A quoted text and what follows it are determined by the whole. -/
theorem eq_of_quoted_append {alphabet : Quoted.Alphabet} {first second : String} {after behind : List Char}
    (same : (quoted alphabet first).toList ++ after = (quoted alphabet second).toList ++ behind) :
    first = second ∧ after = behind := by
  rw [toList_quoted, toList_quoted, List.cons_append, List.cons_append, List.append_assoc,
    List.append_assoc] at same
  have inside := congrArg (Quoted.unquote fun _ => none) (List.cons.inj same).2
  rw [List.singleton_append, List.singleton_append, Quoted.unquote_encode, Quoted.unquote_encode] at inside
  obtain ⟨texts, rest⟩ := Prod.mk.inj (Option.some.inj inside)
  exact ⟨String.toList_inj.mp texts, rest⟩

end Registrar
