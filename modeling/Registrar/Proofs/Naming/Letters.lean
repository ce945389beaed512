import Registrar.Proofs.Naming.ClassName

/-!
# The letters of class names

A qualified class name has the letters and digits of its id in their order, and no separators. The first
letter of each word is in upper case, so a name does not tell whether a word of the id begins with a small
letter: ids with one class name agree but for separators and the case of such letters.
-/

namespace Registrar

/-- The letters and digits of a schema id, without what separates its words. -/
def withoutSeparators (id : String) : String :=
  String.ofList (id.toList.filter isWordChar)

/-- For each letter and digit of a text whether joining the words raises it, as it does with a small letter
that begins a word. The first flag says whether the next character of a word is its first one. -/
def raisedFlags : Bool → List Char → List Bool
  | _, [] => []
  | first, c :: rest =>
      if isWordChar c then (first && isSmallLetter c) :: raisedFlags false rest
      else raisedFlags true rest

/-- Which letters and digits of a schema id are raised in its qualified class name. -/
def raisedLetters (id : String) : List Bool :=
  raisedFlags true id.toList

/-- The letter that was raised to a capital, and any other character as it is. -/
def lowered (raised : Bool) (c : Char) : Char :=
  if raised then Char.ofNat (c.toNat + 32) else c

theorem lowered_capital {c : Char} (small : isSmallLetter c = true) : lowered true (capital c) = c := by
  simp only [isSmallLetter, Bool.and_eq_true, decide_eq_true_eq] at small
  have value : (Char.ofNat (c.toNat - 32)).toNat = c.toNat - 32 := toNat_ofNat_of_ascii (by omega)
  rw [capital, if_pos small, lowered, if_pos rfl, value, Nat.sub_add_cancel (by omega), Char.ofNat_toNat]

theorem capital_of_not_small {c : Char} (other : isSmallLetter c = false) : capital c = c := by
  rw [capital, if_neg]
  simpa [isSmallLetter] using other

/-- A capital is no small letter, so raising it again changes nothing. -/
theorem capital_capital (c : Char) : capital (capital c) = capital c :=
  capital_of_not_small (not_isSmallLetter_capital c)

/-- Raising changes just the small letters. -/
theorem capital_ne_iff {c : Char} : capital c ≠ c ↔ isSmallLetter c = true := by
  constructor
  · intro changed
    cases small : isSmallLetter c with
    | false => exact absurd (capital_of_not_small small) changed
    | true => rfl
  · intro small same
    rw [← same, not_isSmallLetter_capital] at small
    exact Bool.false_ne_true small

variable {first : Bool} {cs : List Char}

/-- The letters of a text are read back from its joined words when it is known which of them were raised. -/
theorem filter_eq_zipWith_lowered :
    cs.filter isWordChar = List.zipWith lowered (raisedFlags first cs) (joinWords first cs) := by
  induction cs generalizing first with
  | nil => rfl
  | cons c rest ih =>
      by_cases word : isWordChar c = true
      · rw [List.filter_cons_of_pos word, raisedFlags, if_pos word, joinWords, if_pos word,
          List.zipWith_cons_cons, ← ih]
        congr 1
        cases first with
        | false => rfl
        | true =>
            cases small : isSmallLetter c with
            | false => exact (capital_of_not_small small).symm
            | true => exact (lowered_capital small).symm
      · rw [List.filter_cons_of_neg word, raisedFlags, if_neg word, joinWords, if_neg word, ← ih]

/-- The raised letters are those in which the joined words differ from the letters of the text. -/
theorem raisedFlags_eq_zipWith_ne :
    raisedFlags first cs =
      List.zipWith (fun raised c => decide (raised ≠ c)) (joinWords first cs) (cs.filter isWordChar) := by
  induction cs generalizing first with
  | nil => rfl
  | cons c rest ih =>
      by_cases word : isWordChar c = true
      · rw [List.filter_cons_of_pos word, raisedFlags, if_pos word, joinWords, if_pos word,
          List.zipWith_cons_cons, ← ih]
        congr 1
        cases first with
        | false => simp
        | true =>
            rw [Bool.true_and, Bool.eq_iff_iff, decide_eq_true_iff]
            exact capital_ne_iff.symm
      · rw [List.filter_cons_of_neg word, raisedFlags, if_neg word, joinWords, if_neg word, ← ih]

/-- But for the case of letters, joined words are the letters of the text. -/
theorem map_capital_joinWords :
    (joinWords first cs).map capital = (cs.filter isWordChar).map capital := by
  induction cs generalizing first with
  | nil => rfl
  | cons c rest ih =>
      by_cases word : isWordChar c = true
      · rw [List.filter_cons_of_pos word, joinWords, if_pos word, List.map_cons, List.map_cons, ih]
        congr 1
        cases first with
        | false => rfl
        | true => exact capital_capital c
      · rw [List.filter_cons_of_neg word, joinWords, if_neg word, ih]

/-- Two schema ids with one qualified class name have the same letters and digits but for their case, and
they differ in more than their separators just when a letter is raised in one of them and not in the other. -/
theorem withoutSeparators_of_className_eq (first second : String)
    (same : className true first = className true second) :
    (withoutSeparators first).toList.map capital = (withoutSeparators second).toList.map capital ∧
      (withoutSeparators first = withoutSeparators second ↔ raisedLetters first = raisedLetters second) := by
  have joined : joinWords true first.toList = joinWords true second.toList := by
    rw [className, className, if_pos rfl, if_pos rfl] at same
    simpa only [String.toList_ofList] using congrArg String.toList same
  have letters (id : String) : (withoutSeparators id).toList = id.toList.filter isWordChar :=
    String.toList_ofList
  constructor
  · rw [letters, letters, ← map_capital_joinWords, ← map_capital_joinWords, joined]
  · rw [← String.toList_inj, letters, letters]
    constructor
    · intro kept
      rw [raisedLetters, raisedLetters, raisedFlags_eq_zipWith_ne, raisedFlags_eq_zipWith_ne, joined, kept]
    · intro raised
      rw [filter_eq_zipWith_lowered, filter_eq_zipWith_lowered, joined]
      exact congrArg (List.zipWith lowered · _) raised

/-- Ids with the same letters raised, which differ in their separators only. -/
theorem withoutSeparators_of_className_eq_of_dashes :
    className true "core-v1.Pod" = className true "core.v1..Pod" ∧
      withoutSeparators "core-v1.Pod" = withoutSeparators "core.v1..Pod" := by
  have same : className true "core-v1.Pod" = className true "core.v1..Pod" := by decide +kernel
  have raised : raisedLetters "core-v1.Pod" = raisedLetters "core.v1..Pod" := by decide +kernel
  exact ⟨same, (withoutSeparators_of_className_eq _ _ same).2.mpr raised⟩

/-- Ids with one class name that differ in the letter with which their first word begins. -/
theorem className_eq_of_raised :
    className true "a.B" = className true "A.B" ∧ withoutSeparators "a.B" ≠ withoutSeparators "A.B" := by
  decide +kernel

end Registrar
