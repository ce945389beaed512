import Registrar.Validation

/-!
# Nesting of braces

Code is nested if every brace that opens is closed behind it and none closes that has not opened. Reading it
from the front, this is a matter of counting: at no point have more braces closed than opened, and at the end as
many have. The number of braces that are open takes the place of a stack, since there is one kind of them.
-/

namespace Registrar

/-- Code in which every brace that opens is closed behind it, and none closes that has not opened. -/
inductive Nested : List Char → Prop
  | nil : Nested []
  | plain {c : Char} {rest : List Char} (opening : c ≠ '\x7b') (closing : c ≠ '\x7d')
      (onward : Nested rest) : Nested (c :: rest)
  | braces {inside rest : List Char} (within : Nested inside) (onward : Nested rest) :
      Nested ('\x7b' :: inside ++ '\x7d' :: rest)

theorem Nested.append {first second : List Char} (one : Nested first) (other : Nested second) :
    Nested (first ++ second) := by
  induction one with
  | nil => exact other
  | plain opening closing _ ih => exact .plain opening closing ih
  | @braces inside rest within _ _ ih =>
      have whole : ('\x7b' :: inside ++ '\x7d' :: rest) ++ second =
          '\x7b' :: inside ++ '\x7d' :: (rest ++ second) := by simp
      rw [whole]
      exact .braces within ih

theorem nested_of_not_mem {code : List Char} (opening : '\x7b' ∉ code) (closing : '\x7d' ∉ code) :
    Nested code := by
  induction code with
  | nil => exact .nil
  | cons c rest ih =>
      rw [List.mem_cons, not_or] at opening closing
      exact .plain (Ne.symm opening.1) (Ne.symm closing.1) (ih opening.2 closing.2)

/-- Behind a number of open braces, no front of the code closes more than are open, and the whole closes
all of them. -/
structure PairedBehind (opened : Nat) (code : List Char) : Prop where
  front : ∀ front, front <+: code → front.count '\x7d' ≤ opened + front.count '\x7b'
  whole : code.count '\x7d' = opened + code.count '\x7b'

section Paired

variable {opened : Nat} {c : Char} {code rest : List Char}

theorem pairedBehind_nil : PairedBehind opened [] ↔ opened = 0 := by
  constructor
  · intro paired
    simpa using paired.whole.symm
  · rintro rfl
    refine ⟨fun front begins => ?_, rfl⟩
    rw [List.prefix_nil.mp begins]
    exact Nat.le_refl 0

/-- A character in front is to be followed by code that closes what is open then. -/
theorem pairedBehind_cons : PairedBehind opened (c :: rest) ↔
    [c].count '\x7d' ≤ opened + [c].count '\x7b' ∧
      PairedBehind (opened + [c].count '\x7b' - [c].count '\x7d') rest := by
  have counted (text : List Char) (brace : Char) :
      (c :: text).count brace = [c].count brace + text.count brace := by
    rw [← List.singleton_append, List.count_append]
  constructor
  · rintro ⟨fronts, whole⟩
    have first := fronts [c] (List.cons_prefix_cons.mpr ⟨rfl, List.nil_prefix⟩)
    refine ⟨first, fun front begins => ?_, ?_⟩
    · have bound := fronts (c :: front) (List.cons_prefix_cons.mpr ⟨rfl, begins⟩)
      rw [counted front, counted front] at bound
      omega
    · rw [counted rest, counted rest] at whole
      omega
  · rintro ⟨first, fronts, whole⟩
    refine ⟨fun front begins => ?_, ?_⟩
    · rcases List.prefix_cons_iff.mp begins with rfl | ⟨more, rfl, later⟩
      · simp
      · have bound := fronts more later
        rw [counted more, counted more]
        omega
    · rw [counted rest, counted rest]
      omega

theorem pairedBehind_plain (opening : c ≠ '\x7b') (closing : c ≠ '\x7d') :
    PairedBehind opened (c :: rest) ↔ PairedBehind opened rest := by
  simp [pairedBehind_cons, opening, closing]

theorem pairedBehind_open : PairedBehind opened ('\x7b' :: rest) ↔ PairedBehind (opened + 1) rest := by
  simp [pairedBehind_cons]

theorem pairedBehind_close :
    PairedBehind opened ('\x7d' :: rest) ↔ ∃ less, opened = less + 1 ∧ PairedBehind less rest := by
  cases opened with
  | zero => simp [pairedBehind_cons]
  | succ less => simp [pairedBehind_cons]

/-- Nested code in front changes nothing about the braces that are open. -/
theorem Nested.pairedBehind (nested : Nested code) (paired : PairedBehind opened rest) :
    PairedBehind opened (code ++ rest) := by
  induction nested generalizing opened rest with
  | nil => exact paired
  | plain opening closing _ ih => exact (pairedBehind_plain opening closing).mpr (ih paired)
  | @braces inside behind _ _ within onward =>
      have whole : ('\x7b' :: inside ++ '\x7d' :: behind) ++ rest =
          '\x7b' :: (inside ++ '\x7d' :: (behind ++ rest)) := by simp
      rw [whole, pairedBehind_open]
      exact within (pairedBehind_close.mpr ⟨opened, rfl, onward paired⟩)

/-- Code behind a number of open braces in which each of them is closed behind nested code. -/
def ClosedBehind : Nat → List Char → Prop
  | 0, code => Nested code
  | opened + 1, code => ∃ inside rest, code = inside ++ '\x7d' :: rest ∧ Nested inside ∧
      ClosedBehind opened rest

theorem ClosedBehind.append (nested : Nested code) (closed : ClosedBehind opened rest) :
    ClosedBehind opened (code ++ rest) := by
  cases opened with
  | zero => exact nested.append closed
  | succ less =>
      obtain ⟨inside, behind, rfl, within, onward⟩ := closed
      exact ⟨code ++ inside, behind, by simp, nested.append within, onward⟩

theorem PairedBehind.closedBehind (paired : PairedBehind opened code) : ClosedBehind opened code := by
  induction code generalizing opened with
  | nil =>
      obtain rfl := pairedBehind_nil.mp paired
      exact .nil
  | cons c rest ih =>
      by_cases opening : c = '\x7b'
      · subst opening
        obtain ⟨inside, behind, rfl, within, onward⟩ := ih (pairedBehind_open.mp paired)
        have pair : Nested ('\x7b' :: inside ++ ['\x7d']) := .braces within .nil
        have whole : '\x7b' :: (inside ++ '\x7d' :: behind) =
            ('\x7b' :: inside ++ ['\x7d']) ++ behind := by simp
        rw [whole]
        exact onward.append pair
      by_cases closing : c = '\x7d'
      · subst closing
        obtain ⟨less, rfl, onward⟩ := pairedBehind_close.mp paired
        exact ⟨[], rest, rfl, .nil, ih onward⟩
      · have single : Nested [c] := .plain opening closing .nil
        exact (ih ((pairedBehind_plain opening closing).mp paired)).append single

/-- Braces are nested just when no front of the code closes more than it opens and the whole closes as many
as it opens. -/
theorem nested_iff : Nested code ↔
    (∀ front, front <+: code → front.count '\x7d' ≤ front.count '\x7b') ∧
      code.count '\x7b' = code.count '\x7d' := by
  have none_open : PairedBehind 0 code ↔
      (∀ front, front <+: code → front.count '\x7d' ≤ front.count '\x7b') ∧
        code.count '\x7b' = code.count '\x7d' := by
    constructor
    · rintro ⟨fronts, whole⟩
      exact ⟨by simpa using fronts, by simpa using whole.symm⟩
    · rintro ⟨fronts, whole⟩
      exact ⟨by simpa using fronts, by simpa using whole.symm⟩
  rw [← none_open]
  constructor
  · intro nested
    simpa using nested.pairedBehind (pairedBehind_nil.mpr rfl)
  · exact PairedBehind.closedBehind

end Paired

end Registrar
