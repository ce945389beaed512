import Registrar.Python.Layout

/-!
# Runs of the scanner

The scanner goes through a text from position to position. What it reads on the way from one position to
another is stated without its bound: any bound that is enough for the text at the first position leaves
one that is enough for the rest at the second. So runs can be put one behind the other, and a whole text
is read by the runs of its parts.
-/

namespace Registrar.Python

/-- Steps that are enough for a text at a position: one for each character and one for each front of a
line, the first and the last one included. -/
def Position.cost (position : Position) (cs : List Char) : Nat :=
  2 * cs.length + if position.fresh then 2 else 1

theorem cost_fresh (blocks : List Columns) (due : List Operator) (cs : List Char) :
    Position.cost ⟨true, blocks, due⟩ cs = 2 * cs.length + 2 := rfl

theorem cost_inside (blocks : List Columns) (due : List Operator) (cs : List Char) :
    Position.cost ⟨false, blocks, due⟩ cs = 2 * cs.length + 1 := rfl

/-- The scanner reads tokens at a text and comes to another position, with a text that is left. -/
structure Scans (start : Position) (cs : List Char) (tokens : List Token) (position : Position)
    (rest : List Char) : Prop where
  runs : ∀ bound, start.cost cs ≤ bound → ∃ left, position.cost rest ≤ left ∧
    scan bound start cs = (scan left position rest).map (tokens ++ ·)
  short : tokens.length + rest.length ≤ cs.length

namespace Scans

theorem refl (position : Position) (cs : List Char) : Scans position cs [] position cs where
  runs bound enough := ⟨bound, enough, by simp⟩
  short := by simp

/-- A run of one step. -/
theorem step {start position : Position} {cs rest : List Char} {tokens : List Token}
    (less : position.cost rest < start.cost cs) (short : tokens.length + rest.length ≤ cs.length)
    (reads : ∀ steps, scan (steps + 1) start cs = (scan steps position rest).map (tokens ++ ·)) :
    Scans start cs tokens position rest where
  runs bound enough := by
    obtain ⟨steps, rfl⟩ : ∃ steps, bound = steps + 1 := ⟨bound - 1, by omega⟩
    exact ⟨steps, by omega, reads steps⟩
  short := short

theorem trans {start middle position : Position} {cs behind rest : List Char}
    {first second : List Token} (one : Scans start cs first middle behind)
    (other : Scans middle behind second position rest) :
    Scans start cs (first ++ second) position rest where
  runs bound enough := by
    obtain ⟨between, among, run⟩ := one.runs bound enough
    obtain ⟨left, among, onward⟩ := other.runs between among
    refine ⟨left, among, ?_⟩
    rw [run, onward, Option.map_map]
    simp [Function.comp_def]
  short := by
    have here := one.short
    have there := other.short
    rw [List.length_append]
    omega

end Scans

variable {blocks : List Columns} {due : List Operator}

/-- A character that is neither blank nor the begin of a comment or of another line. -/
def isVisible (c : Char) : Bool :=
  c ∉ [' ', '\t', '\x0c', '\n', '#', '\\']

theorem ne_of_isVisible {c : Char} (visible : isVisible c = true) :
    isBlank c = false ∧ c ≠ '\n' ∧ c ≠ '#' ∧ c ≠ '\\' := by
  simp only [isVisible, List.mem_cons, List.not_mem_nil, or_false, not_or, decide_eq_true_eq] at visible
  simp [isBlank, visible]

/-- A blank between tokens is left out. -/
theorem scans_blank (cs : List Char) :
    Scans ⟨false, blocks, due⟩ (' ' :: cs) [] ⟨false, blocks, due⟩ cs where
  runs bound enough := by
    obtain ⟨steps, rfl⟩ : ∃ steps, bound = steps + 1 :=
      ⟨bound - 1, by simp [Position.cost] at enough; omega⟩
    refine ⟨steps + 1, by simp [Position.cost] at enough ⊢; omega, ?_⟩
    simp [scan, isBlank]
  short := by simp

/-- At a visible character the scanner takes what is read there for a token, and goes on behind it. -/
theorem scan_visible {c : Char} (visible : isVisible c = true) (cs : List Char) (steps : Nat) :
    scan (steps + 1) ⟨false, blocks, due⟩ (c :: cs) = (lexeme? (c :: cs)).bind fun found =>
      (dueBehind due found.1).bind fun inner =>
        (scan steps ⟨false, blocks, inner⟩ found.2).map (found.1 :: ·) := by
  obtain ⟨blank, line, comment, backslash⟩ := ne_of_isVisible visible
  simp only [scan, List.dropWhile_cons, blank]
  simp only [line, comment, backslash, List.cons.injEq, false_and, imp_self, implies_true,
    Bool.false_eq_true, if_false, Option.pure_def, Option.bind_eq_bind, Option.map_eq_bind, Function.comp_def]

/-- A token is read at a visible character. -/
theorem scans_lexeme {c : Char} {cs rest : List Char} {token : Token} {inner : List Operator}
    (visible : isVisible c = true) (found : lexeme? (c :: cs) = some (token, rest))
    (shorter : rest.length ≤ cs.length) (behind : dueBehind due token = some inner) :
    Scans ⟨false, blocks, due⟩ (c :: cs) [token] ⟨false, blocks, inner⟩ rest := by
  apply Scans.step
  · simp only [cost_inside, List.length_cons]
    omega
  · simp only [List.length_cons, List.length_nil]
    omega
  · intro steps
    simp [scan_visible visible, found, behind]

/-- Blanks in front of a line are counted in both measures. -/
theorem indentation_blanks (n : Nat) (columns : Columns) {c : Char} (cs : List Char)
    (visible : isVisible c = true) :
    indentation columns 0 (List.replicate n ' ' ++ c :: cs) =
      some (⟨columns.wide + n, columns.narrow + n⟩, c :: cs) := by
  induction n generalizing columns with
  | zero =>
      simp only [isVisible, List.mem_cons, List.not_mem_nil, or_false, not_or,
        decide_eq_true_eq] at visible
      simp [indentation, visible]
  | succ n ih =>
      rw [List.replicate_succ, List.cons_append, indentation, ih]
      simp only [Nat.add_assoc, Nat.add_comm 1 n]

/-- Outside of brackets the end of a line is a token. -/
theorem scans_lineEnd (cs : List Char) :
    Scans ⟨false, blocks, []⟩ ('\n' :: cs) [.newline] ⟨true, blocks, []⟩ cs := by
  apply Scans.step
  · simp only [cost_fresh, cost_inside, List.length_cons]
    omega
  · simp [Nat.add_comm]
  · simp [scan, isBlank]

/-- A line without any character is left out. -/
theorem scans_emptyLine (cs : List Char) :
    Scans ⟨true, blocks, due⟩ ('\n' :: cs) [] ⟨true, blocks, due⟩ cs := by
  apply Scans.step
  · simp only [cost_fresh, List.length_cons]
    omega
  · simp
  · simp [scan, indentation, fromLineEnd]

/-- The blanks in front of a line begin and end blocks, outside of brackets. -/
theorem scans_lineBegin (n : Nat) {c : Char} (visible : isVisible c = true) (cs : List Char)
    {tokens : List Token} {within : List Columns}
    (changed : blocksAt ⟨n, n⟩ blocks = some (tokens, within)) (few : tokens.length ≤ n) :
    Scans ⟨true, blocks, []⟩ (List.replicate n ' ' ++ c :: cs) tokens ⟨false, within, []⟩ (c :: cs) := by
  obtain ⟨-, line, comment, -⟩ := ne_of_isVisible visible
  apply Scans.step
  · simp only [cost_fresh, cost_inside, List.length_append, List.length_cons]
    omega
  · simp only [List.length_append, List.length_replicate, List.length_cons]
    omega
  · intro steps
    simp only [scan, indentation_blanks n ⟨0, 0⟩ cs visible, Nat.zero_add]
    simp only [line, comment, or_self, if_false, changed, List.isEmpty_nil, if_true, Option.pure_def,
      Option.bind_eq_bind, Option.bind_some, Option.map_eq_bind, Function.comp_def]

/-- Outside of blocks, a run may begin at the front of a line. -/
theorem Scans.onMargin {cs rest : List Char} {tokens : List Token} {position : Position}
    (run : Scans ⟨false, [], []⟩ cs tokens position rest)
    (visible : ∃ c behind, cs = c :: behind ∧ isVisible c = true) :
    Scans ⟨true, [], []⟩ cs tokens position rest := by
  obtain ⟨c, behind, rfl, visible⟩ := visible
  have margin : Scans ⟨true, [], []⟩ (List.replicate 0 ' ' ++ c :: behind) [] ⟨false, [], []⟩
      (c :: behind) := scans_lineBegin 0 visible behind (by decide) (Nat.le_refl 0)
  exact margin.trans run

/-- Within brackets the end of a line and the blanks in front of the next one are left out. -/
theorem scans_lineInside (n : Nat) {c : Char} (visible : isVisible c = true) (cs : List Char)
    (within : due ≠ []) :
    Scans ⟨false, blocks, due⟩ ('\n' :: (List.replicate n ' ' ++ c :: cs)) []
      ⟨false, blocks, due⟩ (c :: cs) := by
  obtain ⟨-, line, comment, -⟩ := ne_of_isVisible visible
  have ended : Scans ⟨false, blocks, due⟩ ('\n' :: (List.replicate n ' ' ++ c :: cs)) []
      ⟨true, blocks, due⟩ (List.replicate n ' ' ++ c :: cs) := by
    apply Scans.step
    · simp only [cost_fresh, cost_inside, List.length_cons]
      omega
    · simp
    · simp [scan, isBlank, within]
  have begun : Scans ⟨true, blocks, due⟩ (List.replicate n ' ' ++ c :: cs) []
      ⟨false, blocks, due⟩ (c :: cs) := by
    apply Scans.step
    · simp only [cost_fresh, cost_inside, List.length_append]
      omega
    · simp only [List.length_append, List.length_nil]
      omega
    · intro steps
      simp only [scan, indentation_blanks n ⟨0, 0⟩ cs visible]
      simp [line, comment, within]
  exact ended.trans begun

/-- A text without carriage returns whose last line has an end keeps its ends of lines. -/
theorem withNewlines_of_lines {cs : List Char} (noReturn : '\r' ∉ cs) (last : cs.getLast? = some '\n') :
    withNewlines cs = cs := by
  obtain ⟨front, rfl⟩ := List.getLast?_eq_some_iff.mp last
  clear last
  induction front with
  | nil => rfl
  | cons c front ih =>
      rw [List.cons_append, List.mem_cons, not_or] at noReturn
      have other : c ≠ '\r' := Ne.symm noReturn.1
      rw [List.cons_append, withNewlines, ih noReturn.2]
      · simp
      · simp
      · exact fun rest same _ => other same
      · exact fun same => other same

/-- The tokens of a text whose lines have been read to the end are those that were read, and an end for
each block that is open. -/
theorem tokens?_of_scans {cs : List Char} {tokens : List Token} {blocks : List Columns}
    (noReturn : '\r' ∉ cs) (last : cs.getLast? = some '\n')
    (run : Scans ⟨true, [], []⟩ cs tokens ⟨true, blocks, []⟩ []) :
    tokens? cs = some (tokens ++ blocks.map fun _ => .dedent) := by
  obtain ⟨left, among, whole⟩ := run.runs _ (Nat.le_refl _)
  obtain ⟨steps, rfl⟩ : ∃ steps, left = steps + 1 :=
    ⟨left - 1, by simp [Position.cost] at among; omega⟩
  rw [tokens?, withNewlines_of_lines noReturn last]
  refine whole.trans ?_
  simp [scan, indentation]

/-- What the scanner gives for a text begins with the tokens that are read at its front. -/
theorem Scans.exists_of_scan {start position : Position} {cs rest : List Char} {read tokens : List Token}
    (run : Scans start cs read position rest) {bound : Nat} (enough : start.cost cs ≤ bound)
    (whole : scan bound start cs = some tokens) :
    ∃ left more, position.cost rest ≤ left ∧ scan left position rest = some more ∧
      tokens = read ++ more := by
  obtain ⟨left, among, same⟩ := run.runs bound enough
  obtain ⟨more, found, rfl⟩ := Option.map_eq_some_iff.mp (same.symm.trans whole)
  exact ⟨left, more, among, found, rfl⟩

theorem exists_of_tokens? {cs rest : List Char} {read tokens : List Token} {position : Position}
    (noReturn : '\r' ∉ cs) (last : cs.getLast? = some '\n')
    (run : Scans ⟨true, [], []⟩ cs read position rest) (whole : tokens? cs = some tokens) :
    ∃ left more, position.cost rest ≤ left ∧ scan left position rest = some more ∧
      tokens = read ++ more := by
  rw [tokens?, withNewlines_of_lines noReturn last] at whole
  exact run.exists_of_scan (Nat.le_refl _) whole

end Registrar.Python
