import Mathlib.Data.List.TakeWhile
import Registrar.Proofs.Naming.Letters

/-!
# Joining names

A class name is made of the pieces of a text between its separators, each with its first letter raised. No
piece reaches over a separator, so the qualified class name of two texts with separators between them is the
class name of the first with that of the second behind it. In particular the short class name of an id, which
is made of its last segment, ends the qualified one. A class name is one piece whose first letter is raised
already, and so it is the class name of itself.
-/

namespace Registrar

/-- The small letters are those of ASCII. -/
theorem isSmallLetter_eq_isLower (c : Char) : isSmallLetter c = c.isLower := by
  have unfolded : c.isLower = (decide (97 ≤ c.val) && decide (c.val ≤ 122)) := rfl
  rw [unfolded, isSmallLetter]
  simp only [UInt32.le_iff_toNat_le]
  rfl

/-- Raising a letter gives its upper case. -/
theorem capital_eq_toUpper (c : Char) : capital c = c.toUpper := by
  have range : ('a'.val ≤ c.val ∧ c.val ≤ 'z'.val) ↔ (97 ≤ c.toNat ∧ c.toNat ≤ 122) := by
    simp only [UInt32.le_iff_toNat_le]
    rfl
  unfold capital Char.toUpper
  split
  · rename_i small
    rw [dif_pos (range.mpr small)]
    apply Char.toNat_inj.mp
    rw [toNat_ofNat_of_ascii (by omega)]
    -- The distance of the cases is added to the code as a word, which wraps around.
    have wrapped : (c.val + ('A'.val - 'a'.val)).toNat = (c.toNat + 4294967264) % 2 ^ 32 := by
      rw [UInt32.toNat_add]
      rfl
    change c.toNat - 32 = (c.val + ('A'.val - 'a'.val)).toNat
    omega
  · rename_i other
    rw [dif_neg (mt range.mp other)]

section Pieces

variable {cs : List Char}

/-- The pieces of a text between its separators. A piece that has begun before the text is not raised. -/
theorem exists_pieces (first : Bool) (cs : List Char) :
    ∃ piece rest, cs.splitOnP (fun c => !isWordChar c) = piece :: rest ∧
      joinWords first cs =
        (if first then piece.modifyHead capital else piece) ++ rest.flatMap (List.modifyHead capital) := by
  induction cs generalizing first with
  | nil => exact ⟨[], [], List.splitOnP_nil, by cases first <;> rfl⟩
  | cons c tail ih =>
      by_cases letter : isWordChar c = true
      · obtain ⟨piece, rest, split, joined⟩ := ih false
        refine ⟨c :: piece, rest, ?_, ?_⟩
        · rw [List.splitOnP_cons_eq_if_modifyHead, if_neg (by simp [letter]), split]
          rfl
        · rw [joinWords, if_pos letter, joined]
          cases first <;> rfl
      · have separator : isWordChar c = false := by simpa using letter
        obtain ⟨piece, rest, split, joined⟩ := ih true
        refine ⟨[], piece :: rest, ?_, ?_⟩
        · rw [List.splitOnP_cons_eq_if_modifyHead, if_pos (by simp [separator]), split]
        · rw [joinWords_cons_of_not_wordChar separator, joined, List.flatMap_cons]
          cases first <;> rfl

/-- Joining the words of a text is raising each of its pieces. -/
theorem joinWords_eq_flatMap (cs : List Char) :
    joinWords true cs =
      (cs.splitOnP fun c => !isWordChar c).flatMap (List.modifyHead capital) := by
  obtain ⟨piece, rest, split, joined⟩ := exists_pieces true cs
  rw [joined, split, List.flatMap_cons, if_pos rfl]

/-- No piece reaches over a separator. -/
theorem joinWords_append_cons {c : Char} (separator : isWordChar c = false) (before behind : List Char) :
    joinWords true (before ++ c :: behind) = joinWords true before ++ joinWords true behind := by
  simp only [joinWords_eq_flatMap]
  rw [List.splitOnP_append_cons before behind (by simp [separator]), List.flatMap_append]

/-- Separators at the beginning are left out. -/
theorem joinWords_append_of_separators (separators : ∀ c ∈ cs, isWordChar c = false)
    (behind : List Char) : joinWords true (cs ++ behind) = joinWords true behind := by
  induction cs with
  | nil => rfl
  | cons c rest ih =>
      obtain ⟨here, there⟩ := List.forall_mem_cons.mp separators
      rw [List.cons_append, joinWords_cons_of_not_wordChar here, ih there]

/-- A text without separators is one piece. -/
theorem joinWords_of_word (word : ∀ c ∈ cs, isWordChar c = true) :
    joinWords true cs = cs.modifyHead capital := by
  rw [joinWords_eq_flatMap, List.splitOnP_eq_singleton fun c member => by simp [word c member]]
  exact List.flatMap_singleton ..

/-- Joined words are one piece that is raised already. -/
theorem joinWords_joinWords (cs : List Char) : joinWords true (joinWords true cs) = joinWords true cs := by
  rw [joinWords_of_word fun c => isWordChar_of_mem_joinWords]
  cases joined : joinWords true cs with
  | nil => rfl
  | cons c rest =>
      have raised : capital c = c := capital_of_not_small (not_isSmallLetter_of_joinWords joined)
      rw [List.modifyHead_cons, raised]

end Pieces

theorem lastSegment_of_not_mem {cs : List Char} (undotted : '.' ∉ cs) : lastSegment cs = cs := by
  have all : ∀ c ∈ cs.reverse, decide (c ≠ '.') = true := by
    intro c member
    rw [decide_eq_true_iff]
    rintro rfl
    exact undotted (List.mem_reverse.mp member)
  rw [lastSegment, List.takeWhile_eq_self_iff.mpr all, List.reverse_reverse]

/-- The last segment of a text stands behind its last dot. -/
theorem exists_lastSegment {cs : List Char} (dotted : '.' ∈ cs) :
    ∃ before, cs = before ++ '.' :: lastSegment cs := by
  obtain ⟨behind, before, split, undotted⟩ :=
    List.eq_append_cons_of_mem (List.mem_reverse.mpr dotted)
  have whole : cs = before.reverse ++ '.' :: behind.reverse := by
    rw [← List.reverse_inj, split]
    simp
  have all : ∀ c ∈ behind, decide (c ≠ '.') = true := by
    intro c member
    rw [decide_eq_true_iff]
    rintro rfl
    exact undotted member
  have last : lastSegment cs = behind.reverse := by
    rw [lastSegment, split, List.takeWhile_append_of_pos all,
      List.takeWhile_cons_of_neg (by simp), List.append_nil]
  exact ⟨before.reverse, by rw [last]; exact whole⟩

theorem toList_className_qualified (id : String) : (className true id).toList = joinWords true id.toList := by
  rw [className, if_pos rfl, String.toList_ofList]

theorem toList_className_short (id : String) :
    (className false id).toList = joinWords true (lastSegment id.toList) := by
  rw [className, if_neg Bool.false_ne_true, String.toList_ofList]

/-- Separators between two texts are the seam of their class names. -/
theorem className_append {before separators behind : String} (nonempty : separators ≠ "")
    (all : ∀ c ∈ separators.toList, isWordChar c = false) :
    className true (before ++ separators ++ behind) = className true before ++ className true behind := by
  rw [← String.toList_inj, String.toList_append]
  simp only [toList_className_qualified, String.toList_append]
  cases split : separators.toList with
  | nil => exact absurd (String.toList_inj.mp split) nonempty
  | cons c rest =>
      rw [split] at all
      obtain ⟨here, there⟩ := List.forall_mem_cons.mp all
      calc joinWords true (before.toList ++ c :: rest ++ behind.toList)
          = joinWords true (before.toList ++ c :: (rest ++ behind.toList)) := by
            rw [List.append_assoc, List.cons_append]
        _ = joinWords true before.toList ++ joinWords true (rest ++ behind.toList) :=
            joinWords_append_cons here ..
        _ = joinWords true before.toList ++ joinWords true behind.toList := by
            rw [joinWords_append_of_separators there]

/-- The short class name of an id ends the qualified one. -/
theorem exists_className_eq_append (id : String) :
    ∃ before, className true id = before ++ className false id := by
  simp only [← String.toList_inj, String.toList_append, toList_className_qualified, toList_className_short]
  by_cases dotted : '.' ∈ id.toList
  · obtain ⟨before, split⟩ := exists_lastSegment dotted
    have separator : isWordChar '.' = false := by decide
    refine ⟨String.ofList (joinWords true before), ?_⟩
    rw [String.toList_ofList, ← joinWords_append_cons separator, ← split]
  · refine ⟨"", ?_⟩
    rw [lastSegment_of_not_mem dotted]
    rfl

/-- A class name has no dots, so it is its own last segment. -/
theorem className_className (again qualified : Bool) (id : String) :
    className again (className qualified id) = className qualified id := by
  obtain ⟨cs, joined⟩ : ∃ cs, (className qualified id).toList = joinWords true cs :=
    ⟨_, String.toList_ofList⟩
  have undotted : '.' ∉ (className qualified id).toList := not_mem_className (by decide)
  rw [← String.toList_inj]
  cases again with
  | true => rw [toList_className_qualified, joined, joinWords_joinWords]
  | false =>
      rw [toList_className_short, lastSegment_of_not_mem undotted, joined, joinWords_joinWords]

/-- A qualified class name is the pieces of an id between its separators, each with its first letter in
upper case, so it is joined where separators stand and ends with the short class name. Either class name is
made of letters and digits, begins with no small letter and thus is none of the names that each module has of
its own, and is the class name of itself. -/
theorem className_homomorphic :
    (∀ id, (className true id).toList =
      (id.toList.splitOnP fun c => !c.isAlphanum).flatMap (List.modifyHead Char.toUpper)) ∧
    (∀ before separators behind : String, separators ≠ "" →
      (∀ c ∈ separators.toList, c.isAlphanum = false) →
        className true (before ++ separators ++ behind) = className true before ++ className true behind) ∧
    (∀ id, ∃ before, className true id = before ++ className false id) ∧
    ∀ qualified id,
      (∀ c ∈ (className qualified id).toList, c.isAlphanum = true) ∧
      (∀ c rest, (className qualified id).toList = c :: rest → c.isLower = false) ∧
      className qualified id ∉ ["register", "schema", "addSchema", "add_schema"] ∧
      ∀ again, className again (className qualified id) = className qualified id := by
  refine ⟨?_, ?_, exists_className_eq_append, ?_⟩
  · intro id
    have raise : capital = Char.toUpper := funext capital_eq_toUpper
    rw [toList_className_qualified, joinWords_eq_flatMap, raise]
    simp only [isWordChar_eq_isAlphanum]
  · intro before separators behind nonempty all
    apply className_append nonempty
    intro c member
    rw [isWordChar_eq_isAlphanum, all c member]
  · intro qualified id
    refine ⟨?_, ?_, ?_, fun again => className_className again qualified id⟩
    · intro c member
      rw [← isWordChar_eq_isAlphanum]
      exact isWordChar_of_mem_className member
    · intro c rest begins
      rw [← isSmallLetter_eq_isLower]
      rw [className, String.toList_ofList] at begins
      exact not_isSmallLetter_of_joinWords begins
    · simp only [List.mem_cons, List.not_mem_nil, or_false, not_or]
      refine ⟨?_, ?_, ?_, ?_⟩
      · exact className_ne_of_small (c := 'r') rfl rfl
      · exact className_ne_of_small (c := 's') rfl rfl
      · exact className_ne_of_small (c := 'a') rfl rfl
      · exact className_ne_of_small (c := 'a') rfl rfl

/-- A seam of several separators, one of them a letter outside of ASCII. -/
theorem className_homomorphic_at_seam :
    ("-é." ≠ "" ∧ ∀ c ∈ "-é.".toList, c.isAlphanum = false) ∧
      className true "apps-é.v1.stateSet" = className true "apps" ++ className true "v1.stateSet" := by
  have nonempty : "-é." ≠ "" := by decide
  have all : ∀ c ∈ "-é.".toList, c.isAlphanum = false := by simp
  exact ⟨⟨nonempty, all⟩, className_homomorphic.2.1 "apps" "-é." "v1.stateSet" nonempty all⟩

end Registrar
