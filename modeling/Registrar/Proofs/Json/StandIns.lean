import Registrar.Json.StandIns
import Mathlib.Data.List.Nodup

/-!
# Reading with characters that stand in for surrogates

A text in which no escape spells a surrogate that is alone is read as it is, whatever characters stand in for
surrogates. If all texts are of this kind none is needed, and then nothing is taken for a surrogate either. A
text with a character in the place of each of its surrogates is the text again when the characters are taken for
them, as long as they occur nowhere else in it.
-/

namespace Registrar

variable (standIn : Surrogate → Option Char)

/-- A quoted text that is read without stand-ins is read with any. -/
theorem Quoted.unquote_of_strict {cs : List Char} {found : List Char × List Char}
    (read : unquote (fun _ => none) cs = some found) : unquote standIn cs = some found := by
  fun_induction unquote (fun _ => none) cs generalizing found
  case case1 | case3 | case5 | case6 | case8 | case10 => cases read
  case case2 => rwa [unquote]
  case case4 known inside _ _ _ _ _ _ pair _ ih =>
    obtain ⟨_, behind, rfl⟩ := Option.map_eq_some_iff.mp read
    rw [unquote]
    simp [known, inside, pair, ih behind]
  case case7 known outside ih =>
    obtain ⟨_, behind, rfl⟩ := Option.map_eq_some_iff.mp read
    rw [unquote]
    simp [known, outside, ih behind]
  case case9 other _ known ih =>
    obtain ⟨_, behind, rfl⟩ := Option.map_eq_some_iff.mp read
    rw [unquote]
    · simp [known, ih behind]
    · exact other
  case case11 quote escape letter visible ih =>
    obtain ⟨_, behind, rfl⟩ := Option.map_eq_some_iff.mp read
    rw [unquote]
    · simp [visible, ih behind]
    · exact quote
    · exact escape
    · exact letter

namespace Json

theorem value?_of_strict (fuel : Nat) :
    (∀ cs found, value? (fun _ => none) fuel cs = some found → value? standIn fuel cs = some found) ∧
    (∀ cs found, items? (fun _ => none) fuel cs = some found → items? standIn fuel cs = some found) ∧
    ∀ before cs found, fields? (fun _ => none) fuel before cs = some found →
      fields? standIn fuel before cs = some found := by
  induction fuel with
  | zero => simp [value?, items?, fields?]
  | succ fuel ih =>
      obtain ⟨value, items, fields⟩ := ih
      refine ⟨fun cs found read => ?_, fun cs found read => ?_, fun before cs found read => ?_⟩
      · rw [value?.eq_def] at read ⊢
        dsimp only at read ⊢
        split at read
        · obtain ⟨_, behind, rfl⟩ := Option.map_eq_some_iff.mp read
          rw [Quoted.unquote_of_strict standIn behind]
          rfl
        · split at read
          · exact read
          · obtain ⟨_, behind, rfl⟩ := Option.map_eq_some_iff.mp read
            rw [items _ _ behind]
            rfl
        · split at read
          · exact read
          · obtain ⟨_, behind, rfl⟩ := Option.map_eq_some_iff.mp read
            rw [fields _ _ _ behind]
            rfl
        · exact read
      · rw [items?] at read ⊢
        obtain ⟨⟨item, after⟩, one, more⟩ := Option.bind_eq_some_iff.mp read
        rw [value _ _ one]
        dsimp only [Option.bind_eq_bind, Option.bind_some] at more ⊢
        split at more
        · exact more
        · obtain ⟨_, others, last⟩ := Option.bind_eq_some_iff.mp more
          rw [items _ _ others]
          exact last
        · cases more
      · rw [fields?.eq_def] at read ⊢
        dsimp only at read ⊢
        split at read
        · obtain ⟨⟨key, afterKey⟩, named, more⟩ := Option.bind_eq_some_iff.mp read
          simp only [Quoted.unquote_of_strict standIn named, Option.bind_eq_bind, Option.bind_some] at more ⊢
          split at more
          · obtain ⟨⟨given, afterValue⟩, one, onward⟩ := Option.bind_eq_some_iff.mp more
            simp only [value _ _ one, Option.bind_some] at onward ⊢
            split at onward
            · exact onward
            · exact fields _ _ _ onward
            · cases onward
          · cases more
        · cases read

/-- A text that is read without stand-ins is read with any. -/
theorem readWith_of_read? {text : String} {value : Json} (read : read? text = some value) :
    readWith standIn text = some value := by
  rw [read?, readWith] at read
  rw [readWith]
  split at read
  · rename_i found
    rw [(value?_of_strict standIn _).1 _ _ found]
    exact read
  · cases read

end Json

namespace StandIns

variable {standIns : StandIns}

/-- Nothing stands in for a surrogate if all texts can be read without. -/
theorem reading_of_read? {texts : List String} (strict : ∀ text ∈ texts, (Json.read? text).isSome = true) :
    reading texts = empty := by
  rw [reading, if_pos (List.all_eq_true.mpr strict)]

theorem surrogate?_empty (c : Char) : empty.surrogate? c = none := by
  simp [empty, surrogate?]

theorem escapedBehind_empty (skipped : Nat) (cs : List Char) :
    empty.escapedBehind skipped cs = cs.drop skipped := by
  have none (cs : List Char) : empty.escaped? cs = none := by
    unfold escaped?
    split
    · simp [surrogate?_empty]
    · rfl
  induction cs generalizing skipped with
  | nil => simp [escapedBehind]
  | cons c rest ih =>
      cases skipped with
      | zero => simp [escapedBehind, none, ih]
      | succ skipped => simp [escapedBehind, ih]

/-- Characters none of which stands in for a surrogate are not divided. -/
theorem divided_append {front : List Char} (free : ∀ c ∈ front, standIns.surrogate? c = none)
    (behind : List Char) : standIns.divided (front ++ behind) =
      (front ++ (standIns.divided behind).1, (standIns.divided behind).2) := by
  induction front with
  | nil => rfl
  | cons c rest ih =>
      obtain ⟨here, others⟩ := List.forall_mem_cons.mp free
      rw [List.cons_append, divided, ih others, here]
      rfl

theorem divided_cons {c : Char} {surrogate : Surrogate} (known : standIns.surrogate? c = some surrogate)
    (behind : List Char) : standIns.divided (c :: behind) =
      ([], (surrogate, (standIns.divided behind).1) :: (standIns.divided behind).2) := by
  rw [divided, known]

/-- Without stand-ins a text is what it is. -/
theorem restored_empty (text : String) : empty.restored text = text := by
  have free : ∀ c ∈ text.toList, empty.surrogate? c = none := fun c _ => surrogate?_empty c
  have whole := divided_append free []
  rw [List.append_nil] at whole
  rw [restored, escapedBehind_empty, List.drop_zero, whole]
  simp [divided]

/-- The character that stands in for a surrogate is taken for it. -/
theorem surrogate?_of_character? (distinct : standIns.characters.Nodup) {surrogate : Surrogate} {c : Char}
    (standsIn : standIns.character? surrogate = some c) : standIns.surrogate? c = some surrogate := by
  obtain ⟨number, inside⟩ := surrogate
  obtain ⟨before, rfl⟩ := List.getElem?_eq_some_iff.mp standsIn
  have position := distinct.idxOf_getElem (number - 0xD800) before
  have known : standIns.characters[number - 0xD800] ∈ standIns.characters := List.getElem_mem before
  have whole : 0xD800 + (number - 0xD800) = number := by omega
  simp only [surrogate?, position, whole]
  rw [dif_pos ⟨known, inside.2⟩]

/-- A character in the place of each surrogate. -/
def spelled? (standIns : StandIns) : List (Surrogate × String) → Option (List Char)
  | [] => some []
  | (surrogate, behind) :: rest => do
      return (← standIns.character? surrogate) :: (behind.toList ++ (← spelled? standIns rest))

/-- A text with a character in the place of each surrogate is the text again when it is divided at these
characters, if they occur nowhere else. -/
theorem divided_spelled (distinct : standIns.characters.Nodup) (text : Text) {cs : List Char}
    (front : ∀ c ∈ text.head.toList, standIns.surrogate? c = none)
    (free : ∀ part ∈ text.tail, ∀ c ∈ part.2.toList, standIns.surrogate? c = none)
    (spelled : standIns.spelled? text.tail = some cs) :
    standIns.divided (text.head.toList ++ cs) =
      (text.head.toList, text.tail.map fun (surrogate, behind) => (surrogate, behind.toList)) := by
  obtain ⟨head, tail⟩ := text
  induction tail generalizing head cs with
  | nil =>
      cases spelled
      rw [divided_append front]
      simp [divided]
  | cons part rest ih =>
      obtain ⟨surrogate, behind⟩ := part
      obtain ⟨here, others⟩ := List.forall_mem_cons.mp free
      obtain ⟨c, standsIn, more⟩ := Option.bind_eq_some_iff.mp spelled
      obtain ⟨last, onward, same⟩ := Option.bind_eq_some_iff.mp more
      cases same
      have later := ih behind here others onward
      rw [divided_append front, divided_cons (surrogate?_of_character? distinct standsIn), later]
      simp

theorem toNat_ofNat_of_lt {n : Nat} (small : n < 0x1900) :
    (Char.ofNat (0xE000 + n)).toNat = 0xE000 + n := by
  have valid : Nat.isValidChar (0xE000 + n) := .inr ⟨by omega, by omega⟩
  rw [Char.ofNat, dif_pos valid]
  rfl

theorem nodup_privateUse : privateUse.Nodup := by
  apply List.Nodup.map_on _ List.nodup_range
  intro first here second there same
  have numbers := congrArg Char.toNat same
  rw [toNat_ofNat_of_lt (List.mem_range.mp here), toNat_ofNat_of_lt (List.mem_range.mp there)] at numbers
  omega

theorem not_mem_of_isFreeIn {text : List Char} {c : Char} (free : isFreeIn text c = true) : c ∉ text := by
  intro inside
  have contained := List.elem_eq_true_of_mem inside
  rw [isFreeIn, List.contains, contained] at free
  exact Bool.false_ne_true free

/-- The characters that are chosen are different, and none of them occurs in a value. -/
theorem characters_avoiding (values : List Json) : (avoiding values).characters.Nodup ∧
    ∀ c ∈ (avoiding values).characters, ∀ value ∈ values, c ∉ value.compact.toList := by
  dsimp only [avoiding]
  refine ⟨nodup_privateUse.filter _, fun c chosen value member inside => ?_⟩
  have free := not_mem_of_isFreeIn (List.of_mem_filter chosen)
  exact free (List.mem_flatMap.mpr ⟨value, member, inside⟩)

end StandIns

end Registrar
