import Registrar.Proofs.Json.Characters
import Registrar.Proofs.Json.Parts
import Registrar.Proofs.Text.Boundaries
import Mathlib.Data.List.Forall2

/-!
# Values are determined by their text

The first character of a printed value tells a text, a list and an object from each other and from the
constants and numbers. Behind that, every part ends where its closing mark or quote is, whatever texts and
keys there are in it. So the indented JSON text of a value determines the value, its numbers as far as
they are printed, and what follows the text.
-/

namespace Registrar

namespace Json

/-- The text of a number. -/
def numberText? : Json → Option String
  | .int value => some (toString value)
  | .float value => some (value.render (numberLayout "NaN" "Infinity"))
  | _ => none

/-- Values are alike if they are the same, key order included, with numbers compared by their texts. -/
inductive Alike : Json → Json → Prop
  | null : Alike .null .null
  | bool (value : Bool) : Alike (.bool value) (.bool value)
  | number {first second : Json} {text : String} (one : first.numberText? = some text)
      (other : second.numberText? = some text) : Alike first second
  | str (value : String) : Alike (.str value) (.str value)
  | arr {first second : List Json} (items : List.Forall₂ Alike first second) :
      Alike (.arr first) (.arr second)
  | obj {first second : List (String × Json)} (keys : first.map (·.1) = second.map (·.1))
      (values : List.Forall₂ Alike (first.map (·.2)) (second.map (·.2))) :
      Alike (.obj first) (.obj second)

/-- The mark with which a text, a list or an object begins. -/
def opening? : Json → Option Char
  | .str _ => some '"'
  | .arr _ => some '['
  | .obj _ => some '\x7b'
  | _ => none

/-- The characters of printed numbers. -/
def isNumberChar (c : Char) : Bool :=
  c.isDigit || ".e+-NaNInfinity".toList.contains c

theorem isNumberChar_of_mem {value : Json} {text : String} (number : value.numberText? = some text) :
    ∀ c ∈ text.toList, isNumberChar c = true := by
  have known : NumberText ["NaN", "Infinity"] text.toList := by
    cases value with
    | int value => exact Option.some.inj number ▸ numberText_int _ value
    | float value => exact Option.some.inj number ▸ numberText_render (numberLayout "NaN" "Infinity") value
    | _ => simp [numberText?] at number
  intro c member
  rcases known.mem member with digit | mark | ⟨word, listed, among⟩
  · simp [isNumberChar, digit]
  · have marks : ∀ c ∈ ['.', 'e', '+', '-'], isNumberChar c = true := by decide
    exact marks c mark
  · have words : ∀ word ∈ ["NaN", "Infinity"], ∀ c ∈ word.toList, isNumberChar c = true := by decide
    exact words word listed c among

/-- What the text of a value without an opening mark is: a constant or a number. -/
inductive WordView : Json → String → Prop
  | null : WordView .null "null"
  | yes : WordView (.bool true) "true"
  | no : WordView (.bool false) "false"
  | number {value : Json} {text : String} (number : value.numberText? = some text) :
      WordView value text

theorem wordView_of_opening?_eq_none {value : Json} (word : value.opening? = none) (level : Nat) :
    WordView value (value.indented (standard .unicode) level) := by
  cases value with
  | null => exact .null
  | bool value =>
      cases value with
      | true => exact .yes
      | false => exact .no
  | int value => exact .number rfl
  | float value => exact .number rfl
  | _ => simp [opening?] at word

/-- The marks that begin a value or follow it. -/
def isBoundary (c : Char) : Bool :=
  ['"', '[', '{', ',', '\n', ';'].contains c

theorem not_isBoundary_of_wordView {value : Json} {text : String} (view : WordView value text) :
    ∀ c ∈ text.toList, ¬ isBoundary c = true := by
  cases view with
  | null => decide
  | yes => decide
  | no => decide
  | number number =>
      intro c member boundary
      have plain : ∀ c ∈ ['"', '[', '{', ',', '\n', ';'], isNumberChar c = false := by decide
      have part := isNumberChar_of_mem number c member
      rw [plain c (by simpa [isBoundary] using boundary)] at part
      exact Bool.false_ne_true part

/-- No number has the text of a constant, which has a letter that is in no number. -/
theorem numberText?_ne {value : Json} {word : String} {letter : Char} (inside : letter ∈ word.toList)
    (strange : isNumberChar letter = false) : value.numberText? ≠ some word := by
  intro number
  rw [isNumberChar_of_mem number letter inside] at strange
  exact Bool.true_eq_false.mp strange

/-- Constants and numbers with one text are alike. -/
theorem alike_of_wordView {first second : Json} {text : String} (one : WordView first text)
    (other : WordView second text) : Alike first second := by
  have null (value : Json) : value.numberText? ≠ some "null" :=
    numberText?_ne (by decide : 'u' ∈ _) (by decide)
  have yes (value : Json) : value.numberText? ≠ some "true" :=
    numberText?_ne (by decide : 'u' ∈ _) (by decide)
  have no (value : Json) : value.numberText? ≠ some "false" :=
    numberText?_ne (by decide : 's' ∈ _) (by decide)
  generalize same : text = text' at other
  cases one with
  | null =>
      cases other with
      | null => exact .null
      | yes => exact absurd same (by decide)
      | no => exact absurd same (by decide)
      | number number => exact absurd (same ▸ number) (null _)
  | yes =>
      cases other with
      | null => exact absurd same (by decide)
      | yes => exact .bool true
      | no => exact absurd same (by decide)
      | number number => exact absurd (same ▸ number) (yes _)
  | no =>
      cases other with
      | null => exact absurd same (by decide)
      | yes => exact absurd same (by decide)
      | no => exact .bool false
      | number number => exact absurd (same ▸ number) (no _)
  | number number =>
      cases other with
      | null => exact absurd (same ▸ number) (null _)
      | yes => exact absurd (same ▸ number) (yes _)
      | no => exact absurd (same ▸ number) (no _)
      | number number' => exact .number number (same ▸ number')

/-- What follows the text of a value begins with a mark that stands behind values. -/
def Follows (after : List Char) : Prop :=
  ∃ mark rest, after = mark :: rest ∧ mark ∈ [',', '\n', ';']

theorem head?_of_opening? {value : Json} {mark : Char} (opening : value.opening? = some mark)
    (level : Nat) : (value.indented (standard .unicode) level).toList.head? = some mark := by
  cases value with
  | str value =>
      obtain rfl := Option.some.inj opening
      rw [indented]
      · exact congrArg List.head? (toList_quoted ..)
      · simp
      · simp
  | arr items =>
      obtain rfl := Option.some.inj opening
      cases items with
      | nil => simp [indented, Spelling.leaf]
      | cons item rest => simp [indented]
  | obj fields =>
      obtain rfl := Option.some.inj opening
      cases fields with
      | nil => simp [indented, Spelling.leaf]
      | cons field rest =>
          obtain ⟨key, value⟩ := field
          simp [indented]
  | _ => simp [opening?] at opening

/-- The mark with which a value begins is the first character of its text, if that is such a mark. -/
theorem opening?_eq_filter (value : Json) (level : Nat) {after : List Char} (ends : Follows after) :
    value.opening? = ((value.indented (standard .unicode) level).toList ++ after).head?.filter
      ['"', '[', '{'].contains := by
  cases opening : value.opening? with
  | some mark =>
      have known : ['"', '[', '{'].contains mark = true := by
        cases value <;> simp [opening?] at opening <;> simp [← opening]
      rw [List.head?_append, head?_of_opening? opening level, Option.some_or, Option.filter_some,
        if_pos known]
  | none =>
      obtain ⟨mark, rest, rfl, among⟩ := ends
      have plain := not_isBoundary_of_wordView (wordView_of_opening?_eq_none opening level)
      have none (c : Char) (other : ['"', '[', '{'].contains c = false) :
          (some c).filter ['"', '[', '{'].contains = none := by
        rw [Option.filter_some, other]
        rfl
      cases text : (value.indented (standard .unicode) level).toList with
      | nil =>
          have marks : ∀ mark ∈ [',', '\n', ';'], ['"', '[', '{'].contains mark = false := by decide
          exact (none mark (marks mark among)).symm
      | cons c cs =>
          have word := plain c (by rw [text]; exact List.mem_cons_self)
          refine (none c ?_).symm
          cases opens : ['"', '[', '{'].contains c with
          | false => rfl
          | true =>
              have boundaries : ∀ c ∈ ['"', '[', '{'], isBoundary c = true := by decide
              exact absurd (boundaries c (by simpa using opens)) word

/-- Values with the same text in front begin with the same mark. -/
theorem opening?_eq_of_append {first second : Json} {level : Nat} {after behind : List Char}
    (ends : Follows after) (ends' : Follows behind)
    (same : (first.indented (standard .unicode) level).toList ++ after =
      (second.indented (standard .unicode) level).toList ++ behind) : first.opening? = second.opening? := by
  rw [opening?_eq_filter first level ends, same, ← opening?_eq_filter second level ends']

/-- The text of a constant or a number determines it, and what follows it. -/
theorem alike_of_word_append {first second : Json} (word : first.opening? = none) {level : Nat}
    {after behind : List Char} (ends : Follows after) (ends' : Follows behind)
    (same : (first.indented (standard .unicode) level).toList ++ after =
      (second.indented (standard .unicode) level).toList ++ behind) :
    Alike first second ∧ after = behind := by
  have word' : second.opening? = none := (opening?_eq_of_append ends ends' same).symm.trans word
  have view := wordView_of_opening?_eq_none word level
  have view' := wordView_of_opening?_eq_none word' level
  obtain ⟨mark, rest, rfl, among⟩ := ends
  obtain ⟨mark', rest', rfl, among'⟩ := ends'
  have boundary : ∀ mark ∈ [',', '\n', ';'], isBoundary mark = true := by decide
  obtain ⟨texts, rests⟩ := eq_of_append_mark (not_isBoundary_of_wordView view)
    (not_isBoundary_of_wordView view') (boundary mark among) (boundary mark' among') same
  rw [String.toList_inj.mp texts] at view
  exact ⟨alike_of_wordView view view', rests⟩

section Texts

variable (level : Nat) (after : List Char)

/-- A text between marks, with nothing between them or with lines on which each part stands as behind a
comma. -/
inductive Enclosed (opening closing : Char) : List Char → List Char → Prop
  | none : Enclosed opening closing [] (opening :: closing :: after)
  | some {lines tail : List Char}
      (behindComma : lines ++ '\n' :: ((indent level).toList ++ closing :: after) = ',' :: '\n' :: tail) :
      Enclosed opening closing lines (opening :: '\n' :: tail)

theorem enclosed_arr (items : List Json) :
    Enclosed level after '[' ']' (indentedItems (standard .unicode) (level + 1) items).toList
      (((Json.arr items).indented (standard .unicode) level).toList ++ after) := by
  cases items with
  | nil => simpa [indented, indentedItems, Spelling.leaf] using Enclosed.none
  | cons item rest =>
      simp only [indented, String.toList_append, List.append_assoc]
      exact .some (by simp [indentedItems])

theorem enclosed_obj (fields : List (String × Json)) :
    Enclosed level after '{' '}' (indentedFields (standard .unicode) (level + 1) fields).toList
      (((Json.obj fields).indented (standard .unicode) level).toList ++ after) := by
  cases fields with
  | nil => simpa [indented, indentedFields, Spelling.leaf] using Enclosed.none
  | cons field rest =>
      obtain ⟨key, value⟩ := field
      simp only [indented, String.toList_append, List.append_assoc]
      exact .some (by simp [indentedFields])

/-- The lines between the marks are determined by the text, as far as what follows them is. -/
theorem Enclosed.lines_eq {opening closing : Char} (visible : closing ≠ '\n')
    {behind lines lines' text : List Char} (one : Enclosed level after opening closing lines text)
    (other : Enclosed level behind opening closing lines' text) :
    lines ++ '\n' :: ((indent level).toList ++ closing :: after) =
      lines' ++ '\n' :: ((indent level).toList ++ closing :: behind) := by
  generalize same : text = text' at other
  cases one with
  | none =>
      cases other with
      | none => rw [(List.cons.inj (List.cons.inj same).2).2]
      | some => exact absurd (List.cons.inj (List.cons.inj same).2).1 visible
  | some behindComma =>
      cases other with
      | none => exact absurd (List.cons.inj (List.cons.inj same).2).1.symm visible
      | some behindComma' => rw [behindComma, behindComma', (List.cons.inj (List.cons.inj same).2).2]

theorem toList_indentedItems_cons (item : Json) (rest : List Json) :
    (indentedItems (standard .unicode) level (item :: rest)).toList ++ '\n' :: after =
      ',' :: '\n' :: ((indent level).toList ++ ((item.indented (standard .unicode) level).toList ++
        ((indentedItems (standard .unicode) level rest).toList ++ '\n' :: after))) := by
  simp [indentedItems]

theorem toList_indentedFields_cons (key : String) (value : Json) (rest : List (String × Json)) :
    (indentedFields (standard .unicode) level ((key, value) :: rest)).toList ++ '\n' :: after =
      ',' :: '\n' :: ((indent level).toList ++ ((quoted .unicode key).toList ++
        (':' :: ' ' :: ((value.indented (standard .unicode) level).toList ++
          ((indentedFields (standard .unicode) level rest).toList ++ '\n' :: after))))) := by
  simp [indentedFields, standard]

theorem follows_indentedItems (rest : List Json) :
    Follows ((indentedItems (standard .unicode) level rest).toList ++ '\n' :: after) := by
  cases rest with
  | nil => exact ⟨'\n', after, by simp [indentedItems], by simp⟩
  | cons item rest => exact ⟨',', _, toList_indentedItems_cons level after item rest, by simp⟩

theorem follows_indentedFields (rest : List (String × Json)) :
    Follows ((indentedFields (standard .unicode) level rest).toList ++ '\n' :: after) := by
  cases rest with
  | nil => exact ⟨'\n', after, by simp [indentedFields], by simp⟩
  | cons field rest => exact ⟨',', _, toList_indentedFields_cons level after field.1 field.2 rest, by simp⟩

end Texts

/-- A value is determined by its text, and so is what follows the text. -/
def Determined (first : Json) : Prop :=
  ∀ {second : Json} {level : Nat} {after behind : List Char}, Follows after → Follows behind →
    (first.indented (standard .unicode) level).toList ++ after =
      (second.indented (standard .unicode) level).toList ++ behind →
    Alike first second ∧ after = behind

theorem alike_of_indentedItems_append {first second : List Json}
    (determined : ∀ item ∈ first, item.Determined) {level : Nat} {after behind : List Char}
    (same : (indentedItems (standard .unicode) level first).toList ++ '\n' :: after =
      (indentedItems (standard .unicode) level second).toList ++ '\n' :: behind) :
    List.Forall₂ Alike first second ∧ after = behind := by
  induction first generalizing second with
  | nil =>
      cases second with
      | nil => exact ⟨.nil, (List.cons.inj (List.append_cancel_left same)).2⟩
      | cons other more =>
          rw [toList_indentedItems_cons] at same
          simp [indentedItems] at same
  | cons item others ih =>
      obtain ⟨mine, theirs⟩ := List.forall_mem_cons.mp determined
      rw [toList_indentedItems_cons] at same
      cases second with
      | nil => simp [indentedItems] at same
      | cons other more =>
          rw [toList_indentedItems_cons] at same
          have line := List.append_cancel_left (List.cons.inj (List.cons.inj same).2).2
          obtain ⟨here, later⟩ := mine (follows_indentedItems ..) (follows_indentedItems ..) line
          obtain ⟨rest, closing⟩ := ih theirs later
          exact ⟨.cons here rest, closing⟩

theorem alike_of_indentedFields_append {first second : List (String × Json)}
    (determined : ∀ field ∈ first, field.2.Determined) {level : Nat} {after behind : List Char}
    (same : (indentedFields (standard .unicode) level first).toList ++ '\n' :: after =
      (indentedFields (standard .unicode) level second).toList ++ '\n' :: behind) :
    first.map (·.1) = second.map (·.1) ∧
      List.Forall₂ Alike (first.map (·.2)) (second.map (·.2)) ∧ after = behind := by
  induction first generalizing second with
  | nil =>
      cases second with
      | nil => exact ⟨rfl, .nil, (List.cons.inj (List.append_cancel_left same)).2⟩
      | cons other more =>
          rw [toList_indentedFields_cons] at same
          simp [indentedFields] at same
  | cons field others ih =>
      obtain ⟨mine, theirs⟩ := List.forall_mem_cons.mp determined
      obtain ⟨key, value⟩ := field
      rw [toList_indentedFields_cons] at same
      cases second with
      | nil => simp [indentedFields] at same
      | cons other more =>
          obtain ⟨key', value'⟩ := other
          rw [toList_indentedFields_cons] at same
          have line := List.append_cancel_left (List.cons.inj (List.cons.inj same).2).2
          obtain ⟨rfl, behindKey⟩ := eq_of_quoted_append line
          have inside := (List.cons.inj (List.cons.inj behindKey).2).2
          obtain ⟨here, later⟩ := mine (follows_indentedFields ..) (follows_indentedFields ..) inside
          obtain ⟨keys, values, closing⟩ := ih theirs later
          exact ⟨congrArg (key :: ·) keys, .cons here values, closing⟩

theorem determined_str (text : String) : (Json.str text).Determined := by
  intro second level after behind ends ends' same
  have opening := opening?_eq_of_append ends ends' same
  cases second <;> simp [opening?] at opening
  simp only [indented] at same
  obtain ⟨rfl, rests⟩ := eq_of_quoted_append same
  exact ⟨.str text, rests⟩

theorem determined_arr {items : List Json} (determined : ∀ item ∈ items, item.Determined) :
    (Json.arr items).Determined := by
  intro second level after behind ends ends' same
  have opening := opening?_eq_of_append ends ends' same
  cases second <;> simp [opening?] at opening
  rename_i others
  have text := enclosed_arr level after items
  rw [same] at text
  have lines := text.lines_eq level after (by decide) (enclosed_arr level behind others)
  obtain ⟨alike, closing⟩ := alike_of_indentedItems_append determined lines
  exact ⟨.arr alike, (List.cons.inj (List.append_cancel_left closing)).2⟩

theorem determined_obj {fields : List (String × Json)}
    (determined : ∀ field ∈ fields, field.2.Determined) : (Json.obj fields).Determined := by
  intro second level after behind ends ends' same
  have opening := opening?_eq_of_append ends ends' same
  cases second <;> simp [opening?] at opening
  rename_i others
  have text := enclosed_obj level after fields
  rw [same] at text
  have lines := text.lines_eq level after (by decide) (enclosed_obj level behind others)
  obtain ⟨keys, values, closing⟩ := alike_of_indentedFields_append determined lines
  exact ⟨.obj keys values, (List.cons.inj (List.append_cancel_left closing)).2⟩

/-- Every value is determined by its text. -/
theorem determined (value : Json) : value.Determined := by
  induction value using part_induction with
  | null => exact alike_of_word_append rfl
  | bool => exact alike_of_word_append rfl
  | int => exact alike_of_word_append rfl
  | float => exact alike_of_word_append rfl
  | str text => exact determined_str text
  | arr items determined => exact determined_arr determined
  | obj fields determined => exact determined_obj determined

end Json

end Registrar
