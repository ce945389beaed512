import Registrar.Module
import Registrar.Proofs.Python.Lexemes

/-!
# Tokens of values

The scanner reads the indented text of a value as the tokens of a value: a constant, a number with or
without a sign, a text, or a list or a mapping of values. It comes to the end of the text if its brackets
are not nested too deeply, and has then closed all of them.
-/

namespace Registrar

namespace Json

mutual
/-- How far the brackets of the text of a value are nested. -/
def nesting : Json → Nat
  | .arr items => nestingOfItems items + 1
  | .obj fields => nestingOfFields fields + 1
  | _ => 0

def nestingOfItems : List Json → Nat
  | [] => 0
  | item :: rest => max (nesting item) (nestingOfItems rest)

def nestingOfFields : List (String × Json) → Nat
  | [] => 0
  | (_, value) :: rest => max (nesting value) (nestingOfFields rest)
end

end Json

namespace Python

/-- Whether a token is an expression by itself. -/
def isAtom : Token → Bool
  | .name _ | .number _ | .literal _ [] => true
  | .keyword word => word = .none_ ∨ word = .true_ ∨ word = .false_
  | _ => false

/-- Each of some groups of tokens behind a comma. -/
def behindCommas (items : List (List Token)) : List Token :=
  items.flatMap (.op .comma :: ·)

@[simp] theorem behindCommas_nil : behindCommas [] = [] := rfl

@[simp] theorem behindCommas_cons (item : List Token) (items : List (List Token)) :
    behindCommas (item :: items) = .op .comma :: (item ++ behindCommas items) := by
  simp [behindCommas]

/-- A text as the key of a value. -/
def keyed (value : List Token) : List Token :=
  .literal false [] :: .op .colon :: value

/-- The tokens of values. -/
inductive ValueTokens : List Token → Prop
  | atom {token} (known : isAtom token = true) : ValueTokens [token]
  | negative {token} (known : isAtom token = true) : ValueTokens [.op .minus, token]
  | noItems : ValueTokens [.op .openBracket, .op .closeBracket]
  | items {first} {more : List (List Token)} (one : ValueTokens first)
      (others : ∀ item ∈ more, ValueTokens item) :
      ValueTokens (.op .openBracket :: (first ++ behindCommas more ++ [.op .closeBracket]))
  | noFields : ValueTokens [.op .openBrace, .op .closeBrace]
  | fields {first} {more : List (List Token)} (one : ValueTokens first)
      (others : ∀ value ∈ more, ValueTokens value) :
      ValueTokens
        (.op .openBrace :: (keyed first ++ behindCommas (more.map keyed) ++ [.op .closeBrace]))

variable {blocks : List Columns} {due : List Operator}

/-- Whether a text goes on as it does behind a value: with a comma or with the end of the line. -/
def EndsValue (cs : List Char) : Prop :=
  ∃ c rest, cs = c :: rest ∧ c ∈ [',', '\n']

theorem EndsValue.exists_ends {cs : List Char} (ends : EndsValue cs) : ∃ c rest, cs = c :: rest ∧
    endsWord c = true ∧ endsNumber c = true ∧ c ≠ '"' := by
  obtain ⟨c, rest, same, member⟩ := ends
  have each : ∀ c ∈ [',', '\n'], endsWord c = true ∧ endsNumber c = true ∧ c ≠ '"' := by decide
  exact ⟨c, rest, same, each c member⟩

theorem endsValue_line (cs : List Char) : EndsValue ('\n' :: cs) :=
  ⟨'\n', cs, rfl, by simp⟩

theorem endsValue_items (level : Nat) (items : List Json) {tail : List Char} (ends : EndsValue tail) :
    EndsValue ((Json.indentedItems Json.literal level items).toList ++ tail) := by
  cases items with
  | nil => simpa [Json.indentedItems] using ends
  | cons item rest =>
      simp only [Json.indentedItems, String.toList_append, List.append_assoc]
      exact ⟨',', _, rfl, by simp⟩

theorem endsValue_fields (level : Nat) (fields : List (String × Json)) {tail : List Char}
    (ends : EndsValue tail) :
    EndsValue ((Json.indentedFields Json.literal level fields).toList ++ tail) := by
  cases fields with
  | nil => simpa [Json.indentedFields] using ends
  | cons field rest =>
      simp only [Json.indentedFields, String.toList_append, List.append_assoc]
      exact ⟨',', _, rfl, by simp⟩

theorem scans_literalWord (word : String) (plain : isPlainWord word.toList = true)
    (known : isAtom (.ofWord word.toList) = true) {tail : List Char} (ends : EndsValue tail) :
    ∃ tokens, ValueTokens tokens ∧
      Scans ⟨false, blocks, due⟩ (word.toList ++ tail) tokens ⟨false, blocks, due⟩ tail := by
  obtain ⟨c, rest, rfl, ends, -, -⟩ := ends.exists_ends
  exact ⟨_, .atom known, scans_word plain ends rest⟩

/-- A number without a sign is one token. -/
theorem scans_unsigned {cs : List Char} (number : Unsigned ["nan", "inf"] cs) {tail : List Char}
    (ends : EndsValue tail) :
    ∃ token, isAtom token = true ∧
      Scans ⟨false, blocks, due⟩ (cs ++ tail) [token] ⟨false, blocks, due⟩ tail := by
  obtain ⟨c, rest, rfl, word, ends, -⟩ := ends.exists_ends
  cases number with
  | whole digits led => exact ⟨.number false, rfl, scans_whole digits led ends rest⟩
  | fraction digits => exact ⟨.number false, rfl, scans_fractional digits ends rest⟩
  | @word text known =>
      have words : ∀ word ∈ ["nan", "inf"], isPlainWord word.toList = true ∧
          isAtom (.ofWord word.toList) = true := by decide
      obtain ⟨plain, atom⟩ := words text known
      exact ⟨.ofWord text.toList, atom, scans_word plain word rest⟩

/-- A number without a sign begins as words and numbers do. -/
theorem exists_begin_of_unsigned {cs : List Char} (number : Unsigned ["nan", "inf"] cs) :
    ∃ c rest, cs = c :: rest ∧ isPlainPart c = true := by
  have digit {cs : List Char} (row : IsDigits cs) : ∃ c rest, cs = c :: rest ∧ isPlainPart c = true := by
    obtain ⟨c, rest, rfl⟩ := List.exists_cons_of_ne_nil row.nonempty
    have here := row.digits c List.mem_cons_self
    exact ⟨c, rest, rfl, by simp [isPlainPart, Char.isAlphanum, here]⟩
  have further {front : List Char} (behind : List Char)
      (begins : ∃ c rest, front = c :: rest ∧ isPlainPart c = true) :
      ∃ c rest, front ++ behind = c :: rest ∧ isPlainPart c = true := by
    obtain ⟨c, rest, rfl, part⟩ := begins
    exact ⟨c, rest ++ behind, rfl, part⟩
  cases number with
  | whole row _ => exact digit row
  | fraction digits =>
      rcases digits with ⟨before, _⟩ | ⟨before, _, _⟩ | ⟨before, _, _, _⟩ <;> exact further _ (digit before)
  | word known =>
      simp only [List.mem_cons, List.not_mem_nil, or_false] at known
      rcases known with rfl | rfl <;> exact ⟨_, _, rfl, by decide⟩

/-- No number begins as an operator goes on behind a minus sign. -/
theorem operator?_minus_unsigned {cs : List Char} (number : Unsigned ["nan", "inf"] cs)
    (tail : List Char) : operator? '-' (cs ++ tail) = some (.minus, cs ++ tail) := by
  obtain ⟨c, rest, rfl, part⟩ := exists_begin_of_unsigned number
  have arrow : c ≠ '>' := by
    rintro rfl
    revert part
    decide
  have assigned : c ≠ '=' := by
    rintro rfl
    revert part
    decide
  simp [operator?, arrow, assigned]

theorem scans_numberText {cs : List Char} (number : NumberText ["nan", "inf"] cs) {tail : List Char}
    (ends : EndsValue tail) :
    ∃ tokens, ValueTokens tokens ∧
      Scans ⟨false, blocks, due⟩ (cs ++ tail) tokens ⟨false, blocks, due⟩ tail := by
  cases number with
  | positive unsigned =>
      obtain ⟨token, atom, run⟩ := scans_unsigned unsigned ends
      exact ⟨[token], .atom atom, run⟩
  | @negative cs unsigned =>
      obtain ⟨token, atom, run⟩ : ∃ token, isAtom token = true ∧
          Scans ⟨false, blocks, due⟩ (cs ++ tail) [token] ⟨false, blocks, due⟩ tail :=
        scans_unsigned unsigned ends
      have sign : Scans ⟨false, blocks, due⟩ ('-' :: (cs ++ tail)) [.op .minus] ⟨false, blocks, due⟩
          (cs ++ tail) :=
        scans_mark (by decide) (startsNumeral_cons (by decide) _)
          (operator?_minus_unsigned unsigned tail) (Nat.le_refl _) rfl
      exact ⟨_, .negative atom, sign.trans run⟩

/-- The first character of a value is visible. -/
theorem exists_visible_indented (level : Nat) (value : Json) :
    ∃ c rest, (Json.indented Json.literal level value).toList = c :: rest ∧ isVisible c = true := by
  have number {cs : List Char} (text : NumberText ["nan", "inf"] cs) :
      ∃ c rest, cs = c :: rest ∧ isVisible c = true := by
    cases text with
    | positive unsigned =>
        obtain ⟨c, rest, rfl, part⟩ := exists_begin_of_unsigned unsigned
        exact ⟨c, rest, rfl, isVisible_of_isPlainPart part⟩
    | negative _ => exact ⟨'-', _, rfl, by decide⟩
  cases value with
  | null => exact ⟨'N', ['o', 'n', 'e'], by simp [Json.indented, Json.Spelling.leaf, Json.literal], rfl⟩
  | bool value =>
      cases value with
      | false =>
          exact ⟨'F', ['a', 'l', 's', 'e'],
            by simp [Json.indented, Json.Spelling.leaf, Json.literal], rfl⟩
      | true =>
          exact ⟨'T', ['r', 'u', 'e'], by simp [Json.indented, Json.Spelling.leaf, Json.literal], rfl⟩
  | int value => exact number (numberText_int _ value)
  | float value => exact number (numberText_render (Json.numberLayout "nan" "inf") value)
  | str value => exact ⟨'"', _, toList_quoted .unicode value, by decide⟩
  | arr items =>
      cases items with
      | nil => exact ⟨'[', [']'], by simp [Json.indented, Json.Spelling.leaf], rfl⟩
      | cons item rest =>
          simp only [Json.indented, String.toList_append, List.append_assoc]
          exact ⟨'[', _, rfl, by decide⟩
  | obj fields =>
      cases fields with
      | nil => exact ⟨'\x7b', ['\x7d'], by simp [Json.indented, Json.Spelling.leaf], rfl⟩
      | cons field rest =>
          simp only [Json.indented, String.toList_append, List.append_assoc]
          exact ⟨'\x7b', _, rfl, by decide⟩

section Brackets

variable {c : Char} {operator closing : Operator}

/-- An opening bracket makes its closing one due. -/
theorem scans_opening (mark : c ∈ marks) (point : c ≠ '.') (digit : c.isDigit = false)
    (found : ∀ rest, operator? c rest = some (operator, rest)) (pair : operator.closing? = some closing)
    (room : due.length < greatestDepth) (cs : List Char) :
    Scans ⟨false, blocks, due⟩ (c :: cs) [.op operator] ⟨false, blocks, closing :: due⟩ cs := by
  apply scans_mark mark (by rw [startsNumeral_cons point, digit]) (found cs) (Nat.le_refl _)
  simp [dueBehind, pair, room]

/-- A closing bracket that is due is none any more. -/
theorem scans_closing (mark : c ∈ marks) (point : c ≠ '.') (digit : c.isDigit = false)
    (found : ∀ rest, operator? c rest = some (closing, rest)) (noPair : closing.closing? = none)
    (closes : closing.isClosing = true) (cs : List Char) :
    Scans ⟨false, blocks, closing :: due⟩ (c :: cs) [.op closing] ⟨false, blocks, due⟩ cs := by
  apply scans_mark mark (by rw [startsNumeral_cons point, digit]) (found cs) (Nat.le_refl _)
  simp [dueBehind, noPair, closes]

end Brackets

theorem scans_openBracket (room : due.length < greatestDepth) (cs : List Char) :
    Scans ⟨false, blocks, due⟩ ('[' :: cs) [.op .openBracket] ⟨false, blocks, .closeBracket :: due⟩ cs :=
  scans_opening (by decide) (by decide) (by decide) (fun _ => rfl) rfl room cs

theorem scans_closeBracket (cs : List Char) :
    Scans ⟨false, blocks, .closeBracket :: due⟩ (']' :: cs) [.op .closeBracket] ⟨false, blocks, due⟩ cs :=
  scans_closing (by decide) (by decide) (by decide) (fun _ => rfl) rfl rfl cs

theorem scans_openBrace (room : due.length < greatestDepth) (cs : List Char) :
    Scans ⟨false, blocks, due⟩ ('\x7b' :: cs) [.op .openBrace] ⟨false, blocks, .closeBrace :: due⟩ cs :=
  scans_opening (by decide) (by decide) (by decide) (fun _ => rfl) rfl room cs

theorem scans_closeBrace (cs : List Char) :
    Scans ⟨false, blocks, .closeBrace :: due⟩ ('\x7d' :: cs) [.op .closeBrace] ⟨false, blocks, due⟩ cs :=
  scans_closing (by decide) (by decide) (by decide) (fun _ => rfl) rfl rfl cs

theorem scans_comma (cs : List Char) :
    Scans ⟨false, blocks, due⟩ (',' :: cs) [.op .comma] ⟨false, blocks, due⟩ cs :=
  scans_mark (by decide) (startsNumeral_cons (by decide) _) rfl (Nat.le_refl _) rfl

/-- A colon with a blank behind it. -/
theorem scans_colon (cs : List Char) :
    Scans ⟨false, blocks, due⟩ (':' :: ' ' :: cs) [.op .colon] ⟨false, blocks, due⟩ cs :=
  (scans_mark (by decide) (startsNumeral_cons (by decide) _) rfl (Nat.le_refl _) rfl).trans
    (scans_blank cs)

/-- Within brackets a run may begin on an indented line of its own. -/
theorem Scans.onNextLine {cs rest : List Char} {tokens : List Token} {position : Position}
    (run : Scans ⟨false, blocks, due⟩ cs tokens position rest) (within : due ≠ []) (level : Nat)
    (visible : ∃ c behind, cs = c :: behind ∧ isVisible c = true) :
    Scans ⟨false, blocks, due⟩ ('\n' :: ((Json.indent level).toList ++ cs)) tokens position rest := by
  obtain ⟨c, behind, rfl, visible⟩ := visible
  rw [Json.indent, String.toList_ofList]
  exact (scans_lineInside _ visible behind within).trans run

theorem visible_append {front : List Char} (behind : List Char)
    (visible : ∃ c rest, front = c :: rest ∧ isVisible c = true) :
    ∃ c rest, front ++ behind = c :: rest ∧ isVisible c = true := by
  obtain ⟨c, rest, rfl, visible⟩ := visible
  exact ⟨c, rest ++ behind, rfl, visible⟩

mutual
/-- The text of a value is read as the tokens of a value, and its brackets are closed behind it. -/
theorem scans_indented (blocks : List Columns) (level : Nat) (tail : List Char) (ends : EndsValue tail) :
    (value : Json) → (due : List Operator) → due.length + value.nesting ≤ greatestDepth →
    ∃ tokens, ValueTokens tokens ∧
      Scans ⟨false, blocks, due⟩ ((Json.indented Json.literal level value).toList ++ tail) tokens
        ⟨false, blocks, due⟩ tail
  | .null, _, _ => scans_literalWord "None" (by decide) (by decide) ends
  | .bool true, _, _ => scans_literalWord "True" (by decide) (by decide) ends
  | .bool false, _, _ => scans_literalWord "False" (by decide) (by decide) ends
  | .int value, _, _ => scans_numberText (numberText_int _ value) ends
  | .float value, _, _ => scans_numberText (numberText_render (Json.numberLayout "nan" "inf") value) ends
  | .str value, _, _ => by
      obtain ⟨c, rest, rfl, -, -, other⟩ := ends.exists_ends
      exact ⟨_, .atom rfl, scans_quoted .unicode value other rest⟩
  | .arr [], due, shallow => by
      have room : due.length < greatestDepth := by
        simp only [Json.nesting] at shallow
        omega
      have run : Scans ⟨false, blocks, due⟩ ('[' :: ']' :: tail) _ ⟨false, blocks, due⟩ tail :=
        (scans_openBracket room _).trans (scans_closeBracket tail)
      exact ⟨_, .noItems, by simpa [Json.indented, Json.Spelling.leaf] using run⟩
  | .arr (item :: rest), due, shallow => by
      simp only [Json.nesting, Json.nestingOfItems] at shallow
      have room : due.length < greatestDepth := by omega
      have line := endsValue_line ((Json.indent level).toList ++ ']' :: tail)
      obtain ⟨first, one, itemRun⟩ := scans_indented blocks (level + 1) _
        (endsValue_items (level + 1) rest line) item (.closeBracket :: due) (by simp; omega)
      obtain ⟨more, others, restRun⟩ := scans_indentedItems blocks (level + 1) _ line rest
        (.closeBracket :: due) (by simp) (by simp; omega)
      have within : Operator.closeBracket :: due ≠ [] := List.cons_ne_nil _ _
      have closing : Scans ⟨false, blocks, _⟩ _ _ ⟨false, blocks, due⟩ tail :=
        (scans_closeBracket tail).onNextLine within level ⟨']', tail, rfl, by decide⟩
      have inside := (itemRun.trans (restRun.trans closing)).onNextLine within (level + 1)
        (visible_append _ (exists_visible_indented (level + 1) item))
      have run := (scans_openBracket room _).trans inside
      exact ⟨_, .items one others, by simpa [Json.indented, String.toList_append] using run⟩
  | .obj [], due, shallow => by
      have room : due.length < greatestDepth := by
        simp only [Json.nesting] at shallow
        omega
      have run : Scans ⟨false, blocks, due⟩ ('\x7b' :: '\x7d' :: tail) _ ⟨false, blocks, due⟩ tail :=
        (scans_openBrace room _).trans (scans_closeBrace tail)
      exact ⟨_, .noFields, by simpa [Json.indented, Json.Spelling.leaf] using run⟩
  | .obj ((key, value) :: rest), due, shallow => by
      simp only [Json.nesting, Json.nestingOfFields] at shallow
      have room : due.length < greatestDepth := by omega
      have line := endsValue_line ((Json.indent level).toList ++ '\x7d' :: tail)
      obtain ⟨first, one, valueRun⟩ := scans_indented blocks (level + 1) _
        (endsValue_fields (level + 1) rest line) value (.closeBrace :: due) (by simp; omega)
      obtain ⟨more, others, restRun⟩ := scans_indentedFields blocks (level + 1) _ line rest
        (.closeBrace :: due) (by simp) (by simp; omega)
      have within : Operator.closeBrace :: due ≠ [] := List.cons_ne_nil _ _
      have closing : Scans ⟨false, blocks, _⟩ _ _ ⟨false, blocks, due⟩ tail :=
        (scans_closeBrace tail).onNextLine within level ⟨'\x7d', tail, rfl, by decide⟩
      have field := (scans_quoted .unicode key (by decide) _).trans ((scans_colon _).trans valueRun)
      have inside := (field.trans (restRun.trans closing)).onNextLine within (level + 1)
        (visible_append _ ⟨'"', _, toList_quoted .unicode key, by decide⟩)
      have run := (scans_openBrace room _).trans inside
      refine ⟨_, .fields one others, ?_⟩
      simpa [Json.indented, Json.literal, keyed, String.toList_append] using run

theorem scans_indentedItems (blocks : List Columns) (level : Nat) (tail : List Char)
    (ends : EndsValue tail) :
    (items : List Json) → (due : List Operator) →
    due ≠ [] → due.length + Json.nestingOfItems items ≤ greatestDepth →
    ∃ more : List (List Token), (∀ item ∈ more, ValueTokens item) ∧
      Scans ⟨false, blocks, due⟩ ((Json.indentedItems Json.literal level items).toList ++ tail)
        (behindCommas more) ⟨false, blocks, due⟩ tail
  | [], due, _, _ => ⟨[], by simp, by simpa [Json.indentedItems] using Scans.refl _ tail⟩
  | item :: rest, due, within, shallow => by
      simp only [Json.nestingOfItems] at shallow
      obtain ⟨first, one, itemRun⟩ := scans_indented blocks level _ (endsValue_items level rest ends) item
        due (by omega)
      obtain ⟨more, others, restRun⟩ := scans_indentedItems blocks level tail ends rest due
        within (by omega)
      have line := (itemRun.trans restRun).onNextLine within level
        (visible_append _ (exists_visible_indented level item))
      have run := (scans_comma _).trans line
      refine ⟨first :: more, List.forall_mem_cons.mpr ⟨one, others⟩, ?_⟩
      simpa [Json.indentedItems, String.toList_append] using run

theorem scans_indentedFields (blocks : List Columns) (level : Nat) (tail : List Char)
    (ends : EndsValue tail) :
    (fields : List (String × Json)) → (due : List Operator) →
    due ≠ [] → due.length + Json.nestingOfFields fields ≤ greatestDepth →
    ∃ more : List (List Token), (∀ value ∈ more, ValueTokens value) ∧
      Scans ⟨false, blocks, due⟩ ((Json.indentedFields Json.literal level fields).toList ++ tail)
        (behindCommas (more.map keyed)) ⟨false, blocks, due⟩ tail
  | [], due, _, _ => ⟨[], by simp, by simpa [Json.indentedFields] using Scans.refl _ tail⟩
  | (key, value) :: rest, due, within, shallow => by
      simp only [Json.nestingOfFields] at shallow
      obtain ⟨first, one, valueRun⟩ := scans_indented blocks level _ (endsValue_fields level rest ends)
        value due (by omega)
      obtain ⟨more, others, restRun⟩ := scans_indentedFields blocks level tail ends rest due
        within (by omega)
      have field := (scans_quoted .unicode key (by decide) _).trans ((scans_colon _).trans valueRun)
      have line := (field.trans restRun).onNextLine within level
        (visible_append _ ⟨'"', _, toList_quoted .unicode key, by decide⟩)
      have run := (scans_comma _).trans line
      refine ⟨first :: more, List.forall_mem_cons.mpr ⟨one, others⟩, ?_⟩
      simpa [Json.indentedFields, Json.literal, keyed, String.toList_append] using run
end

end Python

end Registrar
