import Registrar.Json.Reader
import Registrar.Proofs.Json.Parts
import Registrar.Proofs.Python.LiteralValues
import Registrar.Proofs.Python.Values
import Mathlib.Data.List.TakeWhile

/-!
# The values of literal expressions

A literal expression is a constant, a number with or without a sign, a text, or a list or a mapping of
literal expressions, with a comma behind each of them or between them. Reading one gives its value; a key
that is repeated keeps its first place and its last value. The text of a value is a literal expression, and
reading it gives the value back.

## Implementation notes

Words, numbers and texts are cut out by the scanner of source text. Comments and joined lines are not read.
The reader descends by fuel; every bracket and every comma takes a character, so twice the length of the text
is enough.
-/

namespace Registrar

/-- A number with the other sign. -/
def Binary64.negate : Binary64 → Binary64
  | .nan => .nan
  | .infinity negative => .infinity !negative
  | .finite negative mantissa exponent => .finite (!negative) mantissa exponent

namespace Python

/-- What is left behind blanks and ends of lines. Between brackets an end of a line is a blank. -/
def behindSpace (cs : List Char) : List Char :=
  cs.dropWhile fun c => isBlank c || c == '\n'

/-- The text with given code points, if each of them is that of a character. -/
def textOf? (points : List Nat) : Option String :=
  if points.all fun point => decide point.isValidChar then some (.ofList (points.map Char.ofNat)) else none

/-- The value of the text literal at the front of a text, and what follows it. -/
def text? (named : List Char → Option Nat) (cs : List Char) : Option (String × List Char) := do
  let (points, after) ← literalValue? named cs
  return (← textOf? points, after)

/-- The value of a numeral in decimal digits: a whole number, or a fraction rounded to binary64. -/
def numeralValue? (cs : List Char) : Option Json :=
  match Json.unsignedNumber? false cs with
  | some (value, []) => some value
  | _ => none

/-- The value of a number behind a minus sign. -/
def negated? : Json → Option Json
  | .int value => some (.int (-value))
  | .float value => some (.float value.negate)
  | _ => none

/-- The value of a numeral with or without a minus sign. -/
def signedValue? : List Char → Option Json
  | '-' :: cs => (numeralValue? cs).bind negated?
  | cs => numeralValue? cs

/-- The value of the constant, numeral or text literal at the front of a text, and what follows it. -/
def atom? (named : List Char → Option Nat) (cs : List Char) : Option (Json × List Char) :=
  match lexeme? cs with
  | some (.keyword .none_, after) => some (.null, after)
  | some (.keyword .true_, after) => some (.bool true, after)
  | some (.keyword .false_, after) => some (.bool false, after)
  | some (.number _, after) => (numeralValue? (cs.take (cs.length - after.length))).map (·, after)
  | some (.literal _ _, _) => (text? named cs).map fun (text, after) => (.str text, after)
  | _ => none

mutual
/-- The value of the literal expression at the front of a text, and what follows it. -/
def expression? (named : List Char → Option Nat) : Nat → List Char → Option (Json × List Char)
  | 0, _ => none
  | fuel + 1, cs =>
      match cs with
      | '[' :: rest => (items? named fuel rest).map fun (items, after) => (.arr items, after)
      | '\x7b' :: rest => (entries? named fuel [] rest).map fun (fields, after) => (.obj fields, after)
      | '-' :: rest => do
          let (value, after) ← expression? named fuel (rest.dropWhile isBlank)
          return (← negated? value, after)
      | _ => atom? named cs

/-- The values up to the closing bracket of a list. -/
def items? (named : List Char → Option Nat) : Nat → List Char → Option (List Json × List Char)
  | 0, _ => none
  | fuel + 1, cs =>
      match behindSpace cs with
      | ']' :: rest => some ([], rest)
      | inside => do
          let (item, after) ← expression? named fuel inside
          match behindSpace after with
          | ',' :: rest =>
              let (items, behind) ← items? named fuel rest
              return (item :: items, behind)
          | ']' :: rest => return ([item], rest)
          | _ => none

/-- The keys and values up to the closing brace of a mapping, added to those read before. -/
def entries? (named : List Char → Option Nat) : Nat → List (String × Json) → List Char →
    Option (List (String × Json) × List Char)
  | 0, _, _ => none
  | fuel + 1, before, cs =>
      match behindSpace cs with
      | '\x7d' :: rest => some (before, rest)
      | inside => do
          let (key, afterKey) ← text? named inside
          match behindSpace afterKey with
          | ':' :: afterColon =>
              let (value, after) ← expression? named fuel (behindSpace afterColon)
              let fields := Json.setField key value before
              match behindSpace after with
              | ',' :: rest => entries? named fuel fields rest
              | '\x7d' :: rest => return (fields, rest)
              | _ => none
          | _ => none
end

/-- The value of a text that is a literal expression on a logical line of its own. -/
def readLiteral? (named : List Char → Option Nat) (text : String) : Option Json :=
  let line := text.toList ++ ['\n']
  match expression? named (2 * line.length) line with
  | some (value, after) => if after.dropWhile isBlank = ['\n'] then some value else none
  | none => none

/-- Blanks, lines, a comma at the end and a repeated key. -/
example : readLiteral? (fun _ => none) "\x7b'a': [1, - 2.5,\n], \"b\":None,'a' :True,\x7d " =
    some (.obj [("a", .bool true), ("b", .null)]) := by
  decide +kernel

variable (named : List Char → Option Nat)

theorem wholeDigits?_of_isDigits {cs : List Char} (row : IsDigits cs) (led : NoLeadingZero cs) :
    Json.wholeDigits? cs = some (cs, []) := by
  obtain ⟨first, more, rfl⟩ := List.exists_cons_of_ne_nil row.nonempty
  by_cases zero : first = '0'
  · subst zero
    rw [led more rfl, Json.wholeDigits?]
  · have here := row.digits first List.mem_cons_self
    have all := List.takeWhile_eq_self_iff.mpr row.digits
    have none := List.dropWhile_eq_nil_iff.mpr row.digits
    rw [Json.wholeDigits?, if_pos here, Json.takeDigits, all, none]
    exact zero

/-- The digits of a whole number have it as their value. -/
theorem numeralValue?_toDigits (n : Nat) : numeralValue? (Nat.toDigits 10 n) = some (.int n) := by
  have value : Json.digitsValue (Nat.toDigits 10 n) = n := Nat.ofDigitChars_toDigits (by decide) (by decide)
  rw [numeralValue?, Json.unsignedNumber?,
    wholeDigits?_of_isDigits (isDigits_toDigits n) (noLeadingZero_toDigits n)]
  simp [Json.fractionDigits, Json.exponent?, value]

theorem exists_begin_of_numeral {cs : List Char} (number : Unsigned [] cs) :
    ∃ c rest, cs = c :: rest ∧ isPlainPart c = true := by
  apply exists_begin_of_unsigned
  cases number with
  | whole row led => exact .whole row led
  | fraction digits => exact .fraction digits
  | word known => cases known

theorem signedValue?_of_unsigned {cs : List Char} (number : Unsigned [] cs) :
    signedValue? cs = numeralValue? cs := by
  obtain ⟨c, rest, rfl, part⟩ := exists_begin_of_numeral number
  rw [signedValue?]
  rintro _ ⟨⟩
  revert part
  decide

/-- The text of a whole number has it as its value. -/
theorem signedValue?_int (n : Int) : signedValue? (toString n).toList = some (.int n) := by
  cases n with
  | ofNat m =>
      have digits : (toString (Int.ofNat m)).toList = Nat.toDigits 10 m := by
        simp [toString, Int.repr, Nat.repr]
      rw [digits, signedValue?_of_unsigned (.whole (isDigits_toDigits m) (noLeadingZero_toDigits m)),
        numeralValue?_toDigits]
      rfl
  | negSucc m =>
      have digits : (toString (Int.negSucc m)).toList = '-' :: Nat.toDigits 10 (m + 1) := by
        simp [toString, Int.repr, Nat.repr]
      rw [digits, signedValue?, numeralValue?_toDigits]
      rfl

theorem atom?_unsigned {cs : List Char} (number : Unsigned [] cs) {c : Char} (ends : endsNumber c = true)
    (rest : List Char) : atom? named (cs ++ c :: rest) = (numeralValue? cs).map (·, c :: rest) := by
  have read : lexeme? (cs ++ c :: rest) = some (.number false, c :: rest) := by
    cases number with
    | whole row led => exact lexeme?_whole row led ends rest
    | fraction digits => exact lexeme?_fractional digits ends rest
    | word known => cases known
  have front : (cs ++ c :: rest).take ((cs ++ c :: rest).length - (c :: rest).length) = cs := by
    rw [List.length_append, Nat.add_sub_cancel, List.take_left]
  simp only [atom?, read, front]

/-- Reading the text of a value gives the value, whatever follows the text but more of a value. -/
def ReadsBack (value : Json) : Prop :=
  ∀ level tail fuel, EndsValue tail → 2 * (value.indented Json.literal level).toList.length ≤ fuel →
    expression? named fuel ((value.indented Json.literal level).toList ++ tail) = some (value, tail)

theorem expression?_eq_atom? {c : Char} (begins : c ∉ ['[', '{', '-']) (fuel : Nat) (rest : List Char) :
    expression? named (fuel + 1) (c :: rest) = atom? named (c :: rest) := by
  simp only [List.mem_cons, List.not_mem_nil, or_false, not_or] at begins
  rw [expression?]
  · exact fun _ same => begins.1 (List.cons.inj same).1
  · exact fun _ same => begins.2.1 (List.cons.inj same).1
  · exact fun _ same => begins.2.2 (List.cons.inj same).1

theorem not_mem_of_isPlainPart {c : Char} (part : isPlainPart c = true) : c ∉ ['[', '{', '-'] := by
  have plain : ∀ c ∈ ['[', '{', '-'], isPlainPart c = false := by decide
  intro member
  rw [plain c member] at part
  exact Bool.false_ne_true part

theorem expression?_unsigned {cs : List Char} (number : Unsigned [] cs) {c : Char}
    (ends : endsNumber c = true) (rest : List Char) (fuel : Nat) :
    expression? named (fuel + 1) (cs ++ c :: rest) = (numeralValue? cs).map (·, c :: rest) := by
  rw [← atom?_unsigned named number ends rest]
  obtain ⟨first, more, rfl, part⟩ := exists_begin_of_numeral number
  exact expression?_eq_atom? named (not_mem_of_isPlainPart part) fuel _

/-- A number is read as it is written, in front of what may follow it. -/
theorem expression?_number {cs : List Char} (number : NumberText [] cs) {value : Json}
    (meaning : signedValue? cs = some value) {c : Char} (ends : endsNumber c = true) (rest : List Char)
    {fuel : Nat} (enough : 2 * cs.length ≤ fuel) :
    expression? named fuel (cs ++ c :: rest) = some (value, c :: rest) := by
  have nonempty : 1 ≤ cs.length := by
    cases number with
    | positive unsigned =>
        obtain ⟨_, _, rfl, -⟩ := exists_begin_of_numeral unsigned
        exact Nat.le_add_left 1 _
    | negative unsigned => exact Nat.le_add_left 1 _
  obtain ⟨steps, rfl⟩ : ∃ steps, fuel = steps + 2 := ⟨fuel - 2, by omega⟩
  cases number with
  | positive unsigned =>
      rw [signedValue?_of_unsigned unsigned] at meaning
      rw [expression?_unsigned named unsigned ends, meaning]
      rfl
  | @negative cs unsigned =>
      obtain ⟨size, read, negated⟩ := Option.bind_eq_some_iff.mp meaning
      have visible : (cs ++ c :: rest).dropWhile isBlank = cs ++ c :: rest := by
        obtain ⟨first, more, rfl, part⟩ := exists_begin_of_numeral unsigned
        obtain ⟨blank, -⟩ := ne_of_isVisible (isVisible_of_isPlainPart part)
        rw [List.cons_append, List.dropWhile_cons, blank]
        rfl
      rw [List.cons_append, expression?, visible, expression?_unsigned named unsigned ends, read]
      simp [negated]

theorem readsBack_word (word : String) {value : Json} (plain : isPlainWord word.toList = true)
    (text : ∀ level, value.indented Json.literal level = word)
    (meaning : ∀ cs after, lexeme? cs = some (.ofWord word.toList, after) →
      atom? named cs = some (value, after)) : ReadsBack named value := by
  intro level tail fuel ends enough
  obtain ⟨c, rest, rfl, ends, -, -⟩ := ends.exists_ends
  rw [text] at enough ⊢
  rw [← meaning _ _ (lexeme?_word plain ends rest)]
  cases cs : word.toList with
  | nil => simp [cs, isPlainWord] at plain
  | cons first more =>
      rw [cs] at plain enough
      obtain ⟨steps, rfl⟩ : ∃ steps, fuel = steps + 1 := ⟨fuel - 1, by simp at enough; omega⟩
      have part := (isPlainWord_cons plain).2 first List.mem_cons_self
      exact expression?_eq_atom? named (not_mem_of_isPlainPart part) steps _

/-- The code points of a text say the text. -/
theorem textOf?_toNat (cs : List Char) : textOf? (cs.map Char.toNat) = some (.ofList cs) := by
  have valid : (cs.map Char.toNat).all (fun point => decide point.isValidChar) = true := by
    rw [List.all_map, List.all_eq_true]
    exact fun c _ => decide_eq_true c.valid
  rw [textOf?, if_pos valid, List.map_map]
  have same : cs.map (Char.ofNat ∘ Char.toNat) = cs.map id :=
    List.map_congr_left fun c _ => Char.ofNat_toNat c
  rw [same, List.map_id]

/-- A written text is read as it is, whatever it holds. -/
theorem text?_quoted (text : String) {c : Char} (other : c ≠ '"') (rest : List Char) :
    text? named ((quoted .unicode text).toList ++ c :: rest) = some (text, c :: rest) := by
  have points : text.toList.flatMap (writtenPoints .unicode) = text.toList.map Char.toNat :=
    List.map_eq_flatMap.symm
  rw [text?, literalValue?_quoted named .unicode text other rest, points]
  simp [textOf?_toNat]

theorem readsBack_str (text : String) : ReadsBack named (.str text) := by
  intro level tail fuel ends enough
  obtain ⟨c, rest, rfl, -, -, other⟩ := ends.exists_ends
  have written : (Json.str text).indented Json.literal level = quoted .unicode text := by
    simp [Json.indented, Json.Spelling.leaf, Json.literal]
  have read : atom? named ((quoted .unicode text).toList ++ c :: rest) = some (.str text, c :: rest) := by
    rw [atom?, lexeme?_quoted .unicode text other rest]
    simp [text?_quoted named text other rest]
  rw [written] at enough ⊢
  rw [← read]
  rw [toList_quoted] at enough ⊢
  obtain ⟨steps, rfl⟩ : ∃ steps, fuel = steps + 1 := ⟨fuel - 1, by simp at enough; omega⟩
  exact expression?_eq_atom? named (by decide) steps _

theorem behindSpace_of_visible {cs : List Char} (visible : ∃ c rest, cs = c :: rest ∧ isVisible c = true) :
    behindSpace cs = cs := by
  obtain ⟨c, rest, rfl, visible⟩ := visible
  obtain ⟨blank, line, -⟩ := ne_of_isVisible visible
  rw [behindSpace, List.dropWhile_cons, blank]
  simp [line]

/-- An indented line is read from its first visible character on. -/
theorem behindSpace_line (level : Nat) {cs : List Char}
    (visible : ∃ c rest, cs = c :: rest ∧ isVisible c = true) :
    behindSpace ('\n' :: ((Json.indent level).toList ++ cs)) = cs := by
  have blanks : ∀ c ∈ '\n' :: (Json.indent level).toList, (isBlank c || c == '\n') = true := by
    refine List.forall_mem_cons.mpr ⟨by decide, ?_⟩
    intro c member
    rw [Json.eq_of_mem_indent member]
    decide
  have passed : behindSpace ('\n' :: (Json.indent level).toList ++ cs) = behindSpace cs :=
    List.dropWhile_append_of_pos blanks
  rw [← List.cons_append, passed, behindSpace_of_visible visible]

theorem atom?_mark {c : Char} (mark : c ∈ marks) {rest : List Char}
    (noNumeral : startsNumeral (c :: rest) = false) : atom? named (c :: rest) = none := by
  rw [atom?, lexeme?_mark mark noNumeral]
  cases operator? c rest <;> rfl

/-- No expression begins with a closing bracket. -/
theorem expression?_closing {c : Char} (closing : c ∈ [']', '\x7d']) (fuel : Nat) (rest : List Char) :
    expression? named fuel (c :: rest) = none := by
  have each : ∀ c ∈ [']', '\x7d'], c ∉ ['[', '\x7b', '-'] ∧ c ∈ marks ∧ c ≠ '.' ∧ c.isDigit = false := by
    decide
  obtain ⟨begins, mark, point, digit⟩ := each c closing
  cases fuel with
  | zero => rfl
  | succ fuel =>
      rw [expression?_eq_atom? named begins, atom?_mark named mark]
      rw [startsNumeral_cons point, digit]

section Lines

variable (level outer : Nat) {after tail : List Char}

/-- What stands behind the last item or entry is the closing bracket. -/
theorem behindSpace_closing {c : Char} (closing : c ∈ [']', '\x7d']) :
    behindSpace ('\n' :: ((Json.indent outer).toList ++ c :: tail)) = c :: tail := by
  have each : ∀ c ∈ [']', '\x7d'], isVisible c = true := by decide
  exact behindSpace_line outer ⟨c, tail, rfl, each c closing⟩

theorem behindSpace_mark {c : Char} (mark : c ∈ [',', ':']) : behindSpace (c :: after) = c :: after := by
  have each : ∀ c ∈ [',', ':'], isVisible c = true := by decide
  exact behindSpace_of_visible ⟨c, after, rfl, each c mark⟩

/-- An item on a line of its own is read, and then what stands behind its comma. -/
theorem items?_line {item : Json} (reads : ReadsBack named item) (ends : EndsValue after) {fuel : Nat}
    (enough : 2 * (item.indented Json.literal level).toList.length ≤ fuel) :
    items? named (fuel + 1) ('\n' :: ((Json.indent level).toList ++
      ((item.indented Json.literal level).toList ++ after))) =
        match behindSpace after with
        | ',' :: rest => (items? named fuel rest).map fun found => (item :: found.1, found.2)
        | ']' :: rest => some ([item], rest)
        | _ => none := by
  have read := reads level after fuel ends enough
  rw [items?, behindSpace_line level (visible_append _ (exists_visible_indented level item))]
  split
  · rename_i same
    rw [same, expression?_closing named (by simp)] at read
    cases read
  · rw [read]
    simp only [Option.bind_eq_bind, Option.bind_some, Option.pure_def]
    split
    · rw [Option.map_eq_bind]
      rfl
    · rfl
    · rfl

/-- The lines of the items of a list are read up to the closing bracket. -/
theorem items?_lines (tail : List Char) {item : Json} {rest : List Json}
    (reads : ∀ next ∈ item :: rest, ReadsBack named next)
    {fuel : Nat} (enough : 2 * ((item.indented Json.literal level).toList.length +
      (Json.indentedItems Json.literal level rest).toList.length) + 1 ≤ fuel) :
    items? named fuel ('\n' :: ((Json.indent level).toList ++ ((item.indented Json.literal level).toList ++
      ((Json.indentedItems Json.literal level rest).toList ++
        '\n' :: ((Json.indent outer).toList ++ ']' :: tail))))) = some (item :: rest, tail) := by
  induction rest generalizing item fuel with
  | nil =>
      obtain ⟨here, -⟩ := List.forall_mem_cons.mp reads
      obtain ⟨steps, rfl⟩ : ∃ steps, fuel = steps + 1 := ⟨fuel - 1, by omega⟩
      rw [items?_line named level here (endsValue_items level [] (endsValue_line _)) (by omega),
        Json.indentedItems, String.toList_empty, List.nil_append, behindSpace_closing outer (by simp)]
      rfl
  | cons next rest ih =>
      obtain ⟨here, others⟩ := List.forall_mem_cons.mp reads
      obtain ⟨steps, rfl⟩ : ∃ steps, fuel = steps + 1 := ⟨fuel - 1, by omega⟩
      have more : (Json.indentedItems Json.literal level (next :: rest)).toList =
          ',' :: '\n' :: ((Json.indent level).toList ++ ((next.indented Json.literal level).toList ++
            (Json.indentedItems Json.literal level rest).toList)) := by
        simp [Json.indentedItems, String.toList_append]
      rw [items?_line named level here (endsValue_items level (next :: rest) (endsValue_line _)) (by omega)]
      rw [more] at enough ⊢
      simp only [List.length_cons, List.length_append] at enough
      have later := ih others (by omega : _ ≤ steps)
      rw [List.cons_append, behindSpace_mark (by simp)]
      simp only [List.cons_append, List.append_assoc, later]
      rfl

theorem readsBack_arr {items : List Json} (reads : ∀ item ∈ items, ReadsBack named item) :
    ReadsBack named (.arr items) := by
  intro level tail fuel _ enough
  cases items with
  | nil =>
      have text : (Json.arr []).indented Json.literal level = "[]" := by
        simp [Json.indented, Json.Spelling.leaf]
      rw [text] at enough ⊢
      obtain ⟨steps, rfl⟩ : ∃ steps, fuel = steps + 2 := ⟨fuel - 2, by simp at enough; omega⟩
      rfl
  | cons item rest =>
      have text : ((Json.arr (item :: rest)).indented Json.literal level).toList =
          '[' :: '\n' :: ((Json.indent (level + 1)).toList ++
            ((item.indented Json.literal (level + 1)).toList ++
              ((Json.indentedItems Json.literal (level + 1) rest).toList ++
                '\n' :: ((Json.indent level).toList ++ [']'])))) := by
        simp [Json.indented, String.toList_append]
      rw [text] at enough ⊢
      simp only [List.length_cons, List.length_append] at enough
      obtain ⟨steps, rfl⟩ : ∃ steps, fuel = steps + 1 := ⟨fuel - 1, by omega⟩
      have inside := items?_lines named (level + 1) level tail reads (by omega : _ ≤ steps)
      simp only [List.cons_append, List.append_assoc, List.nil_append, expression?, inside]
      rfl

/-- The text of an entry, with what follows it. -/
theorem fieldText_append (key : String) (value : Json) :
    Json.fieldText Json.literal level key value ++ after = (quoted .unicode key).toList ++
      ':' :: ' ' :: ((value.indented Json.literal level).toList ++ after) := by
  simp [Json.fieldText, Json.literal]

/-- An entry with a new key on a line of its own is read, and then what stands behind its comma. -/
theorem entries?_line {before : List (String × Json)} {key : String} {value : Json}
    (absent : key ∉ before.map (·.1)) (reads : ReadsBack named value) (ends : EndsValue after) {fuel : Nat}
    (enough : 2 * (Json.fieldText Json.literal level key value).length ≤ fuel) :
    entries? named (fuel + 1) before ('\n' :: ((Json.indent level).toList ++
      (Json.fieldText Json.literal level key value ++ after))) =
        match behindSpace after with
        | ',' :: rest => entries? named fuel (before ++ [(key, value)]) rest
        | '\x7d' :: rest => some (before ++ [(key, value)], rest)
        | _ => none := by
  have shorter : (value.indented Json.literal level).toList.length ≤
      (Json.fieldText Json.literal level key value).length := by
    rw [Json.fieldText, List.length_append]
    exact Nat.le_add_left _ _
  have read := reads level after fuel ends (by omega)
  have visible := exists_visible_indented level value
  have opening : ∃ c rest, Json.fieldText Json.literal level key value ++ after = c :: rest ∧
      isVisible c = true := by
    rw [fieldText_append, toList_quoted]
    exact ⟨'"', _, rfl, by decide⟩
  rw [entries?, behindSpace_line level opening, fieldText_append]
  split
  · rename_i same
    rw [toList_quoted] at same
    cases same
  · have blank (cs : List Char) : behindSpace (' ' :: cs) = behindSpace cs := rfl
    rw [text?_quoted named key (by decide)]
    simp only [Option.bind_eq_bind, Option.bind_some, Option.pure_def]
    rw [behindSpace_mark (by simp)]
    simp only [blank, behindSpace_of_visible (visible_append _ visible), read, Option.bind_some,
      Json.setField_of_none (Json.field?_eq_none_iff.mpr absent)]

theorem not_mem_keys_of_nodup {before rest : List (String × Json)} {key : String} {value : Json}
    (distinct : ((before ++ (key, value) :: rest).map (·.1)).Nodup) : key ∉ before.map (·.1) := by
  rw [List.map_append, List.map_cons] at distinct
  exact fun member => (List.nodup_append.mp distinct).2.2 key member key List.mem_cons_self rfl

/-- The lines of the entries of a mapping are read up to the closing brace. -/
theorem entries?_lines (tail : List Char) {key : String} {value : Json} {rest : List (String × Json)}
    (reads : ∀ entry ∈ (key, value) :: rest, ReadsBack named entry.2) (before : List (String × Json))
    (distinct : ((before ++ (key, value) :: rest).map (·.1)).Nodup) {fuel : Nat}
    (enough : 2 * ((Json.fieldText Json.literal level key value).length +
      (Json.indentedFields Json.literal level rest).toList.length) + 1 ≤ fuel) :
    entries? named fuel before ('\n' :: ((Json.indent level).toList ++
      (Json.fieldText Json.literal level key value ++
        ((Json.indentedFields Json.literal level rest).toList ++
          '\n' :: ((Json.indent outer).toList ++ '\x7d' :: tail))))) =
      some (before ++ (key, value) :: rest, tail) := by
  induction rest generalizing key value before fuel with
  | nil =>
      have here : ReadsBack named value := reads (key, value) List.mem_cons_self
      obtain ⟨steps, rfl⟩ : ∃ steps, fuel = steps + 1 := ⟨fuel - 1, by omega⟩
      rw [entries?_line named level (not_mem_keys_of_nodup distinct) here
        (endsValue_fields level [] (endsValue_line _))
        (by omega), Json.indentedFields, String.toList_empty, List.nil_append,
        behindSpace_closing outer (by simp)]
      rfl
  | cons next rest ih =>
      have here : ReadsBack named value := reads (key, value) List.mem_cons_self
      obtain ⟨steps, rfl⟩ : ∃ steps, fuel = steps + 1 := ⟨fuel - 1, by omega⟩
      have more : (Json.indentedFields Json.literal level (next :: rest)).toList =
          ',' :: '\n' :: ((Json.indent level).toList ++ (Json.fieldText Json.literal level next.1 next.2 ++
            (Json.indentedFields Json.literal level rest).toList)) := by
        simp [Json.indentedFields, Json.fieldText, String.toList_append]
      rw [entries?_line named level (not_mem_keys_of_nodup distinct) here
        (endsValue_fields level (next :: rest) (endsValue_line _)) (by omega)]
      rw [more] at enough ⊢
      simp only [List.length_cons, List.length_append] at enough
      have later := ih (fun entry member => reads entry (List.mem_cons_of_mem _ member))
        (before ++ [(key, value)]) (by simpa using distinct) (by omega : _ ≤ steps)
      rw [List.cons_append, behindSpace_mark (by simp)]
      simp only [List.cons_append, List.append_assoc, List.nil_append] at later ⊢
      exact later

theorem readsBack_obj {fields : List (String × Json)} (distinct : (fields.map (·.1)).Nodup)
    (reads : ∀ entry ∈ fields, ReadsBack named entry.2) : ReadsBack named (.obj fields) := by
  intro level tail fuel _ enough
  cases fields with
  | nil =>
      have text : (Json.obj []).indented Json.literal level = "\x7b\x7d" := by
        simp [Json.indented, Json.Spelling.leaf]
      rw [text] at enough ⊢
      obtain ⟨steps, rfl⟩ : ∃ steps, fuel = steps + 2 := ⟨fuel - 2, by simp at enough; omega⟩
      rfl
  | cons entry rest =>
      obtain ⟨key, value⟩ := entry
      have text : ((Json.obj ((key, value) :: rest)).indented Json.literal level).toList =
          '\x7b' :: '\n' :: ((Json.indent (level + 1)).toList ++
            (Json.fieldText Json.literal (level + 1) key value ++
              ((Json.indentedFields Json.literal (level + 1) rest).toList ++
                '\n' :: ((Json.indent level).toList ++ ['\x7d'])))) := by
        simp [Json.indented, Json.fieldText, String.toList_append]
      rw [text] at enough ⊢
      simp only [List.length_cons, List.length_append] at enough
      obtain ⟨steps, rfl⟩ : ∃ steps, fuel = steps + 1 := ⟨fuel - 1, by omega⟩
      have inside := entries?_lines named (level + 1) level tail reads [] distinct (by omega : _ ≤ steps)
      simp only [List.cons_append, List.append_assoc, List.nil_append, expression?] at inside ⊢
      rw [inside]
      rfl

end Lines

/-- A value that is an ordered mapping wherever it is an object, and whose numbers can be read as they are
written. -/
structure IsWritable (value : Json) : Prop where
  distinct : ∀ fields, Json.IsPart (.obj fields) value → (fields.map (·.1)).Nodup
  finite : ∀ x, Json.IsPart (.float x) value → x.isFinite = true
  exact : ∀ x, Json.IsPart (.float x) value → x.isFinite = true →
    signedValue? (x.render (Json.numberLayout "nan" "inf")).toList = some (.float x)

theorem IsWritable.of_isPart {part value : Json} (writable : IsWritable value)
    (inside : Json.IsPart part value) : IsWritable part where
  distinct fields inner := writable.distinct fields (inner.trans inside)
  finite x inner := writable.finite x (inner.trans inside)
  exact x inner := writable.exact x (inner.trans inside)

theorem readsBack_int (n : Int) : ReadsBack named (.int n) := by
  intro level tail fuel ends enough
  obtain ⟨c, rest, rfl, -, ends, -⟩ := ends.exists_ends
  have text : (Json.int n).indented Json.literal level = toString n := by
    simp [Json.indented, Json.Spelling.leaf]
  rw [text] at enough ⊢
  exact expression?_number named (numberText_int [] n) (signedValue?_int n) ends rest enough

theorem readsBack_float {x : Binary64} (writable : IsWritable (.float x)) : ReadsBack named (.float x) := by
  intro level tail fuel ends enough
  obtain ⟨c, rest, rfl, -, ends, -⟩ := ends.exists_ends
  have finite := writable.finite x .refl
  have text : (Json.float x).indented Json.literal level = x.render (Json.numberLayout "nan" "inf") := by
    simp [Json.indented, Json.Spelling.leaf, Json.literal]
  rw [text] at enough ⊢
  have number : NumberText [] (x.render (Json.numberLayout "nan" "inf")).toList := by
    cases x with
    | finite negative mantissa exponent => exact numberText_finite _ _ negative mantissa exponent
    | _ => cases finite
  exact expression?_number named number (writable.exact x .refl finite) ends rest enough

/-- The text of a value is read as the value. -/
theorem readsBack {value : Json} (writable : IsWritable value) : ReadsBack named value := by
  induction value using Json.part_induction with
  | null =>
      exact readsBack_word named "None" (by decide)
        (fun _ => by simp [Json.indented, Json.Spelling.leaf, Json.literal])
        (fun _ _ read => by rw [atom?, read]; rfl)
  | bool value =>
      cases value with
      | true =>
          exact readsBack_word named "True" (by decide)
            (fun _ => by simp [Json.indented, Json.Spelling.leaf, Json.literal])
            (fun _ _ read => by rw [atom?, read]; rfl)
      | false =>
          exact readsBack_word named "False" (by decide)
            (fun _ => by simp [Json.indented, Json.Spelling.leaf, Json.literal])
            (fun _ _ read => by rw [atom?, read]; rfl)
  | int value => exact readsBack_int named value
  | float value => exact readsBack_float named writable
  | str text => exact readsBack_str named text
  | arr items ih =>
      exact readsBack_arr named fun item member => ih item member (writable.of_isPart (.item member .refl))
  | obj fields ih =>
      exact readsBack_obj named (writable.distinct fields .refl) fun field member =>
        ih field member (writable.of_isPart (.field member .refl))

/-- The literal of a value at any level, read as a literal expression, is the value again, with its keys in
their order and whatever characters its texts and keys hold. No object of the value has a key twice, and its
numbers are finite and can be read as they are written. -/
theorem readLiteral?_indented (value : Json) (level : Nat)
    (distinct : ∀ fields, Json.IsPart (.obj fields) value → (fields.map (·.1)).Nodup)
    (finite : ∀ x, Json.IsPart (.float x) value → x.isFinite = true)
    (exact : ∀ x, Json.IsPart (.float x) value → x.isFinite = true →
      signedValue? (x.render (Json.numberLayout "nan" "inf")).toList = some (.float x)) :
    readLiteral? named (value.indented Json.literal level) = some value := by
  have read := readsBack named ⟨distinct, finite, exact⟩ level ['\n']
    (2 * ((value.indented Json.literal level).toList ++ ['\n']).length) (endsValue_line [])
    (by rw [List.length_append]; omega)
  rw [readLiteral?, read]
  rfl

/-- A value with an empty list and an empty object, negative numbers and a fraction, whose key and text hold
quotes, a backslash, control characters, a line separator and a character outside the basic plane. -/
theorem readLiteral?_indented_of_characters :
    let value : Json := .obj
      [("a\"\\\u2028😀", .arr
          [.null, .bool true, .int (-3), .float (.ofDecimal true 25 (-1)), .arr [], .obj []]),
        ("b", .str "'\x00\x7f\r\n")]
    (∀ fields, Json.IsPart (.obj fields) value → (fields.map (·.1)).Nodup) ∧
      readLiteral? (fun _ => none) (value.indented Json.literal 3) = some value := by
  intro value
  have distinct : ∀ fields, Json.IsPart (.obj fields) value → (fields.map (·.1)).Nodup := by
    simp [value]
  have only : ∀ x, Json.IsPart (.float x) value → x = .ofDecimal true 25 (-1) := by
    simp [value]
  refine ⟨distinct, readLiteral?_indented _ value 3 distinct ?_ ?_⟩
  · intro x inside
    rw [only x inside]
    decide
  · intro x inside _
    rw [only x inside]
    decide +kernel

end Python

end Registrar
