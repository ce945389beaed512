import Registrar.Proofs.Json.Lines
import Registrar.Proofs.Text.Pieces

/-!
# Schemas in two languages

A schema is written on the same lines in both languages, with the same marks, numbers and quoted texts. Only
the words of constants and of numbers without digits differ, so one text is the other with these words
changed outside of quotes, and words of no other kind stand there.
-/

namespace Registrar

/-- The word that stands for a value in a language, if the value is a constant or a number without digits. -/
def Language.word? (language : Language) : Json → Option String
  | .null => some language.spelling.null
  | .bool true => some language.spelling.yes
  | .bool false => some language.spelling.no
  | .float .nan => some language.spelling.number.nan
  | .float (.infinity _) => some language.spelling.number.infinity
  | _ => none

/-- The words of JSON texts with those that stand for them in literals. -/
def literalWords : List (String × String) :=
  [("null", "None"), ("true", "True"), ("false", "False"), ("NaN", "nan"), ("Infinity", "inf")]

/-- A word of a JSON text as it is written in a literal. -/
def literalWord (word : List Char) : List Char :=
  ((literalWords.lookup (.ofList word)).map String.toList).getD word

theorem literalWord_of_isDigit {c : Char} {rest : List Char} (digit : c.isDigit = true) :
    literalWord (c :: rest) = c :: rest := by
  have absent : literalWords.lookup (.ofList (c :: rest)) = none := by
    rw [List.lookup_eq_none_iff]
    intro entry member
    have letters : ∀ entry ∈ literalWords, entry.1.toList.head?.map Char.isDigit ≠ some true := by decide
    rw [bne_iff_ne]
    intro same
    apply letters entry member
    rw [← same, String.toList_ofList, List.head?_cons, Option.map_some, digit]
  rw [literalWord, absent]
  rfl

theorem mapWord_of_isNumeral {piece : Piece} (numeral : piece.isNumeral = true) :
    piece.mapWord literalWord = piece := by
  cases piece with
  | word text =>
      cases text with
      | nil => cases numeral
      | cons c rest => exact congrArg Piece.word (literalWord_of_isDigit numeral)
  | _ => rfl

/-- Two texts have the same pieces, up to the words of literals, and the second has some identifiers. -/
def Respells (first second : List Char) (words : List String) : Prop :=
  ∃ pieces, CutInto first pieces ∧ CutInto second (pieces.map (Piece.mapWord literalWord)) ∧
    (pieces.map (Piece.mapWord literalWord)).filterMap Piece.identifier? = words.map String.toList

section Respells

variable {first second : List Char} {words : List String}

theorem Respells.append {third fourth : List Char} {others : List String}
    (front : Respells first second words) (behind : Respells third fourth others) (ends : EndsWord third)
    (ends' : EndsWord fourth) : Respells (first ++ third) (second ++ fourth) (words ++ others) := by
  obtain ⟨pieces, one, two, listed⟩ := front
  obtain ⟨pieces', three, four, listed'⟩ := behind
  refine ⟨pieces ++ pieces', one.append three ends, ?_, ?_⟩
  · rw [List.map_append]
    exact two.append four ends'
  · rw [List.map_append, List.filterMap_append, listed, listed', List.map_append]

theorem respells_nil : Respells [] [] [] :=
  ⟨[], cutInto_nil, cutInto_nil, rfl⟩

theorem Respells.behind_mark {c : Char} (mark : isMark c = true) (behind : Respells first second words) :
    Respells (c :: first) (c :: second) words := by
  obtain ⟨pieces, one, two, listed⟩ := behind
  exact ⟨.mark c :: pieces, one.behind_mark mark, two.behind_mark mark, listed⟩

theorem Respells.behind_marks {marks : List Char} (all : ∀ c ∈ marks, isMark c = true)
    (behind : Respells first second words) : Respells (marks ++ first) (marks ++ second) words := by
  induction marks with
  | nil => exact behind
  | cons c marks ih =>
      obtain ⟨here, others⟩ := List.forall_mem_cons.mp all
      exact (ih others).behind_mark here

theorem respells_marks {text : String} (all : ∀ c ∈ text.toList, isMark c = true) :
    Respells text.toList text.toList [] := by
  have whole := respells_nil.behind_marks all
  rwa [List.append_nil] at whole

theorem Respells.behind_quoted (text : String) (behind : Respells first second words) :
    Respells ((quoted .unicode text).toList ++ first) ((quoted .unicode text).toList ++ second) words := by
  obtain ⟨pieces, one, two, listed⟩ := behind
  exact ⟨_, one.behind_quoted .unicode text, two.behind_quoted .unicode text, listed⟩

/-- A word of a JSON text is changed into its literal. -/
theorem respells_word {word literal : String} (known : (word, literal) ∈ literalWords) :
    Respells word.toList literal.toList [literal] := by
  have facts : ∀ entry ∈ literalWords, (entry.1.toList ≠ [] ∧ ∀ c ∈ entry.1.toList, Python.isNameChar c) ∧
      (entry.2.toList ≠ [] ∧ ∀ c ∈ entry.2.toList, Python.isNameChar c) ∧
      literalWord entry.1.toList = entry.2.toList ∧
      (Piece.word entry.2.toList).identifier? = some entry.2.toList := by
    decide
  obtain ⟨⟨nonempty, names⟩, ⟨nonempty', names'⟩, changed, identifier⟩ := facts _ known
  refine ⟨[.word word.toList], cutInto_word nonempty names, ?_, ?_⟩
  · simpa only [List.map_cons, List.map_nil, Piece.mapWord, changed] using cutInto_word nonempty' names'
  · simp only [List.map_cons, List.map_nil, Piece.mapWord, changed, List.filterMap_cons, identifier,
      List.filterMap_nil]

/-- A number stays as it is and has no identifier. -/
theorem respells_number {text : List Char} (number : NumberText [] text) : Respells text text [] := by
  obtain ⟨pieces, cut, numerals⟩ := exists_pieces_number number
  have kept : pieces.map (Piece.mapWord literalWord) = pieces := by
    rw [List.map_congr_left fun piece member => mapWord_of_isNumeral (numerals piece member), List.map_id']
  refine ⟨pieces, cut, ?_, ?_⟩
  · rwa [kept]
  · rw [kept, List.map_nil, List.filterMap_eq_nil_iff]
    exact fun piece member => Piece.identifier?_of_isNumeral (numerals piece member)

/-- A text is respelled by changing its words outside of quotes. -/
theorem Respells.mapWords_eq {first second : String} (respelt : Respells first.toList second.toList words) :
    mapWords literalWord first = second := by
  obtain ⟨pieces, one, two, -⟩ := respelt
  rw [mapWords, one.piecesOf_eq, ← two.piecesOf_eq, flatMap_text_piecesOf, String.ofList_toList]

theorem Respells.identifiersOf_eq {first second : String}
    (respelt : Respells first.toList second.toList words) :
    identifiersOf second = words := by
  obtain ⟨pieces, -, two, listed⟩ := respelt
  rw [identifiersOf, two.piecesOf_eq, listed, List.map_map]
  simp

end Respells

theorem respells_float (value : Binary64) :
    Respells (Language.typescript.spelling.leaf (.float value)).toList
      (Language.python.spelling.leaf (.float value)).toList
      (Language.python.word? (.float value)).toList := by
  cases value with
  | nan => exact respells_word (by decide : ("NaN", "nan") ∈ _)
  | infinity negative =>
      have word : Respells "Infinity".toList "inf".toList ["inf"] := respells_word (by decide)
      cases negative with
      | false => exact word
      | true => exact word.behind_mark (by decide : isMark '-' = true)
  | finite negative mantissa exponent => exact respells_number (numberText_finite _ [] ..)

theorem respells_leaf (value : Json) :
    Respells (Language.typescript.spelling.leaf value).toList (Language.python.spelling.leaf value).toList
      (Language.python.word? value).toList := by
  cases value with
  | null => exact respells_word (by decide : ("null", "None") ∈ _)
  | bool value =>
      cases value with
      | true => exact respells_word (by decide : ("true", "True") ∈ _)
      | false => exact respells_word (by decide : ("false", "False") ∈ _)
  | int value => exact respells_number (numberText_int [] value)
  | float value => exact respells_float value
  | str text =>
      have whole := respells_nil.behind_quoted text
      rw [List.append_nil] at whole
      exact whole
  | arr items => exact respells_marks (by decide : ∀ c ∈ "[]".toList, isMark c = true)
  | obj fields => exact respells_marks (by decide : ∀ c ∈ "\x7b\x7d".toList, isMark c = true)

/-- The word of a literal that stands on a line. -/
def Json.LineContent.word? : Json.LineContent → Option String
  | .leaf value => Language.python.word? value
  | .mark .. => none

theorem respells_content (content : Json.LineContent) :
    Respells (content.text Language.typescript.spelling).toList (content.text Language.python.spelling).toList
      content.word?.toList := by
  cases content with
  | leaf value => exact respells_leaf value
  | mark c known =>
      have marks : ∀ c ∈ ['[', ']', '\x7b', '\x7d'], isMark c = true := by decide
      have whole := respells_nil.behind_mark (marks c known)
      simpa [Json.LineContent.text, Json.LineContent.word?] using whole

theorem respells_line (line : Json.Line) :
    Respells (line.text Language.typescript.spelling).toList (line.text Language.python.spelling).toList
      line.content.word?.toList := by
  obtain ⟨level, key?, content, comma⟩ := line
  have commas : ∀ comma, ∀ c ∈ (Json.commaText comma).toList, isMark c = true := by decide
  have blank : ∀ c ∈ (Json.indent level).toList, isMark c = true := by
    intro c member
    rw [Json.eq_of_mem_indent member]
    decide
  have ends : EndsWord (Json.commaText comma).toList := by
    cases comma with
    | false => exact endsWord_nil
    | true => exact endsWord_cons (by decide) []
  have behind := (respells_content content).append (respells_marks (commas comma)) ends ends
  rw [List.append_nil] at behind
  simp only [Json.Line.text, String.toList_append, List.append_assoc]
  apply Respells.behind_marks blank
  cases key? with
  | none => exact behind
  | some key =>
      simp only [Json.keyText, String.toList_append, List.append_assoc]
      exact (behind.behind_marks (by decide : ∀ c ∈ ": ".toList, isMark c = true)).behind_quoted key

theorem respells_lines (lines : List Json.Line) :
    Respells (Json.linesText Language.typescript.spelling lines).toList
      (Json.linesText Language.python.spelling lines).toList (lines.filterMap (·.content.word?)) := by
  induction lines with
  | nil => exact respells_nil
  | cons line rest ih =>
      have words : (line :: rest).filterMap (·.content.word?) =
          line.content.word?.toList ++ rest.filterMap (·.content.word?) := by
        rw [List.filterMap_cons]
        cases line.content.word? <;> rfl
      rw [words]
      cases rest with
      | nil => simpa [Json.linesText_singleton] using respells_line line
      | cons next rest =>
          have ends : isMark '\n' = true := by decide
          have behind := (respells_line line).append (ih.behind_mark ends) (endsWord_cons ends _)
            (endsWord_cons ends _)
          rw [← List.singleton_append, Json.linesText_append (by simp) (by simp),
            Json.linesText_append (by simp) (by simp), Json.linesText_singleton, Json.linesText_singleton]
          simpa using behind

/-- The schema of one language is that of the other with the words of literals. -/
theorem respells_schemaText (value : Json) :
    Respells (Language.typescript.schemaText value).toList (Language.python.schemaText value).toList
      ((Json.linesOf 0 none false value).filterMap (·.content.word?)) := by
  have lines := respells_lines (Json.linesOf 0 none false value)
  rwa [Json.linesText_linesOf, Json.linesText_linesOf, ← Language.schemaText_eq,
    ← Language.schemaText_eq] at lines

theorem fitsLine_of_word? {value : Json} {word : String} (spelt : Language.python.word? value = some word) :
    value.fitsLine = true := by
  cases value with
  | arr items => cases spelt
  | obj fields => cases spelt
  | _ => rfl

/-- The identifiers outside of quotes in a literal are the words of the parts of its value. -/
theorem mem_identifiersOf_iff {value : Json} {word : String} :
    word ∈ identifiersOf (Language.python.schemaText value) ↔
      ∃ part, part.IsPart value ∧ Language.python.word? part = some word := by
  rw [(respells_schemaText value).identifiersOf_eq, List.mem_filterMap]
  constructor
  · rintro ⟨⟨level, key?, content, comma⟩, member, spelt⟩
    cases content with
    | mark => cases spelt
    | leaf part =>
        have shown := List.mem_map_of_mem (f := Json.Line.content) member
        exact ⟨part, ((Json.showsParts value part 0 none false).mp shown).2, spelt⟩
  · rintro ⟨part, inside, spelt⟩
    have shown := (Json.showsParts value part 0 none false).mpr ⟨fitsLine_of_word? spelt, inside⟩
    obtain ⟨line, member, same⟩ := List.mem_map.mp shown
    exact ⟨line, member, by rw [same]; exact spelt⟩

/-- A line is made of visible characters. -/
theorem visible_line (language : Language) (line : Json.Line) :
    AllChars (' ' ≤ ·) (line.text language.spelling) := by
  obtain ⟨level, key?, content, comma⟩ := line
  have blank : AllChars (' ' ≤ ·) (Json.indent level) := by
    intro c member
    obtain rfl := Json.eq_of_mem_indent member
    decide
  have key : AllChars (' ' ≤ ·) (Json.keyText language.spelling key?) := by
    cases key? with
    | none => exact (by decide : AllChars (' ' ≤ ·) "")
    | some key =>
        have quote : AllChars (' ' ≤ ·) (language.spelling.quote key) := by
          cases language <;> exact visible_of_mem_quoted
        exact quote.append (by decide)
  have shown : AllChars (' ' ≤ ·) (content.text language.spelling) := by
    cases content with
    | leaf value => exact visible_leaf language value
    | mark c known =>
        have marks : ∀ c ∈ ['[', ']', '\x7b', '\x7d'], ' ' ≤ c := by decide
        simpa [AllChars, Json.LineContent.text] using marks c known
  have commas : AllChars (' ' ≤ ·) (Json.commaText comma) := by
    cases comma <;> decide
  exact ((blank.append key).append shown).append commas

/-- The lines of a schema are those of its value. -/
theorem splitOn_schemaText (language : Language) (value : Json) :
    (language.schemaText value).toList.splitOn '\n' =
      (Json.linesOf 0 none false value).map fun line => (line.text language.spelling).toList := by
  rw [Language.schemaText_eq, ← Json.linesText_linesOf, Json.linesText, String.toList_intercalate, List.map_map]
  apply List.splitOn_intercalate
  · intro text member inside
    obtain ⟨line, -, rfl⟩ := List.mem_map.mp member
    exact absurd (visible_line language line '\n' inside) (by decide)
  · simpa using Json.linesOf_ne_nil 0 none false value

theorem leaf_eq_iff {value : Json} :
    Language.python.spelling.leaf value = Language.typescript.spelling.leaf value ↔
      Language.python.word? value = none := by
  cases value with
  | null => exact iff_of_false (by decide) (by simp [Language.word?])
  | bool value => cases value <;> exact iff_of_false (by decide) (by simp [Language.word?])
  | float value =>
      cases value with
      | nan => exact iff_of_false (by decide) (by simp [Language.word?])
      | infinity negative => cases negative <;> exact iff_of_false (by decide) (by simp [Language.word?])
      | finite => exact iff_of_true rfl rfl
  | _ => exact iff_of_true rfl rfl

theorem line_text_eq_iff {line : Json.Line} :
    line.text Language.python.spelling = line.text Language.typescript.spelling ↔
      line.content.text Language.python.spelling = line.content.text Language.typescript.spelling := by
  have key : Json.keyText Language.python.spelling line.key? =
      Json.keyText Language.typescript.spelling line.key? := by
    cases line.key? <;> rfl
  rw [Json.Line.text, Json.Line.text, key]
  simp

/-- The texts of a value in both languages are the same just when no part of it is written as a word. -/
theorem schemaText_eq_iff {value : Json} :
    Language.python.schemaText value = Language.typescript.schemaText value ↔
      ∀ part, part.IsPart value → Language.python.word? part = none := by
  constructor
  · intro same part inside
    by_contra spelt
    obtain ⟨word, spelt'⟩ := Option.ne_none_iff_exists'.mp spelt
    have shown := (Json.showsParts value part 0 none false).mpr ⟨fitsLine_of_word? spelt', inside⟩
    obtain ⟨line, member, content⟩ := List.mem_map.mp shown
    have lines := splitOn_schemaText .python value
    rw [same, splitOn_schemaText] at lines
    have texts := String.toList_inj.mp (List.map_inj_left.mp lines line member)
    have leaf := line_text_eq_iff.mp texts.symm
    rw [content] at leaf
    exact spelt (leaf_eq_iff.mp leaf)
  · intro plain
    rw [Language.schemaText_eq, Language.schemaText_eq, ← Json.linesText_linesOf, ← Json.linesText_linesOf]
    have texts : (Json.linesOf 0 none false value).map (Json.Line.text Language.python.spelling) =
        (Json.linesOf 0 none false value).map (Json.Line.text Language.typescript.spelling) := by
      apply List.map_congr_left
      intro line member
      rw [line_text_eq_iff]
      cases content : line.content with
      | mark => rfl
      | leaf part =>
          have shown := List.mem_map_of_mem (f := Json.Line.content) member
          rw [content] at shown
          exact leaf_eq_iff.mpr (plain part ((Json.showsParts value part 0 none false).mp shown).2)
    rw [Json.linesText, Json.linesText, texts]

/-- The literal of a value in one language, written as the joined texts of its parts, is its indented text in
the other with the words of constants and of numbers without digits changed, none of them in quotes. So the
texts are the same just when no part of the value is written as such a word. Both stand on the same lines,
with the same levels, keys and commas, and with each part that fits on a line on a line of its own. -/
theorem schemaText_python_eq_mapWords (value : Json) :
    Language.python.schemaText value = value.joined Json.literal 0 ∧
      Language.python.schemaText value = mapWords literalWord (Language.typescript.schemaText value) ∧
      (Language.python.schemaText value = Language.typescript.schemaText value ↔
        ∀ part, part.IsPart value → Language.python.word? part = none) ∧
      ∃ lines : List Json.Line,
        (∀ part, .leaf part ∈ lines.map (·.content) ↔ part.fitsLine = true ∧ part.IsPart value) ∧
        ∀ language : Language, (language.schemaText value).toList.splitOn '\n' =
          lines.map fun line => (line.text language.spelling).toList := by
  refine ⟨rfl, (respells_schemaText value).mapWords_eq.symm, schemaText_eq_iff,
    Json.linesOf 0 none false value, fun part => Json.showsParts value part 0 none false,
    fun language => splitOn_schemaText language value⟩

end Registrar
