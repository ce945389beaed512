import Registrar.Proofs.Json.Characters
import Registrar.Proofs.Json.Parts

/-!
# Values line by line

An indented value stands on lines. Each has its level, a key if the value on it belongs to one, and behind
that a value that fits on the line, or the mark that begins or ends one that does not; a comma ends it if
there is a next item or field. None of this depends on the spelling, so the texts of a value in two spellings
agree line by line, up to the values without parts that stand on them.
-/

namespace Registrar

namespace Json

/-- Whether a value fits on a line, since there are no items or fields in it. -/
def fitsLine : Json → Bool
  | .arr items => items.isEmpty
  | .obj fields => fields.isEmpty
  | _ => true

/-- What holds of the values that fit on a line, and of a list or an object if it holds of its items or
fields, holds of every value. -/
theorem fitsLine_induction {motive : Json → Prop} (fits : ∀ value, value.fitsLine = true → motive value)
    (arr : ∀ item rest, motive item → (∀ other ∈ rest, motive other) → motive (.arr (item :: rest)))
    (obj : ∀ key value rest, motive value → (∀ field ∈ rest, motive field.2) →
      motive (.obj ((key, value) :: rest))) (value : Json) : motive value := by
  induction value using part_induction with
  | null => exact fits _ rfl
  | bool => exact fits _ rfl
  | int => exact fits _ rfl
  | float => exact fits _ rfl
  | str => exact fits _ rfl
  | arr items each =>
      cases items with
      | nil => exact fits _ rfl
      | cons item rest =>
          obtain ⟨here, others⟩ := List.forall_mem_cons.mp each
          exact arr item rest here others
  | obj fields each =>
      cases fields with
      | nil => exact fits _ rfl
      | cons field rest =>
          obtain ⟨here, others⟩ := List.forall_mem_cons.mp each
          exact obj field.1 field.2 rest here others

section Fits

variable {value : Json} (fits : value.fitsLine = true)

include fits

theorem isPart_iff_of_fitsLine {part : Json} : IsPart part value ↔ part = value := by
  cases value with
  | arr items =>
      obtain rfl : items = [] := by simpa [fitsLine] using fits
      simp
  | obj fields =>
      obtain rfl : fields = [] := by simpa [fitsLine] using fits
      simp
  | _ => simp

theorem indented_of_fitsLine (spelling : Spelling) (level : Nat) :
    value.indented spelling level = spelling.leaf value := by
  cases value with
  | arr items =>
      obtain rfl : items = [] := by simpa [fitsLine] using fits
      rfl
  | obj fields =>
      obtain rfl : fields = [] := by simpa [fitsLine] using fits
      rfl
  | _ => rfl

end Fits

/-- The indented text of a value is that of its parts joined, on each level. -/
def IsJoined (spelling : Spelling) (value : Json) : Prop :=
  ∀ level, value.indented spelling level = value.joined spelling level

section Joined

variable {spelling : Spelling}

theorem intercalate_joinedItems {item : Json} {rest : List Json} (here : item.IsJoined spelling)
    (others : ∀ other ∈ rest, other.IsJoined spelling) (level : Nat) :
    ",\n".intercalate (joinedItems spelling level (item :: rest)) =
      indent level ++ item.indented spelling level ++ indentedItems spelling level rest := by
  induction rest generalizing item with
  | nil => simp [joinedItems, indentedItems, here level]
  | cons next rest ih =>
      obtain ⟨there, others⟩ := List.forall_mem_cons.mp others
      have later := ih there others
      rw [joinedItems] at later ⊢
      rw [joinedItems, String.intercalate_cons_cons, later, indentedItems, here level]
      simp only [String.append_assoc]

theorem intercalate_joinedFields {key : String} {value : Json} {rest : List (String × Json)}
    (here : value.IsJoined spelling) (others : ∀ field ∈ rest, field.2.IsJoined spelling) (level : Nat) :
    ",\n".intercalate (joinedFields spelling level ((key, value) :: rest)) =
      indent level ++ spelling.quote key ++ ": " ++ value.indented spelling level ++
        indentedFields spelling level rest := by
  induction rest generalizing key value with
  | nil => simp [joinedFields, indentedFields, here level]
  | cons field rest ih =>
      obtain ⟨there, others⟩ := List.forall_mem_cons.mp others
      have later := @ih field.1 field.2 there others
      rw [joinedFields] at later ⊢
      rw [joinedFields, String.intercalate_cons_cons, later, indentedFields, here level]
      simp only [String.append_assoc]

/-- The marks between items and fields may as well be put between their texts as in front of each next one. -/
theorem isJoined (spelling : Spelling) (value : Json) : value.IsJoined spelling := by
  induction value using fitsLine_induction with
  | fits value fits =>
      intro level
      rw [indented_of_fitsLine fits]
      unfold joined
      split
      · cases fits
      · cases fits
      · rfl
  | arr item rest here others =>
      intro level
      rw [indented, joined, intercalate_joinedItems here others]
      simp only [String.append_assoc]
  | obj key value rest here others =>
      intro level
      rw [indented, joined, intercalate_joinedFields here others]
      simp only [String.append_assoc]

end Joined

end Json

/-- The literal of a value is its indented text in the spelling of the language. -/
theorem Language.schemaText_eq (language : Language) (value : Json) :
    language.schemaText value = value.indented language.spelling 0 := by
  cases language with
  | typescript => rfl
  | python => exact (Json.isJoined Json.literal value 0).symm

namespace Json

/-- What stands on a line behind its key: a value that fits on it, or the mark that begins or ends one that
does not. -/
inductive LineContent where
  | leaf (value : Json)
  | mark (c : Char) (known : c ∈ ['[', ']', '\x7b', '\x7d'])

/-- A line of an indented value. -/
structure Line where
  level : Nat
  key? : Option String
  content : LineContent
  comma : Bool

/-- The text of what stands on a line. -/
def LineContent.text (spelling : Spelling) : LineContent → String
  | .leaf value => spelling.leaf value
  | .mark c _ => String.singleton c

/-- The key of a value with the mark behind it, where there is a key. -/
def keyText (spelling : Spelling) : Option String → String
  | some key => spelling.quote key ++ ": "
  | none => ""

/-- The mark in front of a next item or field, where there is one. -/
def commaText (comma : Bool) : String :=
  if comma then "," else ""

/-- The text of a line, without its end. -/
def Line.text (spelling : Spelling) (line : Line) : String :=
  indent line.level ++ keyText spelling line.key? ++ line.content.text spelling ++ commaText line.comma

mutual
/-- The lines of a value. -/
def linesOf (level : Nat) (key? : Option String) (comma : Bool) : Json → List Line
  | .arr (item :: rest) =>
      ⟨level, key?, .mark '[' (by decide), false⟩ ::
        (linesOfItems (level + 1) (item :: rest) ++ [⟨level, none, .mark ']' (by decide), comma⟩])
  | .obj (field :: rest) =>
      ⟨level, key?, .mark '\x7b' (by decide), false⟩ ::
        (linesOfFields (level + 1) (field :: rest) ++ [⟨level, none, .mark '\x7d' (by decide), comma⟩])
  | value => [⟨level, key?, .leaf value, comma⟩]

/-- The lines of items, with a comma behind each but the last. -/
def linesOfItems (level : Nat) : List Json → List Line
  | [] => []
  | item :: rest => linesOf level none (!rest.isEmpty) item ++ linesOfItems level rest

/-- The lines of fields, with a comma behind each but the last. -/
def linesOfFields (level : Nat) : List (String × Json) → List Line
  | [] => []
  | (key, value) :: rest => linesOf level (some key) (!rest.isEmpty) value ++ linesOfFields level rest
end

theorem linesOf_of_fitsLine {value : Json} (fits : value.fitsLine = true) (level : Nat)
    (key? : Option String) (comma : Bool) :
    linesOf level key? comma value = [⟨level, key?, .leaf value, comma⟩] := by
  unfold linesOf
  split
  · cases fits
  · cases fits
  · rfl

theorem linesOf_ne_nil (level : Nat) (key? : Option String) (comma : Bool) (value : Json) :
    linesOf level key? comma value ≠ [] := by
  cases value using fitsLine_induction with
  | fits value fits => simp [linesOf_of_fitsLine fits]
  | arr => simp [linesOf]
  | obj => simp [linesOf]

/-- The text of some lines. -/
def linesText (spelling : Spelling) (lines : List Line) : String :=
  "\n".intercalate (lines.map (Line.text spelling))

section Lines

variable {spelling : Spelling}

theorem linesText_singleton (line : Line) : linesText spelling [line] = line.text spelling := by
  simp [linesText]

theorem linesText_append {first second : List Line} (nonempty : first ≠ []) (nonempty' : second ≠ []) :
    linesText spelling (first ++ second) =
      linesText spelling first ++ "\n" ++ linesText spelling second := by
  rw [linesText, List.map_append, String.intercalate_append_of_ne_nil (by simpa using nonempty)
    (by simpa using nonempty'), linesText, linesText]

/-- The lines between the marks of a list or an object. -/
theorem linesText_between {inside : List Line} (nonempty : inside ≠ []) (first last : Line) :
    linesText spelling (first :: (inside ++ [last])) =
      first.text spelling ++ "\n" ++ linesText spelling inside ++ "\n" ++ last.text spelling := by
  rw [← List.singleton_append, linesText_append (by simp) (by simp), linesText_append nonempty (by simp),
    linesText_singleton, linesText_singleton]
  simp only [String.append_assoc]

/-- The text of a value stands on its lines, behind the key and in front of the comma. -/
def IsLined (spelling : Spelling) (value : Json) : Prop :=
  ∀ level key? comma, linesText spelling (linesOf level key? comma value) =
    indent level ++ keyText spelling key? ++ value.indented spelling level ++ commaText comma

theorem linesText_linesOfItems {item : Json} {rest : List Json} (here : item.IsLined spelling)
    (others : ∀ other ∈ rest, other.IsLined spelling) (level : Nat) :
    linesText spelling (linesOfItems level (item :: rest)) =
      indent level ++ item.indented spelling level ++ indentedItems spelling level rest := by
  induction rest generalizing item with
  | nil =>
      rw [linesOfItems, linesOfItems, List.append_nil, here]
      simp [keyText, commaText, indentedItems]
  | cons next rest ih =>
      obtain ⟨there, others⟩ := List.forall_mem_cons.mp others
      have nonempty : linesOfItems level (next :: rest) ≠ [] := by
        simp [linesOfItems, linesOf_ne_nil]
      rw [linesOfItems, linesText_append (linesOf_ne_nil _ _ _ _) nonempty, here, ih there others,
        indentedItems]
      simp [keyText, commaText, String.append_assoc]

theorem linesText_linesOfFields {key : String} {value : Json} {rest : List (String × Json)}
    (here : value.IsLined spelling) (others : ∀ field ∈ rest, field.2.IsLined spelling) (level : Nat) :
    linesText spelling (linesOfFields level ((key, value) :: rest)) =
      indent level ++ spelling.quote key ++ ": " ++ value.indented spelling level ++
        indentedFields spelling level rest := by
  induction rest generalizing key value with
  | nil =>
      rw [linesOfFields, linesOfFields, List.append_nil, here]
      simp [keyText, commaText, indentedFields, String.append_assoc]
  | cons field rest ih =>
      obtain ⟨there, others⟩ := List.forall_mem_cons.mp others
      have nonempty : linesOfFields level (field :: rest) ≠ [] := by
        simp [linesOfFields, linesOf_ne_nil]
      rw [linesOfFields, linesText_append (linesOf_ne_nil _ _ _ _) nonempty, here,
        @ih field.1 field.2 there others, indentedFields]
      simp [keyText, commaText, String.append_assoc]

theorem isLined (spelling : Spelling) (value : Json) : value.IsLined spelling := by
  induction value using fitsLine_induction with
  | fits value fits =>
      intro level key? comma
      rw [linesOf_of_fitsLine fits, linesText_singleton, indented_of_fitsLine fits, Line.text,
        LineContent.text]
  | arr item rest here others =>
      intro level key? comma
      have nonempty : linesOfItems (level + 1) (item :: rest) ≠ [] := by
        simp [linesOfItems, linesOf_ne_nil]
      rw [linesOf, linesText_between nonempty, linesText_linesOfItems here others, indented]
      simp [Line.text, LineContent.text, keyText, commaText, String.append_assoc]
  | obj key value rest here others =>
      intro level key? comma
      have nonempty : linesOfFields (level + 1) ((key, value) :: rest) ≠ [] := by
        simp [linesOfFields, linesOf_ne_nil]
      rw [linesOf, linesText_between nonempty, linesText_linesOfFields here others, indented]
      simp [Line.text, LineContent.text, keyText, commaText, String.append_assoc]

/-- The lines of a value are those of its indented text. -/
theorem linesText_linesOf (spelling : Spelling) (value : Json) :
    linesText spelling (linesOf 0 none false value) = value.indented spelling 0 := by
  rw [isLined]
  simp [keyText, commaText, indent]

end Lines

/-- The values on the lines of a value are its parts that fit on a line. -/
def ShowsParts (value : Json) : Prop :=
  ∀ part level key? comma, .leaf part ∈ (linesOf level key? comma value).map (·.content) ↔
    part.fitsLine = true ∧ IsPart part value

theorem leaf_mem_linesOfItems {items : List Json} (each : ∀ item ∈ items, item.ShowsParts) (part : Json)
    (level : Nat) : .leaf part ∈ (linesOfItems level items).map (·.content) ↔
      part.fitsLine = true ∧ ∃ item ∈ items, IsPart part item := by
  induction items with
  | nil => simp [linesOfItems]
  | cons item rest ih =>
      obtain ⟨here, others⟩ := List.forall_mem_cons.mp each
      rw [linesOfItems, List.map_append, List.mem_append, here, ih others, ← and_or_left,
        List.exists_mem_cons_iff]

theorem leaf_mem_linesOfFields {fields : List (String × Json)}
    (each : ∀ field ∈ fields, field.2.ShowsParts) (part : Json) (level : Nat) :
    .leaf part ∈ (linesOfFields level fields).map (·.content) ↔
      part.fitsLine = true ∧ ∃ field ∈ fields, IsPart part field.2 := by
  induction fields with
  | nil => simp [linesOfFields]
  | cons field rest ih =>
      obtain ⟨here, others⟩ := List.forall_mem_cons.mp each
      rw [linesOfFields, List.map_append, List.mem_append, here, ih others, ← and_or_left,
        List.exists_mem_cons_iff]

theorem showsParts (value : Json) : value.ShowsParts := by
  induction value using fitsLine_induction with
  | fits value fits =>
      intro part level key? comma
      rw [linesOf_of_fitsLine fits, isPart_iff_of_fitsLine fits]
      simp only [List.map_cons, List.map_nil, List.mem_singleton, LineContent.leaf.injEq]
      constructor
      · rintro rfl
        exact ⟨fits, rfl⟩
      · exact And.right
  | arr item rest here others =>
      intro part level key? comma
      have itself (fits : part.fitsLine = true) : part ≠ .arr (item :: rest) := by
        rintro rfl
        cases fits
      rw [isPart_arr_iff, and_congr_right fun fits => or_iff_right (itself fits),
        ← leaf_mem_linesOfItems (List.forall_mem_cons.mpr ⟨here, others⟩) part (level + 1)]
      simp [linesOf]
  | obj key value rest here others =>
      intro part level key? comma
      have itself (fits : part.fitsLine = true) : part ≠ .obj ((key, value) :: rest) := by
        rintro rfl
        cases fits
      rw [isPart_obj_iff, and_congr_right fun fits => or_iff_right (itself fits),
        ← leaf_mem_linesOfFields (List.forall_mem_cons.mpr ⟨here, others⟩) part (level + 1)]
      simp [linesOf]

end Json

end Registrar
