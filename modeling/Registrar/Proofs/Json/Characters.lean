import Registrar.Module
import Registrar.Proofs.Naming.ClassName
import Registrar.Proofs.Number.Numerals
import Registrar.Proofs.Text.Escaping

/-!
# The characters of printed values

The indented text of a value is made of the marks of lists and objects, of line ends and blanks, of the
texts of values without parts, and of quoted keys. What holds of the characters of all these holds of the
characters of the whole text.
-/

namespace Registrar

/-- A property that all characters of a text have. -/
def AllChars (P : Char → Prop) (text : String) : Prop :=
  ∀ c ∈ text.toList, P c

instance {P : Char → Prop} [DecidablePred P] (text : String) : Decidable (AllChars P text) :=
  inferInstanceAs (Decidable (∀ c ∈ text.toList, P c))

theorem AllChars.append {P : Char → Prop} {first second : String} (one : AllChars P first)
    (other : AllChars P second) : AllChars P (first ++ second) := by
  rw [AllChars, String.toList_append, List.forall_mem_append]
  exact ⟨one, other⟩

namespace Json

/-- What holds of the marks, the values without parts and the keys of a spelling. -/
structure SpeltWith (P : Char → Prop) (spelling : Spelling) : Prop where
  marks : ∀ c ∈ ['[', ']', '\x7b', '\x7d', ',', ':', ' ', '\n'], P c
  leaf : ∀ value, AllChars P (spelling.leaf value)
  quote : ∀ key, AllChars P (spelling.quote key)

variable {P : Char → Prop} {spelling : Spelling}

theorem SpeltWith.text (spelt : SpeltWith P spelling) {text : String}
    (marks : ∀ c ∈ text.toList, c ∈ ['[', ']', '\x7b', '\x7d', ',', ':', ' ', '\n']) :
    AllChars P text :=
  fun c member => spelt.marks c (marks c member)

theorem SpeltWith.indent (spelt : SpeltWith P spelling) (level : Nat) : AllChars P (indent level) := by
  apply spelt.text
  intro c member
  rw [eq_of_mem_indent member]
  decide

mutual
/-- What holds of the characters that values are spelt with holds of the indented text of a value. -/
theorem SpeltWith.indented (spelt : SpeltWith P spelling) (level : Nat) :
    (value : Json) → AllChars P (indented spelling level value)
  | .null => spelt.leaf .null
  | .bool value => spelt.leaf (.bool value)
  | .int value => spelt.leaf (.int value)
  | .float value => spelt.leaf (.float value)
  | .str value => spelt.leaf (.str value)
  | .arr [] => spelt.leaf (.arr [])
  | .arr (item :: rest) => by
      have opening : AllChars P "[\n" := spelt.text (by decide)
      have line : AllChars P "\n" := spelt.text (by decide)
      have closing : AllChars P "]" := spelt.text (by decide)
      simp only [Json.indented]
      exact (((((opening.append (spelt.indent _)).append (spelt.indented (level + 1) item)).append
        (spelt.indentedItems (level + 1) rest)).append line).append (spelt.indent _)).append closing
  | .obj [] => spelt.leaf (.obj [])
  | .obj ((key, value) :: rest) => by
      have opening : AllChars P "\x7b\n" := spelt.text (by decide)
      have colon : AllChars P ": " := spelt.text (by decide)
      have line : AllChars P "\n" := spelt.text (by decide)
      have closing : AllChars P "\x7d" := spelt.text (by decide)
      simp only [Json.indented]
      exact (((((((opening.append (spelt.indent _)).append (spelt.quote key)).append colon).append
        (spelt.indented (level + 1) value)).append (spelt.indentedFields (level + 1) rest)).append
        line).append (spelt.indent _)).append closing

theorem SpeltWith.indentedItems (spelt : SpeltWith P spelling) (level : Nat) :
    (items : List Json) → AllChars P (indentedItems spelling level items)
  | [] => by simp [AllChars, Json.indentedItems]
  | item :: rest => by
      have comma : AllChars P ",\n" := spelt.text (by decide)
      simp only [Json.indentedItems]
      exact ((comma.append (spelt.indent _)).append (spelt.indented level item)).append
        (spelt.indentedItems level rest)

theorem SpeltWith.indentedFields (spelt : SpeltWith P spelling) (level : Nat) :
    (fields : List (String × Json)) → AllChars P (indentedFields spelling level fields)
  | [] => by simp [AllChars, Json.indentedFields]
  | (key, value) :: rest => by
      have comma : AllChars P ",\n" := spelt.text (by decide)
      have colon : AllChars P ": " := spelt.text (by decide)
      simp only [Json.indentedFields]
      exact ((((comma.append (spelt.indent _)).append (spelt.quote key)).append colon).append
        (spelt.indented level value)).append (spelt.indentedFields level rest)
end

end Json

/-- The characters of generated texts: the end of a line, and all that are no control characters. -/
def isPrinted (c : Char) : Bool :=
  c == '\n' || ' ' ≤ c

theorem ne_of_isPrinted {c : Char} (printed : isPrinted c = true) : c ≠ '\r' ∧ c ≠ '\x00' := by
  constructor <;> rintro rfl <;> revert printed <;> decide

theorem isPrinted_of_isWordChar {c : Char} (part : isWordChar c = true) : isPrinted c = true := by
  simp only [isWordChar, Bool.or_eq_true, Bool.and_eq_true, decide_eq_true_eq] at part
  have visible : ' ' ≤ c := by
    rw [Char.le_def, UInt32.le_iff_toNat_le]
    change 32 ≤ c.toNat
    omega
  simp [isPrinted, visible]

theorem isPrinted_of_visible {text : String} (visible : AllChars (' ' ≤ ·) text) :
    AllChars (isPrinted · = true) text := by
  intro c member
  simp [isPrinted, visible c member]

theorem visible_number {words : List String} {text : String} (number : NumberText words text.toList)
    (visible : ∀ word ∈ words, AllChars (' ' ≤ ·) word) : AllChars (' ' ≤ ·) text := by
  intro c member
  rcases number.mem member with digit | mark | ⟨word, known, among⟩
  · obtain ⟨low, -⟩ := Char.isDigit_iff_toNat.mp digit
    rw [Char.le_def, UInt32.le_iff_toNat_le]
    change 48 ≤ c.toNat at low
    change 32 ≤ c.toNat
    omega
  · have marks : ∀ c ∈ ['.', 'e', '+', '-'], ' ' ≤ c := by decide
    exact marks c mark
  · exact visible word known c among

/-- The text of a value without parts is made of visible characters, in each language. -/
theorem visible_leaf (language : Language) (value : Json) :
    AllChars (' ' ≤ ·) (language.spelling.leaf value) := by
  cases value with
  | null => cases language <;> decide
  | bool value => cases value <;> cases language <;> decide
  | int value => exact visible_number (numberText_int [] value) (by simp)
  | float value =>
      have number := numberText_render language.spelling.number value
      exact visible_number number (by cases language <;> decide)
  | str value => cases language <;> exact visible_of_mem_quoted
  | arr items => exact (by decide : AllChars (' ' ≤ ·) "[]")
  | obj fields => exact (by decide : AllChars (' ' ≤ ·) "\x7b\x7d")

/-- Literals are written with characters that stay as they are in a source text. -/
theorem speltWith_literal : Json.SpeltWith (isPrinted · = true) Json.literal where
  marks := by decide
  leaf value := isPrinted_of_visible (visible_leaf .python value)
  quote _ := isPrinted_of_visible visible_of_mem_quoted

end Registrar
