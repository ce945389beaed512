import Registrar.Json.Basic
import Registrar.Number.Decimal
import Registrar.Text.Printable
import Registrar.Text.Quoted

/-!
# Texts of JSON values

A value is printed on one line or indented, in a spelling that fixes the words for the constants,
the layout of numbers and the quoting of texts. The order of keys is kept in every form.
-/

namespace Registrar

namespace Json

/-- The words and quotes of a printed form. -/
structure Spelling where
  null : String
  yes : String
  no : String
  number : Decimal.Layout
  quote : String → String

/-- The text of a value that is neither a list nor an object. -/
def Spelling.leaf (spelling : Spelling) : Json → String
  | .null => spelling.null
  | .bool true => spelling.yes
  | .bool false => spelling.no
  | .int value => toString value
  | .float value => value.render spelling.number
  | .str value => spelling.quote value
  | .arr _ => "[]"
  | .obj _ => "{}"

/-- Numbers with a positional form between `0.0001` and `10 ^ 16` and exponents of two digits. -/
def numberLayout (nan infinity : String) : Decimal.Layout where
  plainFrom := -4
  plainBelow := 16
  exponentWidth := 2
  nan := nan
  infinity := infinity

/-- The spelling of JSON texts, with the words `NaN` and `Infinity` for numbers without digits. -/
def standard (alphabet : Quoted.Alphabet) : Spelling where
  null := "null"
  yes := "true"
  no := "false"
  number := numberLayout "NaN" "Infinity"
  quote := quoted alphabet

/-- The marks between items and after keys of a value on one line. -/
structure Marks where
  comma : String
  colon : String

mutual
/-- A value on one line. -/
def inline (spelling : Spelling) (marks : Marks) : Json → String
  | .arr (item :: rest) =>
      "[" ++ inline spelling marks item ++ inlineItems spelling marks rest ++ "]"
  | .obj ((key, value) :: rest) =>
      "\x7b" ++ spelling.quote key ++ marks.colon ++ inline spelling marks value ++
        inlineFields spelling marks rest ++ "\x7d"
  | value => spelling.leaf value

/-- The items after the first one. -/
def inlineItems (spelling : Spelling) (marks : Marks) : List Json → String
  | [] => ""
  | item :: rest =>
      marks.comma ++ inline spelling marks item ++ inlineItems spelling marks rest

/-- The fields after the first one. -/
def inlineFields (spelling : Spelling) (marks : Marks) : List (String × Json) → String
  | [] => ""
  | (key, value) :: rest =>
      marks.comma ++ spelling.quote key ++ marks.colon ++ inline spelling marks value ++
        inlineFields spelling marks rest
end

/-- A JSON text without blanks in which every character from the space on stands for itself. -/
def compact (value : Json) : String :=
  inline (standard .unicode) ⟨",", ":"⟩ value

/-- A JSON text of visible ASCII characters with a blank after each mark. -/
def spaced (value : Json) : String :=
  inline (standard .ascii) ⟨", ", ": "⟩ value

/-- Two blanks for each level. -/
def indent (level : Nat) : String :=
  String.ofList (List.replicate (2 * level) ' ')

theorem eq_of_mem_indent {level : Nat} {c : Char} (member : c ∈ (indent level).toList) : c = ' ' := by
  rw [indent, String.toList_ofList] at member
  exact List.eq_of_mem_replicate member

mutual
/-- A value with each item and field on a line of its own. -/
def indented (spelling : Spelling) (level : Nat) : Json → String
  | .arr (item :: rest) =>
      "[\n" ++ indent (level + 1) ++ indented spelling (level + 1) item ++
        indentedItems spelling (level + 1) rest ++ "\n" ++ indent level ++ "]"
  | .obj ((key, value) :: rest) =>
      "\x7b\n" ++ indent (level + 1) ++ spelling.quote key ++ ": " ++
        indented spelling (level + 1) value ++ indentedFields spelling (level + 1) rest ++
        "\n" ++ indent level ++ "\x7d"
  | value => spelling.leaf value

/-- The lines of the items after the first one. -/
def indentedItems (spelling : Spelling) (level : Nat) : List Json → String
  | [] => ""
  | item :: rest =>
      ",\n" ++ indent level ++ indented spelling level item ++
        indentedItems spelling level rest

/-- The lines of the fields after the first one. -/
def indentedFields (spelling : Spelling) (level : Nat) : List (String × Json) → String
  | [] => ""
  | (key, value) :: rest =>
      ",\n" ++ indent level ++ spelling.quote key ++ ": " ++ indented spelling level value ++
        indentedFields spelling level rest
end

/-- A character inside the quotes of a message. -/
def shownChar (quote c : Char) : List Char :=
  if c = quote ∨ c = '\\' then ['\\', c]
  else if c = '\n' then ['\\', 'n']
  else if c = '\r' then ['\\', 'r']
  else if c = '\t' then ['\\', 't']
  else if isPrintable c then [c]
  else
    if c.toNat < 0x100 then '\\' :: 'x' :: Quoted.hexDigits 2 c.toNat
    else if c.toNat < 0x10000 then '\\' :: 'u' :: Quoted.hexDigits 4 c.toNat
    else '\\' :: 'U' :: Quoted.hexDigits 8 c.toNat

/-- A text in quotes as messages show it: single quotes, unless the text holds a single quote and
no double quote. -/
def shownText (text : String) : String :=
  let cs := text.toList
  let quote := if cs.contains '\'' && !cs.contains '"' then '"' else '\''
  String.ofList (quote :: (cs.flatMap (shownChar quote) ++ [quote]))

/-- The spelling of values in messages. -/
def messageSpelling : Spelling where
  null := "None"
  yes := "True"
  no := "False"
  number := numberLayout "nan" "inf"
  quote := shownText

/-- A value as messages show it, texts in quotes. -/
def shown (value : Json) : String :=
  inline messageSpelling ⟨", ", ": "⟩ value

/-- A value put into the middle of a text: a text as it is, any other value as messages show it. -/
def inserted : Json → String
  | .str value => value
  | value => value.shown

end Json

end Registrar
