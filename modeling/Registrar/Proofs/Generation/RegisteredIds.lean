import Registrar.Proofs.Generation.PythonText
import Registrar.Proofs.Json.Parts
import Registrar.Proofs.Python.LiteralValues

/-!
# The ids under which Python modules register

The last line of a Python module registers its schema under the value of a text literal. The id is
written in visible ASCII characters there, so the value holds a pair of 16-bit units for a character
outside the basic plane. References to the id are written with all characters as they are, so their
values hold its code points. The two agree, and the module registers its own id, just when the id has
no character outside the plane.
-/

namespace Registrar

/-- The code points of a text. -/
def codePoints (text : String) : List Nat :=
  text.toList.map Char.toNat

namespace Python

/-- The last line of a module registers a schema under the value of a text literal. -/
def RegistersUnder (named : List Char → Option Nat) (content : String) (value : List Nat) : Prop :=
  ∃ before argument, content.toList =
      before ++ '\n' :: ("    register(".toList ++ argument ++ ['\n']) ∧ '\n' ∉ argument ∧
    literalValue? named argument = some (value, ", schema)".toList)

/-- A module holds a reference whose value is that of a text literal. -/
def HoldsReference (named : List Char → Option Nat) (content : String) (value : List Nat) : Prop :=
  ∃ before rest stop after, content.toList = before ++ "\"$ref\": ".toList ++ rest ∧
    stop ∈ [',', '\n'] ∧ literalValue? named rest = some (value, stop :: after)

variable {named : List Char → Option Nat}

/-- The value under which a module registers its schema is determined by its text. -/
theorem RegistersUnder.unique {content : String} {first second : List Nat}
    (one : RegistersUnder named content first) (other : RegistersUnder named content second) :
    first = second := by
  obtain ⟨_, argument, text, noEnd, value⟩ := one
  obtain ⟨_, argument', text', noEnd', value'⟩ := other
  have lineEnd {argument : List Char} (noEnd : '\n' ∉ argument) :
      '\n' ∉ "    register(".toList ++ argument := by
    rw [List.mem_append, not_or]
    exact ⟨by decide, noEnd⟩
  rw [text] at text'
  have whole (before argument : List Char) :
      before ++ '\n' :: ("    register(".toList ++ argument ++ ['\n']) =
        (before ++ '\n' :: ("    register(".toList ++ argument)) ++ ['\n'] := by
    simp
  rw [whole, whole] at text'
  have line := eq_of_append_cons_eq (lineEnd noEnd) (lineEnd noEnd') (List.append_cancel_right text')
  obtain rfl := List.append_cancel_left line
  rw [value] at value'
  exact (Prod.mk.inj (Option.some.inj value')).1

end Python

namespace Emission

open Python

variable {settings : Settings} {definition : Definition} {file : GeneratedFile}
  (emission : Emission settings definition file) (named : List Char → Option Nat)

/-- Lines behind a line end with a line. -/
theorem suffix_join {lines : List String} {text : List Char} (ends : ['\n'] <:+ text)
    (each : ∀ line ∈ lines, ['\n'] <:+ line.toList) : ['\n'] <:+ text ++ (String.join lines).toList := by
  induction lines generalizing text with
  | nil => simpa using ends
  | cons line lines ih =>
      obtain ⟨here, others⟩ := List.forall_mem_cons.mp each
      rw [String.join_cons, String.toList_append, ← List.append_assoc]
      exact ih (here.trans (List.suffix_append ..)) others

include emission in
/-- The registration of a Python module is its last line. -/
theorem exists_lastLine (python : settings.language = .python) :
    ∃ before, file.content.toList = before ++ '\n' :: ("    register(".toList ++
      ((quoted .ascii definition.id).toList ++ ", schema)".toList) ++ ['\n']) := by
  have lines : ['\n'] <:+ (Language.python.moduleHead
      ("\n".intercalate (emission.groups.map Language.python.importStatement))
      (Language.python.schemaText emission.schema)).toList ++
        (String.join ((emission.targets.map settings.className).map
          Language.python.registrationCall)).toList := by
    apply suffix_join
    · rw [Language.moduleHead, String.toList_append]
      exact List.IsSuffix.trans (by decide) (List.suffix_append ..)
    · rw [List.forall_mem_map]
      intro name _
      rw [Language.registrationCall, String.toList_append]
      exact List.IsSuffix.trans (by decide) (List.suffix_append ..)
  obtain ⟨before, whole⟩ := lines
  refine ⟨before, ?_⟩
  rw [emission.content, python, String.join_append, String.join_cons, String.join_nil]
  simp only [Language.moduleEnd, Language.ownRegistration, String.append_empty, String.toList_append,
    ← List.append_assoc, ← whole]
  simp

include emission in
/-- A Python module registers under the units of its id. -/
theorem registersUnder_units (python : settings.language = .python) :
    RegistersUnder named file.content (definition.id.toList.flatMap Quoted.units) := by
  obtain ⟨before, text⟩ := emission.exists_lastLine python
  refine ⟨before, _, text, ?_, ?_⟩
  · rw [List.mem_append, not_or]
    exact ⟨fun inside => absurd (visible_of_mem_quoted _ inside) (by decide), by decide⟩
  · exact literalValue?_quoted named .ascii definition.id (by decide) _

/-- A reference of the embedded schema is held by a Python module as its code points. -/
theorem holdsReference_codePoints (python : settings.language = .python) {nodes : List Json}
    (walked : walk emission.schema = .ok nodes) {node : Json} (member : node ∈ nodes) {target : String}
    (reference : readReference node = .ok (some (.id target))) :
    HoldsReference named file.content (codePoints target) := by
  obtain ⟨fields, rfl, found⟩ := readReference_eq_id_iff.mp reference
  have part := Json.isPart_of_mem_walk emission.schema walked member
  obtain ⟨level, inside⟩ := part.isInfix_indented Json.literal 0
  obtain ⟨stop, among, field⟩ := Json.infix_indented_field Json.literal (Json.mem_of_field? found) level
  have schema : (Language.python.schemaText emission.schema).toList <:+: file.content.toList := by
    rw [emission.content, python]
    simp only [Language.moduleHead, String.toList_append, List.append_assoc]
    apply List.IsInfix.trans _ (List.suffix_append ..).isInfix
    apply List.IsInfix.trans _ (List.suffix_append ..).isInfix
    exact (List.prefix_append ..).isInfix
  rw [Language.schemaText_eq] at schema
  obtain ⟨before, after, text⟩ := (field.trans inside).trans schema
  refine ⟨before, (quoted .unicode target).toList ++ stop :: after, stop, after, ?_, among, ?_⟩
  · have key : (Json.literal.quote "$ref").toList ++ ": ".toList = "\"$ref\": ".toList := by decide
    rw [← text, Json.fieldText, key]
    simp [Json.literal, Json.indented, Json.Spelling.leaf]
  · have points : target.toList.flatMap (writtenPoints .unicode) = codePoints target :=
      (List.map_eq_flatMap ..).symm
    rw [literalValue?_quoted named .unicode target (by rintro rfl; simp at among), points]

end Emission

open Python

variable {settings : Settings} {definition : Definition} {file : GeneratedFile}

/-- A Python module registers its schema under one value, which is its own id just when the id has no
character outside the basic plane. The references to the id in all Python modules hold the id itself, so
they name what is registered just then. -/
theorem registered_value_eq_id_iff (python : settings.language = .python)
    (generated : settings.fileOf definition = .ok file) (named : List Char → Option Nat) :
    ∃ value, (∀ other, RegistersUnder named file.content other ↔ other = value) ∧
      (value = codePoints definition.id ↔ ∀ c ∈ definition.id.toList, c.toNat < 0x10000) ∧
      ∀ user userFile schema nodes, settings.fileOf user = .ok userFile →
        user.embeddedSchema = .ok schema → walk schema = .ok nodes → ∀ node ∈ nodes,
          readReference node = .ok (some (.id (definition.id ++ "#"))) →
            HoldsReference named userFile.content (codePoints definition.id ++ codePoints "#") := by
  obtain ⟨emission⟩ := Emission.of_fileOf generated
  have registers := emission.registersUnder_units named python
  refine ⟨definition.id.toList.flatMap Quoted.units, ?_, flatMap_units_eq_iff _, ?_⟩
  · intro other
    constructor
    · exact fun other => other.unique registers
    · rintro rfl
      exact registers
  · intro user userFile schema nodes made embedded walked node member reference
    obtain ⟨emitted⟩ := Emission.of_fileOf made
    obtain rfl := Except.ok.inj (emitted.embedded.symm.trans embedded)
    have refers := emitted.holdsReference_codePoints named python walked member reference
    rw [codePoints, String.toList_append, List.map_append] at refers
    exact refers

theorem registered_value_eq_id_iff_for_two :
    let definition : Definition := ⟨"a.é", .obj [], []⟩
    let user : Definition := ⟨"a.C", .obj [("items", .obj [("$ref", .str "#/definitions/a.é")])], []⟩
    ∃ file userFile, Settings.standardPython.fileOf definition = .ok file ∧
      Settings.standardPython.fileOf user = .ok userFile ∧
      RegistersUnder (fun _ => none) file.content [0x61, 0x2E, 0xE9] ∧
      HoldsReference (fun _ => none) userFile.content [0x61, 0x2E, 0xE9, 0x23] := by
  intro definition user
  obtain ⟨file, generated⟩ := exists_eq_ok_of_isOk (x := Settings.standardPython.fileOf definition)
    (by decide +kernel)
  obtain ⟨userFile, made⟩ := exists_eq_ok_of_isOk (x := Settings.standardPython.fileOf user)
    (by decide +kernel)
  have embedded : user.embeddedSchema = .ok (.obj [("items", .obj [("$ref", .str "a.é#")])]) := by
    decide +kernel
  have walked : walk (.obj [("items", .obj [("$ref", .str "a.é#")])]) =
      .ok [.obj [("items", .obj [("$ref", .str "a.é#")])], .obj [("$ref", .str "a.é#")]] := by
    decide +kernel
  obtain ⟨value, registers, same, refers⟩ :=
    registered_value_eq_id_iff rfl generated fun _ => none
  have own : value = [0x61, 0x2E, 0xE9] := (same.mpr (by decide)).trans (by decide)
  have reference : readReference (.obj [("$ref", .str "a.é#")]) =
      .ok (some (.id (definition.id ++ "#"))) := by decide
  have points : codePoints definition.id ++ codePoints "#" = [0x61, 0x2E, 0xE9, 0x23] := by decide
  rw [points] at refers
  exact ⟨file, userFile, generated, made, (registers _).mpr own.symm,
    refers user userFile _ _ made embedded walked _ (by simp) reference⟩

/-- An id with a character outside the basic plane: its module registers under another value. -/
theorem registered_value_outside_plane :
    ∃ file, Settings.standardPython.fileOf ⟨"a.B😀", .obj [], []⟩ = .ok file ∧
      ∀ named, RegistersUnder named file.content [0x61, 0x2E, 0x42, 0xD83D, 0xDE00] ∧
        ¬ RegistersUnder named file.content (codePoints "a.B😀") := by
  obtain ⟨file, generated⟩ := exists_eq_ok_of_isOk
    (x := Settings.standardPython.fileOf ⟨"a.B😀", .obj [], []⟩) (by decide +kernel)
  obtain ⟨emission⟩ := Emission.of_fileOf generated
  refine ⟨file, generated, fun named => ?_⟩
  have registers := emission.registersUnder_units named rfl
  refine ⟨registers, fun other => ?_⟩
  exact absurd (other.unique registers) (by decide)

end Registrar
