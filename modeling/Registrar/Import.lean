import Registrar.Fault
import Registrar.Language

/-!
# Imports

A module imports names from other modules, and one statement takes all names that come from the
same place. Statements keep the order in which their places first occur, and so do the names in
each of them; a name that is imported twice under the same alias is written once.

The place that is imported from is a text wherever the generator chose it, but the registry's own
module is a setting and may be any value that can serve as a key.
-/

namespace Registrar

/-- An imported name, with the name it has in the importing module if that is another one. -/
structure Binding where
  name : String
  localName : Option String
  deriving DecidableEq, Repr

/-- A name and the place it is imported from. -/
structure Import where
  path : Json
  binding : Binding
  deriving DecidableEq, Repr

/-- All names imported from one place. -/
structure ImportGroup where
  path : Json
  names : List Binding
  deriving DecidableEq, Repr

/-- What a value is as a key. Numbers and flags with the same value are one key, whatever their kind. -/
inductive Key where
  | null
  | text (value : String)
  | number (value : Dyadic)
  | infinity (negative : Bool)
  /-- The reader of values has one NaN only, so all of them are one key. -/
  | nan
  deriving DecidableEq

/-- The key of a number. -/
def Binary64.key : Binary64 → Key
  | .nan => .nan
  | .infinity negative => .infinity negative
  | .finite negative mantissa exponent =>
      .number (.ofIntWithPrec (if negative then -(mantissa : Int) else mantissa) (-exponent))

/-- The key that a value is. Lists and objects are none. -/
def Json.key? : Json → Option Key
  | .null => some .null
  | .bool value => some (.number (.ofInt (if value then 1 else 0)))
  | .int value => some (.number (.ofInt value))
  | .float value => some value.key
  | .str value => some (.text value)
  | .arr _ => none
  | .obj _ => none

/-- Whether two values are the same key. -/
def Json.sameKey (a b : Json) : Bool :=
  a.key?.isSome && a.key? == b.key?

theorem Json.sameKey_iff {a b : Json} :
    a.sameKey b = true ↔ a.key?.isSome = true ∧ a.key? = b.key? := by
  simp [sameKey]

theorem Json.sameKey_str (s t : String) : Json.sameKey (.str s) (.str t) = (s == t) := by
  rw [Bool.eq_iff_iff, sameKey_iff]
  simp [key?]

theorem Json.sameKey_comm {a b : Json} : a.sameKey b = b.sameKey a := by
  have symmetric {a b : Json} (h : a.sameKey b = true) : b.sameKey a = true := by
    obtain ⟨usable, same⟩ := sameKey_iff.1 h
    exact sameKey_iff.2 ⟨same ▸ usable, same.symm⟩
  rw [Bool.eq_iff_iff]
  exact ⟨symmetric, symmetric⟩

theorem Json.sameKey_trans {a b c : Json} (first : a.sameKey b = true) (second : b.sameKey c = true) :
    a.sameKey c = true := by
  obtain ⟨usable, same⟩ := sameKey_iff.1 first
  exact sameKey_iff.2 ⟨usable, same.trans (sameKey_iff.1 second).2⟩

/-- Values that are one key are the same keys as others. -/
theorem Json.sameKey_congr {a b c : Json} (same : a.sameKey b = true) : a.sameKey c = b.sameKey c := by
  rw [Bool.eq_iff_iff]
  exact ⟨sameKey_trans (sameKey_comm ▸ same), sameKey_trans same⟩

/-- The key of a text is the key of nothing else. -/
theorem Json.eq_str_of_sameKey {a : Json} {s : String} (h : a.sameKey (.str s) = true) : a = .str s := by
  have same := (sameKey_iff.1 h).2
  cases a with
  | float value => cases value <;> simp [key?, Binary64.key] at same
  | _ => simp_all [key?]

/-- Put a name behind the others, unless it is there. -/
def addBinding (binding : Binding) (names : List Binding) : List Binding :=
  if binding ∈ names then names else names ++ [binding]

theorem mem_addBinding {binding other : Binding} {names : List Binding} :
    other ∈ addBinding binding names ↔ other = binding ∨ other ∈ names := by
  unfold addBinding
  split
  · constructor
    · exact Or.inr
    · rintro (rfl | h) <;> assumption
  · simp [or_comm]

/-- Put an import into the group of its place, or into a new one at the end. -/
def addImport (added : Import) : List ImportGroup → List ImportGroup
  | [] => [⟨added.path, [added.binding]⟩]
  | group :: rest =>
      if group.path.sameKey added.path then
        { group with names := addBinding added.binding group.names } :: rest
      else group :: addImport added rest

/-- A group that cannot take an import stays as it is. -/
theorem addImport_cons_of_not_sameKey {added : Import} {group : ImportGroup}
    (h : group.path.sameKey added.path = false) (rest : List ImportGroup) :
    addImport added (group :: rest) = group :: addImport added rest := by
  simp [addImport, h]

/-- Check that a value can serve as a key. -/
def checkKey (path : Json) : Except Fault Unit :=
  match path with
  | .arr _ => .error (.compoundKey path.kind)
  | .obj _ => .error (.compoundKey path.kind)
  | _ => .ok ()

theorem checkKey_eq_ok_iff {path : Json} : checkKey path = .ok () ↔ path.key?.isSome = true := by
  cases path <;> simp [checkKey, Json.key?]

theorem Json.sameKey_self {path : Json} (usable : checkKey path = .ok ()) : path.sameKey path = true :=
  sameKey_iff.2 ⟨checkKey_eq_ok_iff.1 usable, rfl⟩

theorem Json.checkKey_of_sameKey {a b : Json} (same : a.sameKey b = true) (usable : checkKey a = .ok ()) :
    checkKey b = .ok () := by
  rw [checkKey_eq_ok_iff] at usable ⊢
  rwa [← (sameKey_iff.1 same).2]

/-- The groups of a list of imports. -/
def groupImports (imports : List Import) : Except Fault (List ImportGroup) :=
  imports.foldlM (fun groups added => do
    checkKey added.path
    return addImport added groups) []

/-- An imported name with its alias. An empty alias is not written. -/
def Binding.text (binding : Binding) : String :=
  match binding.localName with
  | none | some "" => binding.name
  | some other => binding.name ++ " as " ++ other

namespace Language

/-- The statement that imports names from a place. -/
def importStatement (language : Language) (group : ImportGroup) : String :=
  let names := ", ".intercalate (group.names.map Binding.text)
  match language with
  | .typescript => "import \x7b " ++ names ++ " \x7d from " ++ group.path.spaced ++ ";"
  | .python => "from " ++ group.path.inserted ++ " import " ++ names

/-- The statements for a list of imports, one a line. -/
def importStatements (language : Language) (imports : List Import) : Except Fault String := do
  let groups ← groupImports imports
  return "\n".intercalate (groups.map language.importStatement)

end Language

end Registrar
