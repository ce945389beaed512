import Registrar.CommandLine.Run

/-!
# Routes without detours

A name is plain if it names an entry, and a route is plain if all its steps are. A route that an argument
of the command line names is plain: dots that stay in place are never kept, and the steps to the parent
are undone against the steps before them. A plain route goes from the root straight to its end.
-/

namespace Registrar

namespace Files

/-- A name that an entry can have: it does not stay in place and does not lead to the parent. -/
def PlainName (name : String) : Prop :=
  name ≠ "" ∧ name ≠ "." ∧ name ≠ ".."

instance (name : String) : Decidable (PlainName name) :=
  inferInstanceAs (Decidable (name ≠ "" ∧ name ≠ "." ∧ name ≠ ".."))

/-- A route all of whose steps name entries. -/
def Route.Plain (route : Route) : Prop :=
  ∀ name ∈ route.parts, PlainName name

instance (route : Route) : Decidable route.Plain :=
  inferInstanceAs (Decidable (∀ name ∈ route.parts, PlainName name))

theorem segments_append_slash {before after : List Char} (h : '/' ∉ before) :
    segments (before ++ '/' :: after) = before :: segments after := by
  induction before with
  | nil => simp [segments]
  | cons c rest ih =>
      rw [List.mem_cons, not_or] at h
      simp [segments, Ne.symm h.1, ih h.2]

theorem ne_of_mem_namesIn {text name : String} (member : name ∈ namesIn text) :
    name ≠ "" ∧ name ≠ "." := by
  have passed := (List.mem_filter.mp member).2
  simpa using passed

/-- Steps to the parent are gone when they are undone. -/
theorem plainName_of_mem_flattenFrom {place names : List String}
    (plain : ∀ name ∈ place, PlainName name) (named : ∀ name ∈ names, name ≠ "" ∧ name ≠ ".") :
    ∀ name ∈ Route.flattenFrom place names, PlainName name := by
  induction names generalizing place with
  | nil => exact plain
  | cons first rest ih =>
      have later : ∀ name ∈ rest, name ≠ "" ∧ name ≠ "." := fun name member =>
        named name (List.mem_cons_of_mem _ member)
      rw [Route.flattenFrom]
      split
      · apply ih _ later
        intro name member
        exact plain name (List.dropLast_subset place member)
      · rename_i ordinary
        apply ih _ later
        intro name member
        rcases List.mem_append.mp member with before | last
        · exact plain name before
        · rw [List.mem_singleton.mp last]
          have here := named first List.mem_cons_self
          exact ⟨here.1, here.2, ordinary⟩

theorem flattenFrom_of_plain {place names : List String} (plain : ∀ name ∈ names, PlainName name) :
    Route.flattenFrom place names = place ++ names := by
  induction names generalizing place with
  | nil => rw [Route.flattenFrom, List.append_nil]
  | cons first rest ih =>
      have here := plain first List.mem_cons_self
      have later : ∀ name ∈ rest, PlainName name := fun name member =>
        plain name (List.mem_cons_of_mem _ member)
      rw [Route.flattenFrom, if_neg here.2.2, ih later, List.append_assoc, List.singleton_append]

/-- A plain route has nothing to undo. -/
theorem Route.flatten_of_plain {route : Route} (plain : route.Plain) : route.flatten = route := by
  rw [flatten, flattenFrom_of_plain plain, List.nil_append]

/-- The text of a route is no shorter than that of a route on its way. -/
theorem Route.text_size_le {root : String} {names : List String} (nonempty : names ≠ [])
    (more : List String) :
    (Route.text ⟨root, names⟩).utf8ByteSize ≤ (Route.text ⟨root, names ++ more⟩).utf8ByteSize := by
  have whole : names ++ more ≠ [] := List.append_ne_nil_of_left_ne_nil nonempty more
  rw [text, text, if_neg (fun h => nonempty h.2), if_neg (fun h => whole h.2)]
  by_cases behind : more = []
  · exact Nat.le_of_eq (by rw [behind, List.append_nil])
  · rw [String.intercalate_append_of_ne_nil nonempty behind]
    simp only [String.utf8ByteSize_append]
    omega

end Files

namespace CommandLine

open Files

/-- An argument names a plain route, whatever the directory of the run is. -/
theorem resolve_plain (directory argument : String) :
    (resolve (.ofText directory) argument).Plain := by
  have named : ∀ name ∈ ((Route.ofText directory).append (.ofText argument)).parts,
      name ≠ "" ∧ name ≠ "." := by
    intro name member
    rw [Route.append] at member
    split at member
    · rcases List.mem_append.mp member with before | after
      · exact ne_of_mem_namesIn before
      · exact ne_of_mem_namesIn after
    · exact ne_of_mem_namesIn member
  exact plainName_of_mem_flattenFrom (by simp) named

end CommandLine

namespace Settings

open Files

variable (settings : Settings)

/-- The name of the file that is generated for a schema id. -/
def fileName (id : String) : String :=
  settings.className id ++ settings.language.extension

theorem schemaPath_eq (id : String) : settings.schemaPath id = "_schemas/" ++ settings.fileName id := by
  rw [schemaPath, Registrar.schemaPath, fileName, className, String.append_assoc]

theorem mem_fileName {id : String} {c : Char} (member : c ∈ (settings.fileName id).toList) :
    isWordChar c = true ∨ c = '.' := by
  rw [fileName, String.toList_append, List.mem_append] at member
  rcases member with word | ending
  · exact .inl (isWordChar_of_mem_className word)
  · have few : (settings.language.extension.toList.all fun c => isWordChar c || c == '.') = true := by
      cases settings.language <;> decide
    simpa using List.all_eq_true.mp few c ending

theorem plainName_fileName (id : String) : PlainName (settings.fileName id) := by
  have long : 3 ≤ (settings.fileName id).length := by
    have three : settings.language.extension.length = 3 := by
      cases settings.language <;> rfl
    rw [fileName, String.length_append, three]
    omega
  refine ⟨?_, ?_, ?_⟩ <;>
    · intro short
      rw [short] at long
      exact absurd long (by decide)

/-- The file for a schema id lies in the directory of schemas. -/
theorem ofText_schemaPath (id : String) :
    Route.ofText (settings.schemaPath id) = ⟨"", ["_schemas", settings.fileName id]⟩ := by
  have whole : (settings.schemaPath id).toList =
      "_schemas".toList ++ '/' :: (settings.fileName id).toList := by
    rw [schemaPath_eq, String.toList_append]
    rfl
  have unbroken : '/' ∉ (settings.fileName id).toList := by
    intro slash
    exact absurd (settings.mem_fileName slash) (by decide)
  have plain := settings.plainName_fileName id
  have names : namesIn (settings.schemaPath id) = ["_schemas", settings.fileName id] := by
    rw [namesIn, whole, segments_append_slash (by decide), segments_of_not_mem unbroken]
    simp only [List.map_cons, List.map_nil, String.ofList_toList]
    simp [plain.1, plain.2.1]
  rw [Route.ofText, names, whole]
  rfl

theorem fileName_no_null (id : String) : (settings.fileName id).toList.contains '\x00' = false := by
  rw [List.contains_eq_any_beq, List.any_eq_false]
  intro c member
  rcases settings.mem_fileName member with word | rfl
  · rintro null
    rw [← beq_iff_eq.mp null] at word
    exact absurd word (by decide)
  · decide

end Settings

end Registrar
