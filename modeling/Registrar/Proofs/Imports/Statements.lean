import Registrar.Proofs.FirstOccurrences
import Registrar.Proofs.Generation.TypescriptText
import Registrar.Proofs.Imports.Grouping

/-!
# Statements for imports

The statements for a list of imports can be read off the list. There is one for each place that is imported
from, where the places first occur, and it takes the names that are imported from its place, where they first
occur. Places are compared as keys, so a place is written as it is first given.
-/

namespace Registrar

/-- The places of some imports, each where it first occurs. -/
def placesOf (imports : List Import) : List Json :=
  (imports.map (·.path)).eraseDupsBy Json.sameKey

/-- What some imports take from a place, each name where it first occurs. -/
def namesFrom (place : Json) (imports : List Import) : List Binding :=
  ((imports.filter fun imported => place.sameKey imported.path).map (·.binding)).eraseDups

/-- The groups that some imports should have: one for each place, with the names taken from there. -/
def groupsOf (imports : List Import) : List ImportGroup :=
  (placesOf imports).map fun place => ⟨place, namesFrom place imports⟩

/-- Two imports of the same name from places that are the same key. -/
def Import.same (first second : Import) : Bool :=
  first.path.sameKey second.path && first.binding = second.binding

theorem Import.same_iff {first second : Import} : first.same second = true ↔
    first.path.sameKey second.path = true ∧ first.binding = second.binding := by
  simp [Import.same]

variable {imports : List Import} {added : Import} {place : Json}

theorem placesOf_concat (imports : List Import) (added : Import) : placesOf (imports ++ [added]) =
    if ∃ place ∈ placesOf imports, added.path.sameKey place = true then placesOf imports
    else placesOf imports ++ [added.path] := by
  rw [placesOf, List.map_append, List.map_singleton, eraseDupsBy_concat]
  rfl

theorem namesFrom_concat (place : Json) (imports : List Import) (added : Import) :
    namesFrom place (imports ++ [added]) =
      if place.sameKey added.path then addBinding added.binding (namesFrom place imports)
      else namesFrom place imports := by
  rw [namesFrom, List.filter_append, List.map_append]
  split
  · rename_i here
    have taken : [added].filter (fun imported => place.sameKey imported.path) = [added] := by
      simpa using here
    rw [taken, List.map_singleton, eraseDups_concat, addBinding, namesFrom]
    simp only [List.mem_eraseDups]
  · rename_i elsewhere
    have left : [added].filter (fun imported => place.sameKey imported.path) = [] := by
      simpa using elsewhere
    rw [left, List.map_nil, List.append_nil, namesFrom]

theorem mem_namesFrom {binding : Binding} : binding ∈ namesFrom place imports ↔
    ∃ imported ∈ imports, place.sameKey imported.path = true ∧ imported.binding = binding := by
  simp [namesFrom, and_assoc]

theorem pairwise_placesOf (imports : List Import) :
    (placesOf imports).Pairwise fun first second => first.sameKey second = false := by
  have apart := pairwise_eraseDupsBy Json.sameKey (imports.map (·.path))
  exact apart.imp fun different => Json.sameKey_comm.trans different

theorem exists_mem_of_mem_placesOf (member : place ∈ placesOf imports) :
    ∃ imported ∈ imports, imported.path = place :=
  List.mem_map.mp (mem_of_mem_eraseDupsBy member)

/-- The place of an import is one of the places. -/
theorem exists_place (usable : ∀ imported ∈ imports, checkKey imported.path = .ok ()) {imported : Import}
    (member : imported ∈ imports) : ∃ place ∈ placesOf imports, imported.path.sameKey place = true := by
  apply exists_mem_eraseDupsBy _ (List.mem_map_of_mem member)
  rw [List.forall_mem_map]
  exact fun other inside => Json.sameKey_self (usable other inside)

/-- An import goes into the group of its place, wherever this stands. -/
theorem addImport_of_exists {groups : List ImportGroup}
    (apart : groups.Pairwise fun first second => first.path.sameKey second.path = false)
    (known : ∃ group ∈ groups, added.path.sameKey group.path = true) :
    addImport added groups = groups.map fun group =>
      if group.path.sameKey added.path then { group with names := addBinding added.binding group.names }
      else group := by
  induction groups with
  | nil => simp at known
  | cons group rest ih =>
      obtain ⟨here, later⟩ := List.pairwise_cons.mp apart
      rw [addImport, List.map_cons]
      split
      · rename_i same
        congr 1
        refine (List.map_id' rest).symm.trans (List.map_congr_left fun other member => ?_)
        rw [if_neg]
        rw [Json.sameKey_comm, ← Json.sameKey_congr same, here other member]
        exact Bool.false_ne_true
      · rename_i other
        congr 1
        apply ih later
        obtain ⟨found, member, same⟩ := known
        rcases List.mem_cons.mp member with rfl | inside
        · exact absurd (Json.sameKey_comm.trans same) other
        · exact ⟨found, inside, same⟩

theorem pairwise_groupsOf (imports : List Import) :
    (groupsOf imports).Pairwise fun first second => first.path.sameKey second.path = false :=
  List.pairwise_map.mpr (pairwise_placesOf imports)

/-- One more import changes the groups that a list should have as it changes groups. -/
theorem groupsOf_concat (usable : ∀ imported ∈ imports ++ [added], checkKey imported.path = .ok ()) :
    groupsOf (imports ++ [added]) = addImport added (groupsOf imports) := by
  rw [groupsOf, placesOf_concat]
  split
  · rename_i known
    rw [addImport_of_exists (pairwise_groupsOf imports), groupsOf, List.map_map]
    · apply List.map_congr_left
      intro place _
      rw [namesFrom_concat, Function.comp_apply]
      split <;> rfl
    · simpa [groupsOf] using known
  · rename_i new
    have elsewhere : ∀ place ∈ placesOf imports, place.sameKey added.path = false := by
      intro place member
      rw [Json.sameKey_comm, ← Bool.not_eq_true]
      exact fun same => new ⟨place, member, same⟩
    have own : added.path.sameKey added.path = true :=
      Json.sameKey_self (usable added (List.mem_append_right _ List.mem_cons_self))
    have unnamed : namesFrom added.path imports = [] := by
      rw [List.eq_nil_iff_forall_not_mem]
      intro binding named
      obtain ⟨imported, member, same, -⟩ := mem_namesFrom.mp named
      obtain ⟨place, among, alike⟩ :=
        exists_place (fun other inside => usable other (List.mem_append_left _ inside)) member
      exact new ⟨place, among, Json.sameKey_trans same alike⟩
    rw [addImport_of_forall (by simpa [groupsOf] using elsewhere), List.map_append, List.map_singleton,
      namesFrom_concat, if_pos own, unnamed, groupsOf]
    congr 1
    apply List.map_congr_left
    intro place member
    rw [namesFrom_concat, elsewhere place member, if_neg Bool.false_ne_true]

/-- Imports from places that can serve as keys have the groups that they should have. -/
theorem groupImports_eq (usable : ∀ imported ∈ imports, checkKey imported.path = .ok ()) :
    groupImports imports = .ok (groupsOf imports) := by
  induction imports using List.reverseRecOn with
  | nil => rfl
  | append_singleton rest last ih =>
      obtain ⟨before, here⟩ := List.forall_mem_append.mp usable
      have grouped := ih before
      rw [groupImports] at grouped ⊢
      rw [List.foldlM_append, grouped, groupsOf_concat usable]
      change (checkKey last.path >>= fun _ => .ok (addImport last (groupsOf rest))) >>= _ = _
      rw [here last List.mem_cons_self]
      rfl

theorem Import.same_trans {first second third : Import} (one : first.same second = true)
    (other : second.same third = true) : first.same third = true := by
  rw [same_iff] at one other ⊢
  exact ⟨Json.sameKey_trans one.1 other.1, one.2.trans other.2⟩

theorem Import.same_comm {first second : Import} : first.same second = second.same first := by
  rw [Bool.eq_iff_iff, same_iff, same_iff, Json.sameKey_comm]
  exact and_congr_right fun _ => eq_comm

/-- No import is written twice. -/
theorem pairwise_writtenImports (imports : List Import) :
    (writtenImports (groupsOf imports)).Pairwise fun first second => first.same second = false := by
  refine List.pairwise_flatMap.mpr ⟨?_, (pairwise_groupsOf imports).imp ?_⟩
  · rw [groupsOf, List.forall_mem_map]
    intro place _
    refine List.pairwise_map.mpr ((nodup_eraseDups _).imp fun different => ?_)
    rw [← Bool.not_eq_true, Import.same_iff]
    exact fun same => different same.2
  · intro group other apart first mine second theirs
    obtain ⟨binding, -, rfl⟩ := List.mem_map.mp mine
    obtain ⟨binding', -, rfl⟩ := List.mem_map.mp theirs
    rw [← Bool.not_eq_true, Import.same_iff, apart]
    exact fun same => Bool.false_ne_true same.1

/-- What is written is one of the imports. -/
theorem exists_import_of_written {written : Import} (member : written ∈ writtenImports (groupsOf imports)) :
    ∃ imported ∈ imports, written.same imported = true := by
  obtain ⟨group, among, place, named⟩ := mem_writtenImports.mp member
  obtain ⟨_, -, rfl⟩ := List.mem_map.mp among
  obtain ⟨imported, inside, same, binding⟩ := mem_namesFrom.mp named
  exact ⟨imported, inside, Import.same_iff.mpr ⟨place ▸ same, binding.symm⟩⟩

/-- Each import is written. -/
theorem exists_written (usable : ∀ imported ∈ imports, checkKey imported.path = .ok ()) {imported : Import}
    (member : imported ∈ imports) :
    ∃ written ∈ writtenImports (groupsOf imports), written.same imported = true := by
  obtain ⟨place, among, same⟩ := exists_place usable member
  have alike : place.sameKey imported.path = true := Json.sameKey_comm.trans same
  refine ⟨⟨place, imported.binding⟩, ?_, Import.same_iff.mpr ⟨alike, rfl⟩⟩
  exact mem_writtenImports.mpr ⟨⟨place, namesFrom place imports⟩, List.mem_map_of_mem among, rfl,
    mem_namesFrom.mpr ⟨imported, member, alike, rfl⟩⟩

/-- Of items no two of which fit, one fits if some item does. -/
theorem countP_eq_one {α : Type} {fits : α → Bool} {items : List α}
    (apart : items.Pairwise fun first second => fits first = true → fits second = false)
    (some : ∃ item ∈ items, fits item = true) : items.countP fits = 1 := by
  induction items with
  | nil => simp at some
  | cons head rest ih =>
      obtain ⟨alone, later⟩ := List.pairwise_cons.mp apart
      by_cases here : fits head = true
      · rw [List.countP_cons_of_pos here, List.countP_eq_zero.mpr]
        intro other member
        rw [alone other member here]
        exact Bool.false_ne_true
      · rw [List.countP_cons_of_neg here]
        apply ih later
        obtain ⟨item, member, fit⟩ := some
        rcases List.mem_cons.mp member with rfl | inside
        · exact absurd fit here
        · exact ⟨item, inside, fit⟩

theorem countP_writtenImports (usable : ∀ imported ∈ imports, checkKey imported.path = .ok ())
    {imported : Import} (member : imported ∈ imports) :
    (writtenImports (groupsOf imports)).countP (·.same imported) = 1 := by
  apply countP_eq_one _ (exists_written usable member)
  refine (pairwise_writtenImports imports).imp fun {first second} different one => ?_
  rw [← Bool.not_eq_true] at different ⊢
  exact fun other => different (Import.same_trans one (Import.same_comm.trans other))

/-- An import that is there already changes no group. -/
theorem groupsOf_again (usable : ∀ imported ∈ imports, checkKey imported.path = .ok ())
    (again : ∃ imported ∈ imports, imported.same added = true) :
    groupsOf (imports ++ [added]) = groupsOf imports := by
  obtain ⟨imported, member, same⟩ := again
  obtain ⟨alike, binding⟩ := Import.same_iff.mp same
  obtain ⟨place, among, here⟩ := exists_place usable member
  have known : added.path.sameKey place = true := (Json.sameKey_congr alike).symm.trans here
  rw [groupsOf, placesOf_concat, if_pos ⟨place, among, known⟩, groupsOf]
  apply List.map_congr_left
  intro other _
  rw [namesFrom_concat]
  split
  · rename_i same
    have named : added.binding ∈ namesFrom other imports :=
      mem_namesFrom.mpr ⟨imported, member, Json.sameKey_trans same (Json.sameKey_comm.trans alike), binding⟩
    rw [addBinding, if_pos named]
  · rfl

/-- A name and its new name that have no line end. -/
def Binding.OnOneLine (binding : Binding) : Prop :=
  '\n' ∉ binding.name.toList ∧ ∀ other, binding.localName = some other → '\n' ∉ other.toList

theorem Binding.OnOneLine.not_mem_text {binding : Binding} (line : binding.OnOneLine) :
    '\n' ∉ binding.text.toList := by
  unfold text
  split
  · exact line.1
  · exact line.1
  · rename_i other _ named
    rw [String.toList_append, String.toList_append, List.mem_append, List.mem_append]
    rintro ((name | word) | renamed)
    · exact line.1 name
    · exact absurd word (by decide)
    · exact line.2 other named renamed

/-- The lines for some imports in TypeScript are the statements. -/
theorem splitOn_statements (usable : ∀ imported ∈ imports, checkKey imported.path = .ok ())
    (some : imports ≠ []) (lines : ∀ imported ∈ imports, imported.binding.OnOneLine) :
    ("\n".intercalate ((groupsOf imports).map Language.typescript.importStatement)).toList.splitOn '\n' =
      (groupsOf imports).map fun group => (Language.typescript.importStatement group).toList := by
  rw [String.toList_intercalate, List.map_map]
  apply List.splitOn_intercalate
  · rw [List.forall_mem_map]
    intro group member
    obtain ⟨place, among, rfl⟩ := List.mem_map.mp member
    apply ImportGroup.not_mem_importStatement
    · obtain ⟨imported, inside, rfl⟩ := exists_mem_of_mem_placesOf among
      exact usable imported inside
    · intro binding named
      obtain ⟨imported, inside, -, rfl⟩ := mem_namesFrom.mp named
      exact (lines imported inside).not_mem_text
  · obtain ⟨imported, member⟩ := List.exists_mem_of_ne_nil _ some
    obtain ⟨place, among, -⟩ := exists_place usable member
    rw [groupsOf, ne_eq, List.map_eq_nil_iff, List.map_eq_nil_iff]
    exact List.ne_nil_of_mem among

/-- Imports from places that can serve as keys have one statement for each place, in the order in which the
places first occur, and it takes what is imported from its place, in the order of first occurrences. So what
is written are the imports, each once, no two statements have the same place, and nothing changes with an
added import that is there already. In TypeScript some imports of names without line ends have as many lines
as there are places. -/
theorem Language.importStatements_in_order (language : Language) (imports : List Import)
    (usable : ∀ imported ∈ imports, checkKey imported.path = .ok ()) :
    language.importStatements imports =
        .ok ("\n".intercalate ((groupsOf imports).map language.importStatement)) ∧
      (∀ imported ∈ imports, (writtenImports (groupsOf imports)).countP (·.same imported) = 1) ∧
      (∀ written ∈ writtenImports (groupsOf imports),
        ∃ imported ∈ imports, written.same imported = true) ∧
      (groupsOf imports).Pairwise (fun first second => first.path.sameKey second.path = false) ∧
      (∀ added, (∃ imported ∈ imports, imported.same added = true) →
        language.importStatements (imports ++ [added]) = language.importStatements imports) ∧
      (language = .typescript → imports ≠ [] → (∀ imported ∈ imports, imported.binding.OnOneLine) →
        ∃ text, language.importStatements imports = .ok text ∧
          (text.toList.splitOn '\n').length = (placesOf imports).length) := by
  have statements {others : List Import} (keys : ∀ imported ∈ others, checkKey imported.path = .ok ()) :
      language.importStatements others =
        .ok ("\n".intercalate ((groupsOf others).map language.importStatement)) := by
    rw [importStatements, groupImports_eq keys]
    rfl
  refine ⟨statements usable, fun _ => countP_writtenImports usable, fun _ => exists_import_of_written,
    pairwise_groupsOf imports, ?_, ?_⟩
  · intro added again
    obtain ⟨imported, member, same⟩ := again
    have key := Json.checkKey_of_sameKey (Import.same_iff.mp same).1 (usable imported member)
    have keys : ∀ other ∈ imports ++ [added], checkKey other.path = .ok () :=
      List.forall_mem_append.mpr ⟨usable, List.forall_mem_singleton.mpr key⟩
    rw [statements keys, statements usable, groupsOf_again usable ⟨imported, member, same⟩]
  · rintro rfl some lines
    refine ⟨_, statements usable, ?_⟩
    rw [splitOn_statements usable some lines, List.length_map, groupsOf, List.length_map]

/-- Imports from a text, from one and from what is the same key as one, with a name that is imported twice and
an alias that is empty. -/
theorem Language.importStatements_in_order_of_mixed_keys :
    let imports : List Import :=
      [⟨.str "a", ⟨"x", none⟩⟩, ⟨.int 1, ⟨"x", some "y"⟩⟩, ⟨.str "a", ⟨"z", some ""⟩⟩,
        ⟨.bool true, ⟨"x", some "y"⟩⟩, ⟨.float (.finite false 2 (-1)), ⟨"w", none⟩⟩, ⟨.float .nan, ⟨"x", none⟩⟩,
        ⟨.str "a", ⟨"x", none⟩⟩, ⟨.float .nan, ⟨"x", none⟩⟩]
    (∀ imported ∈ imports, checkKey imported.path = .ok ()) ∧
      Language.typescript.importStatements imports = .ok
        "import \x7b x, z \x7d from \"a\";\nimport \x7b x as y, w \x7d from 1;\nimport \x7b x \x7d from NaN;" ∧
      ∃ text, Language.typescript.importStatements imports = .ok text ∧
        (text.toList.splitOn '\n').length = 3 := by
  intro imports
  have usable : ∀ imported ∈ imports, checkKey imported.path = .ok () := by decide
  obtain ⟨written, -, -, -, -, lines⟩ := Language.typescript.importStatements_in_order imports usable
  have groups : (groupsOf imports).map Language.typescript.importStatement =
      ["import \x7b x, z \x7d from \"a\";", "import \x7b x as y, w \x7d from 1;",
        "import \x7b x \x7d from NaN;"] := by decide +kernel
  have plain : ∀ imported ∈ imports, imported.binding.OnOneLine := by
    simp [imports, Binding.OnOneLine]
  refine ⟨usable, ?_, ?_⟩
  · rw [written, groups]
    decide +kernel
  · obtain ⟨text, made, count⟩ := lines rfl (List.cons_ne_nil _ _) plain
    refine ⟨text, made, count.trans ?_⟩
    decide +kernel

end Registrar
