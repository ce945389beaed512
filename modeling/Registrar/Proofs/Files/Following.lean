import Registrar.Proofs.Files.Route
import Mathlib.Data.List.Induction
import Mathlib.Tactic.ByContra

/-!
# Following plain routes

In a tree without links a plain route is followed name by name. It leads through the directories that
stand at its front as far as their names may be asked for, and what stands behind them decides: the route
ends there, is cut off by a file or by nothing, or has a name that is too long.
-/

namespace Registrar.Files

/-- A route that can be asked for: it is plain, no name of it is bad, and it is not too long. -/
structure Route.Askable (route : Route) : Prop where
  plain : route.Plain
  named : route.hasBadName = false
  short : route.text.utf8ByteSize ≤ Tree.greatestPath

/-- The routes on the way of a route can be asked for when it can. -/
theorem Route.Askable.of_append {root : String} {names more : List String} (nonempty : names ≠ [])
    (askable : Askable ⟨root, names ++ more⟩) : Askable ⟨root, names⟩ where
  plain := fun name member => askable.plain name (List.mem_append_left _ member)
  named := by
    have named := askable.named
    rw [hasBadName, List.any_append, Bool.or_eq_false_iff] at named
    exact named.1
  short := Nat.le_trans (text_size_le nonempty more) askable.short

namespace Tree

/-- Whether a name is short enough for an entry. -/
def fitsName (name : String) : Bool :=
  name.utf8ByteSize ≤ greatestName

/-- A tree without links in which each entry lies in a directory. -/
structure Sound (tree : Tree) : Prop where
  unlinked : ∀ place target, tree.node? place ≠ some (.link target)
  rooted : ∀ place name, tree.node? (place ++ [name]) ≠ none → tree.node? place = some .directory

variable {tree : Tree}

/-- A tree is sound if each of its entries is no link and lies in a directory. -/
theorem sound_of_entries (unlinked : ∀ entry ∈ tree.entries, ∀ target, entry.2 ≠ .link target)
    (rooted : ∀ entry ∈ tree.entries, tree.node? entry.1.dropLast = some .directory) : tree.Sound := by
  have entry_of_node (place : Place) (node : Node) (inside : place ≠ [])
      (found : tree.node? place = some node) :
      ∃ entry ∈ tree.entries, entry.1 = place ∧ entry.2 = node := by
    rw [node?, if_neg inside] at found
    obtain ⟨entry, first, rfl⟩ := Option.map_eq_some_iff.mp found
    exact ⟨entry, List.mem_of_find?_eq_some first, by simpa using List.find?_some first, rfl⟩
  constructor
  · intro place target found
    by_cases inside : place = []
    · rw [inside] at found
      cases found
    · obtain ⟨entry, member, -, link⟩ := entry_of_node place (.link target) inside found
      exact unlinked entry member target link
  · intro place name found
    obtain ⟨node, stands⟩ := Option.ne_none_iff_exists'.mp found
    obtain ⟨entry, member, here, -⟩ := entry_of_node (place ++ [name]) node (by simp) stands
    have above := rooted entry member
    rwa [here, List.dropLast_concat] at above

/-- What stands behind some names stands behind directories. -/
theorem Sound.directory_above (sound : tree.Sound) {place names : Place} (behind : names ≠ [])
    (found : tree.node? (place ++ names) ≠ none) : tree.node? place = some .directory := by
  induction names using List.reverseRecOn with
  | nil => exact absurd rfl behind
  | append_singleton init last ih =>
      rw [← List.append_assoc] at found
      have above := sound.rooted _ last found
      cases init with
      | nil => simpa using above
      | cons name rest =>
          apply ih (List.cons_ne_nil name rest)
          simp [above]

/-- Where nothing stands, nothing stands behind. -/
theorem Sound.none_below (sound : tree.Sound) {place names : Place}
    (missing : tree.node? place = none) : tree.node? (place ++ names) = none := by
  cases names with
  | nil => simpa using missing
  | cons name rest =>
      by_contra found
      have above := sound.directory_above (List.cons_ne_nil name rest) found
      rw [missing] at above
      cases above

/-- Each place is a place of directories with names behind it, of which the first is no directory's. -/
theorem exists_standing (tree : Tree) (place names : Place)
    (standing : tree.node? place = some .directory) :
    ∃ more missing, names = more ++ missing ∧ tree.node? (place ++ more) = some .directory ∧
      ∀ name rest, missing = name :: rest → tree.node? (place ++ more ++ [name]) ≠ some .directory := by
  induction names generalizing place with
  | nil => exact ⟨[], [], rfl, by simpa using standing, by simp⟩
  | cons name rest ih =>
      by_cases next : tree.node? (place ++ [name]) = some .directory
      · obtain ⟨more, missing, rfl, reached, first⟩ := ih (place ++ [name]) next
        refine ⟨name :: more, missing, rfl, ?_, ?_⟩
        · simpa using reached
        · simpa using first
      · refine ⟨[], name :: rest, rfl, by simpa using standing, ?_⟩
        rintro _ _ ⟨⟩
        simpa using next

section Steps

variable {ending : Ending} {again : Place → List String → Except Trouble (Place × Option Node)}
  {place : Place} {name : String} {rest : List String}

/-- One step by a plain name that is no directory's name at the end of a way for writing. -/
theorem follow_step (here : PlainName name) (ordinary : ¬ (ending = .written ∧ rest = [""])) :
    follow tree ending again place (name :: rest) =
      if fitsName name then
        match tree.node? (place ++ [name]) with
        | none => if rest = [] then .ok (place ++ [name], none) else .error .missing
        | some .directory => follow tree ending again (place ++ [name]) rest
        | some (.file content) =>
            if rest = [] then .ok (place ++ [name], some (.file content)) else .error .notDirectory
        | some (.link target) =>
            if rest = [] ∧ ending = .taken then .ok (place ++ [name], some (.link target))
            else
              again (if target.toList.head? = some '/' then [] else place)
                (targetSteps target ++ rest)
      else .error .nameTooLong := by
  rw [follow, if_neg (by simp [here.1, here.2.1]), if_neg here.2.2, if_neg ordinary]
  by_cases fits : name.utf8ByteSize ≤ greatestName
  · have passed : fitsName name = true := by simpa [fitsName] using fits
    exact (if_neg (Nat.not_lt.mpr fits)).trans (if_pos passed).symm
  · rw [if_pos (Nat.lt_of_not_le fits), if_neg (by simpa [fitsName] using fits)]

/-- One step by a plain name, with plain names behind it. -/
theorem follow_cons (here : PlainName name) (later : ∀ other ∈ rest, PlainName other) :
    follow tree ending again place (name :: rest) =
      if fitsName name then
        match tree.node? (place ++ [name]) with
        | none => if rest = [] then .ok (place ++ [name], none) else .error .missing
        | some .directory => follow tree ending again (place ++ [name]) rest
        | some (.file content) =>
            if rest = [] then .ok (place ++ [name], some (.file content)) else .error .notDirectory
        | some (.link target) =>
            if rest = [] ∧ ending = .taken then .ok (place ++ [name], some (.link target))
            else
              again (if target.toList.head? = some '/' then [] else place)
                (targetSteps target ++ rest)
      else .error .nameTooLong := by
  apply follow_step here
  rintro ⟨-, rfl⟩
  exact (later "" List.mem_cons_self).1 rfl

/-- The directories at the front of a route are passed, unless one of their names is too long. -/
theorem follow_directories (sound : tree.Sound) {names : List String}
    (standing : tree.node? (place ++ names) = some .directory)
    (plain : ∀ other ∈ names ++ rest, PlainName other) :
    follow tree ending again place (names ++ rest) =
      if names.all fitsName then follow tree ending again (place ++ names) rest
      else .error .nameTooLong := by
  induction names generalizing place with
  | nil => simp
  | cons first names ih =>
      have whole : place ++ [first] ++ names = place ++ first :: names := by simp
      have here : tree.node? (place ++ [first]) = some .directory := by
        cases names with
        | nil => exact standing
        | cons second others =>
            rw [← whole] at standing
            apply sound.directory_above (List.cons_ne_nil second others)
            rw [standing]
            simp
      rw [List.cons_append] at plain ⊢
      rw [follow_cons (plain first List.mem_cons_self) fun other member =>
        plain other (List.mem_cons_of_mem _ member), here, List.all_cons]
      by_cases fits : fitsName first = true
      · rw [if_pos fits]
        simp only [fits, Bool.true_and]
        rw [ih (whole ▸ standing) fun other member => plain other (List.mem_cons_of_mem _ member),
          whole]
      · simp [fits]

end Steps

section Routes

variable {root : String} {standing : Place} {name : String} {rest : List String}

/-- A route that cannot be asked for because of a name leads nowhere. -/
theorem locate_badName {route : Route} (bad : route.hasBadName = true) (ending : Ending) :
    tree.locate ending route = .error .badName := by
  rw [locate, if_pos bad]

theorem locate_eq_follow {route : Route} (askable : route.Askable) (ending : Ending) :
    tree.locate ending route =
      follow tree ending (followLinks tree ending (greatestLinks - 1)) [] route.parts := by
  rw [locate, if_neg (by simp [askable.named]), if_neg (Nat.not_lt.mpr askable.short)]
  rfl

/-- A route is followed from behind the directories at its front. -/
theorem locate_append (sound : tree.Sound) (stands : tree.node? standing = some .directory)
    (askable : Route.Askable ⟨root, standing ++ rest⟩) (ending : Ending) :
    tree.locate ending ⟨root, standing ++ rest⟩ =
      if standing.all fitsName then
        follow tree ending (followLinks tree ending (greatestLinks - 1)) standing rest
      else .error .nameTooLong := by
  rw [locate_eq_follow askable, follow_directories sound (by simpa using stands) askable.plain,
    List.nil_append]

theorem locate_directory (sound : tree.Sound) (stands : tree.node? standing = some .directory)
    (fits : standing.all fitsName = true) (askable : Route.Askable ⟨root, standing⟩)
    (ending : Ending) : tree.locate ending ⟨root, standing⟩ = .ok (standing, some .directory) := by
  have whole : (⟨root, standing⟩ : Route) = ⟨root, standing ++ []⟩ := by rw [List.append_nil]
  rw [whole] at askable ⊢
  rw [locate_append sound stands askable, if_pos fits, follow]

/-- Behind the directories at the front of a route, the next name decides. -/
theorem locate_behind (sound : tree.Sound) (stands : tree.node? standing = some .directory)
    (fits : standing.all fitsName = true) (askable : Route.Askable ⟨root, standing ++ name :: rest⟩)
    (other : tree.node? (standing ++ [name]) ≠ some .directory) (ending : Ending) :
    tree.locate ending ⟨root, standing ++ name :: rest⟩ =
      if fitsName name then
        if rest = [] then .ok (standing ++ [name], tree.node? (standing ++ [name]))
        else .error (if tree.node? (standing ++ [name]) = none then .missing else .notDirectory)
      else .error .nameTooLong := by
  have plain : ∀ other ∈ name :: rest, PlainName other := fun other member =>
    askable.plain other (List.mem_append_right _ member)
  rw [locate_append sound stands askable, if_pos fits, follow_cons (plain name List.mem_cons_self)
    fun other member => plain other (List.mem_cons_of_mem _ member)]
  cases found : tree.node? (standing ++ [name]) with
  | none => simp
  | some node =>
      cases node with
      | directory => exact absurd found other
      | file content => simp
      | link target => exact absurd found (sound.unlinked _ target)

/-- Only the directories on the way decide whether a route is too long to be asked for. -/
theorem all_fitsName_of_exists? {answer : Bool} (sound : tree.Sound)
    (stands : tree.node? standing = some .directory) (askable : Route.Askable ⟨root, standing ++ rest⟩)
    (asked : tree.exists? ⟨root, standing ++ rest⟩ = .ok answer) : standing.all fitsName = true := by
  by_contra long
  rw [exists?, locate_append sound stands askable, if_neg long] at asked
  cases asked

/-- A route that goes on where nothing stands leads to nothing. -/
theorem exists?_of_none (sound : tree.Sound) (stands : tree.node? standing = some .directory)
    (fits : standing.all fitsName = true) (askable : Route.Askable ⟨root, standing ++ name :: rest⟩)
    (short : fitsName name = true) (free : tree.node? (standing ++ [name]) = none) :
    tree.exists? ⟨root, standing ++ name :: rest⟩ = .ok false := by
  rw [exists?, locate_behind sound stands fits askable (by simp [free]), if_pos short, free]
  by_cases last : rest = []
  · rw [if_pos last]
    rfl
  · rw [if_neg last]
    rfl

/-- Where a route leads to nothing, nothing stands at its place. -/
theorem node?_of_exists? {names : List String} (sound : tree.Sound)
    (askable : Route.Askable ⟨root, names⟩) (asked : tree.exists? ⟨root, names⟩ = .ok false) :
    tree.node? names = none := by
  by_contra found
  by_cases stands : tree.node? names = some .directory
  · have whole : (⟨root, names⟩ : Route) = ⟨root, names ++ []⟩ := by rw [List.append_nil]
    have fits := all_fitsName_of_exists? sound stands (whole ▸ askable) (whole ▸ asked)
    rw [exists?, locate_directory sound stands fits askable] at asked
    cases asked
  · rcases List.eq_nil_or_concat names with rfl | ⟨init, last, rfl⟩
    · exact stands rfl
    · rw [List.concat_eq_append] at askable asked found stands
      have above := sound.rooted init last found
      have fits := all_fitsName_of_exists? sound above askable asked
      rw [exists?, locate_behind sound above fits askable stands, if_pos rfl] at asked
      by_cases own : fitsName last = true
      · rw [if_pos own] at asked
        have nothing : (tree.node? (init ++ [last])).isSome = false := Except.ok.inj asked
        rw [Option.isSome_eq_false_iff, Option.isNone_iff_eq_none] at nothing
        exact found nothing
      · rw [if_neg own] at asked
        cases asked

end Routes

end Tree

end Registrar.Files
