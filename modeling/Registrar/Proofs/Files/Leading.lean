import Registrar.Proofs.Files.Route

/-!
# Where routes lead

Before a file is written, directories are made for the names that are missing on the way. So a route leads
somewhere also when it cannot be followed yet: a missing name is taken for a directory. The places of the
links that are passed on the way are kept, and a later tree in which the same links and directories stand
is followed in the same way.

## Implementation notes

`Leads` bounds neither the links nor the lengths of names. A route that can be followed leads to the place
where it ends, and that is all that is asked of it.
-/

namespace Registrar.Files

namespace Tree

/-- What a file can be put over: nothing, a file, and a link if it is taken as it is. -/
def Ending.Covers (ending : Ending) : Option Node → Prop
  | none => True
  | some .directory => False
  | some (.file _) => True
  | some (.link _) => ending = .taken

/-- The place from which the target of a link is followed. -/
def linkStart (place : Place) (target : String) : Place :=
  if target.toList.head? = some '/' then [] else place

/-- Where steps lead from a place, if missing names are directories, with the links that are passed. -/
inductive Leads (tree : Tree) (ending : Ending) :
    Place → List String → List Place → Place → Prop
  | arrive (place : Place) : Leads tree ending place [] [] place
  | stay {place : Place} {name : String} {rest : List String} {links : List Place} {goal : Place}
      (idle : name = "" ∨ name = ".") (onward : Leads tree ending place rest links goal) :
      Leads tree ending place (name :: rest) links goal
  | up {place : Place} {rest : List String} {links : List Place} {goal : Place}
      (onward : Leads tree ending place.dropLast rest links goal) :
      Leads tree ending place (".." :: rest) links goal
  | down {place : Place} {name : String} {rest : List String} {links : List Place} {goal : Place}
      (plain : PlainName name)
      (passable : tree.node? (place ++ [name]) = none ∨
        tree.node? (place ++ [name]) = some .directory)
      (onward : Leads tree ending (place ++ [name]) rest links goal) :
      Leads tree ending place (name :: rest) links goal
  | file {place : Place} {name content : String} (plain : PlainName name)
      (found : tree.node? (place ++ [name]) = some (.file content)) :
      Leads tree ending place [name] [] (place ++ [name])
  | link {place : Place} {name target : String} (taken : ending = .taken) (plain : PlainName name)
      (found : tree.node? (place ++ [name]) = some (.link target)) :
      Leads tree ending place [name] [] (place ++ [name])
  | through {place : Place} {name target : String} {rest : List String} {links : List Place}
      {goal : Place} (plain : PlainName name)
      (found : tree.node? (place ++ [name]) = some (.link target))
      (followed : ¬ (rest = [] ∧ ending = .taken))
      (onward : Leads tree ending (linkStart place target) (targetSteps target ++ rest) links goal) :
      Leads tree ending place (name :: rest) ((place ++ [name]) :: links) goal

theorem not_plainName_parent : ¬ PlainName ".." :=
  fun plain => plain.2.2 rfl

theorem not_plainName_of_idle {name : String} (idle : name = "" ∨ name = ".") : ¬ PlainName name := by
  rintro ⟨named, moving, -⟩
  rcases idle with empty | dot
  · exact named empty
  · exact moving dot

section Leads

variable {tree : Tree} {ending : Ending} {place goal : Place} {steps : List String}
  {links : List Place}

/-- Steps lead to one place only, and past the same links. -/
theorem Leads.unique {others : List Place} {other : Place}
    (leads : tree.Leads ending place steps links goal)
    (again : tree.Leads ending place steps others other) : links = others ∧ goal = other := by
  induction leads generalizing others other with
  | arrive place =>
      cases again
      exact ⟨rfl, rfl⟩
  | stay idle _ ih =>
      cases again with
      | stay _ onward => exact ih onward
      | up => simp at idle
      | down plain => exact absurd plain (not_plainName_of_idle idle)
      | file plain => exact absurd plain (not_plainName_of_idle idle)
      | link _ plain => exact absurd plain (not_plainName_of_idle idle)
      | through plain => exact absurd plain (not_plainName_of_idle idle)
  | up _ ih =>
      cases again with
      | stay idle => simp at idle
      | up onward => exact ih onward
      | down plain => exact absurd plain not_plainName_parent
      | file plain => exact absurd plain not_plainName_parent
      | link _ plain => exact absurd plain not_plainName_parent
      | through plain => exact absurd plain not_plainName_parent
  | down plain passable _ ih =>
      cases again with
      | stay idle => exact absurd plain (not_plainName_of_idle idle)
      | up => exact absurd plain not_plainName_parent
      | down _ _ onward => exact ih onward
      | file _ found => simp [found] at passable
      | link _ _ found => simp [found] at passable
      | through _ found => simp [found] at passable
  | file plain found =>
      cases again with
      | stay idle => exact absurd plain (not_plainName_of_idle idle)
      | up => exact absurd plain not_plainName_parent
      | down _ passable => simp [found] at passable
      | file => exact ⟨rfl, rfl⟩
      | link => exact ⟨rfl, rfl⟩
      | through _ linked => simp [found] at linked
  | link taken plain found =>
      cases again with
      | stay idle => exact absurd plain (not_plainName_of_idle idle)
      | up => exact absurd plain not_plainName_parent
      | down _ passable => simp [found] at passable
      | file => exact ⟨rfl, rfl⟩
      | link => exact ⟨rfl, rfl⟩
      | through _ _ followed => exact absurd ⟨rfl, taken⟩ followed
  | through plain found followed _ ih =>
      cases again with
      | stay idle => exact absurd plain (not_plainName_of_idle idle)
      | up => exact absurd plain not_plainName_parent
      | down _ passable => simp [found] at passable
      | file _ filed => simp [found] at filed
      | link taken => exact absurd ⟨rfl, taken⟩ followed
      | through _ linked _ onward =>
          obtain rfl : _ = _ := Node.link.inj (Option.some.inj (found.symm.trans linked))
          obtain ⟨rfl, rfl⟩ := ih onward
          exact ⟨rfl, rfl⟩

/-- What is passed is links. -/
theorem Leads.link_of_mem (leads : tree.Leads ending place steps links goal) {passed : Place}
    (member : passed ∈ links) : ∃ target, tree.node? passed = some (.link target) := by
  induction leads with
  | arrive => simp at member
  | stay _ _ ih => exact ih member
  | up _ ih => exact ih member
  | down _ _ _ ih => exact ih member
  | file => simp at member
  | link => simp at member
  | through _ found _ _ ih =>
      rcases List.mem_cons.mp member with rfl | later
      · exact ⟨_, found⟩
      · exact ih later

/-- Where there are no links, names lead to themselves. -/
theorem Leads.eq_append (leads : tree.Leads ending place steps links goal)
    (plain : ∀ name ∈ steps, PlainName name)
    (linkless : ∀ place target, tree.node? place ≠ some (.link target)) : goal = place ++ steps := by
  induction leads with
  | arrive => simp
  | stay idle => exact absurd (plain _ List.mem_cons_self) (not_plainName_of_idle idle)
  | up => exact absurd (plain _ List.mem_cons_self) not_plainName_parent
  | down _ _ _ ih =>
      rw [ih fun name member => plain name (List.mem_cons_of_mem _ member), List.append_assoc]
      rfl
  | file => rfl
  | link _ _ found => exact absurd found (linkless _ _)
  | through _ found => exact absurd found (linkless _ _)

end Leads

/-- What becomes of a link when a number of links may be passed yet. -/
def handOn (tree : Tree) (ending : Ending) :
    Nat → Place → List String → Except Trouble (Place × Option Node)
  | 0 => fun _ _ => .error .linkLoop
  | links + 1 => followLinks tree ending links

theorem followLinks_eq (tree : Tree) (ending : Ending) (count : Nat) :
    followLinks tree ending count = follow tree ending (handOn tree ending count) := by
  cases count <;> rfl

section Follow

variable {tree : Tree} {ending : Ending} {place : Place} {name : String} {rest : List String}
  {again : Place → List String → Except Trouble (Place × Option Node)}

theorem follow_stay (idle : name = "" ∨ name = ".") :
    follow tree ending again place (name :: rest) = follow tree ending again place rest := by
  rw [follow, if_pos idle]

theorem follow_up : follow tree ending again place (".." :: rest) =
    follow tree ending again place.dropLast rest := by
  rw [follow, if_neg (by decide), if_pos rfl]

/-- A step by a plain name that gives a result is allowed, and what stands there decides. -/
theorem follow_plain (plain : PlainName name) {found : Place × Option Node}
    (reached : follow tree ending again place (name :: rest) = .ok found) :
    name.utf8ByteSize ≤ greatestName ∧
      match tree.node? (place ++ [name]) with
      | none => rest = [] ∧ found = (place ++ [name], none)
      | some .directory => follow tree ending again (place ++ [name]) rest = .ok found
      | some (.file content) => rest = [] ∧ found = (place ++ [name], some (.file content))
      | some (.link target) =>
          if rest = [] ∧ ending = .taken then found = (place ++ [name], some (.link target))
          else again (linkStart place target) (targetSteps target ++ rest) = .ok found := by
  rw [follow, if_neg (by simp [plain.1, plain.2.1]), if_neg plain.2.2] at reached
  split at reached
  · cases reached
  split at reached
  · cases reached
  rename_i short
  refine ⟨Nat.le_of_not_lt short, ?_⟩
  cases stands : tree.node? (place ++ [name]) with
  | none =>
      simp only [stands] at reached
      split at reached
      · rename_i last
        exact ⟨last, (Except.ok.inj reached).symm⟩
      · cases reached
  | some node =>
      cases node with
      | directory => simpa only [stands] using reached
      | file content =>
          simp only [stands] at reached
          split at reached
          · rename_i last
            exact ⟨last, (Except.ok.inj reached).symm⟩
          · cases reached
      | link target =>
          simp only [stands] at reached
          by_cases last : rest = [] ∧ ending = .taken
          · rw [if_pos last] at reached
            simp only [if_pos last]
            exact (Except.ok.inj reached).symm
          · rw [if_neg last] at reached
            simp only [if_neg last]
            exact reached

end Follow

/-- A place that is no directory is reached by steps if they lead there and what is found stands there and
can be covered. -/
def Reached (tree : Tree) (ending : Ending) (place : Place) (steps : List String)
    (found : Place × Option Node) : Prop :=
  found.2 ≠ some .directory →
    (∃ links, tree.Leads ending place steps links found.1) ∧ found.2 = tree.node? found.1 ∧
      ending.Covers found.2

theorem reached_of_follow {tree : Tree} {ending : Ending}
    {again : Place → List String → Except Trouble (Place × Option Node)}
    (handed : ∀ place steps found, again place steps = .ok found → Reached tree ending place steps found)
    {place : Place} {steps : List String} {found : Place × Option Node}
    (followed : follow tree ending again place steps = .ok found) :
    Reached tree ending place steps found := by
  intro other
  induction steps generalizing place with
  | nil =>
      cases followed
      exact absurd rfl other
  | cons name rest ih =>
      by_cases idle : name = "" ∨ name = "."
      · rw [follow_stay idle] at followed
        obtain ⟨⟨links, onward⟩, stands⟩ := ih followed
        exact ⟨⟨links, .stay idle onward⟩, stands⟩
      by_cases parent : name = ".."
      · subst parent
        rw [follow_up] at followed
        obtain ⟨⟨links, onward⟩, stands⟩ := ih followed
        exact ⟨⟨links, .up onward⟩, stands⟩
      have plain : PlainName name := ⟨fun h => idle (.inl h), fun h => idle (.inr h), parent⟩
      have step := (follow_plain plain followed).2
      cases stands : tree.node? (place ++ [name]) with
      | none =>
          simp only [stands] at step
          obtain ⟨rfl, rfl⟩ := step
          exact ⟨⟨[], .down plain (.inl stands) (.arrive _)⟩, stands.symm, trivial⟩
      | some node =>
          cases node with
          | directory =>
              simp only [stands] at step
              obtain ⟨⟨links, onward⟩, same⟩ := ih step
              exact ⟨⟨links, .down plain (.inr stands) onward⟩, same⟩
          | file content =>
              simp only [stands] at step
              obtain ⟨rfl, rfl⟩ := step
              exact ⟨⟨[], .file plain stands⟩, stands.symm, trivial⟩
          | link target =>
              simp only [stands] at step
              by_cases last : rest = [] ∧ ending = .taken
              · rw [if_pos last] at step
                subst step
                obtain ⟨rfl, taken⟩ := last
                exact ⟨⟨[], .link taken plain stands⟩, stands.symm, taken⟩
              · rw [if_neg last] at step
                obtain ⟨⟨links, onward⟩, same⟩ := handed _ _ _ step other
                exact ⟨⟨_, .through plain stands last onward⟩, same⟩

/-- Where following comes to an end that is no directory, the steps lead. -/
theorem reached_of_followLinks {tree : Tree} {ending : Ending} {count : Nat} {place : Place}
    {steps : List String} {found : Place × Option Node}
    (followed : followLinks tree ending count place steps = .ok found) :
    Reached tree ending place steps found := by
  induction count generalizing place steps found with
  | zero =>
      apply reached_of_follow _ followed
      intro _ _ _ failed
      cases failed
  | succ count ih => exact reached_of_follow (fun _ _ _ handed => ih handed) followed

/-- A step by a plain name that is short enough, if links at the end are followed. -/
theorem follow_followed {tree : Tree} {place : Place} {name : String} {rest : List String}
    {again : Place → List String → Except Trouble (Place × Option Node)} (plain : PlainName name)
    (short : name.utf8ByteSize ≤ greatestName) :
    follow tree .followed again place (name :: rest) =
      match tree.node? (place ++ [name]) with
      | none => if rest = [] then .ok (place ++ [name], none) else .error .missing
      | some .directory => follow tree .followed again (place ++ [name]) rest
      | some (.file content) =>
          if rest = [] then .ok (place ++ [name], some (.file content)) else .error .notDirectory
      | some (.link target) => again (linkStart place target) (targetSteps target ++ rest) := by
  rw [follow, if_neg (by simp [plain.1, plain.2.1]), if_neg plain.2.2, if_neg (by simp),
    if_neg (Nat.not_lt.mpr short)]
  cases stands : tree.node? (place ++ [name]) with
  | none => simp only [stands]
  | some node =>
      cases node with
      | directory => simp only [stands]
      | file content => simp only [stands]
      | link target => simp [stands, linkStart]

/-- What is found at the end of a route, unless it is a directory, stands where the route leads. -/
theorem reached_of_locate {tree : Tree} {ending : Ending} {route : Route} {found : Place × Option Node}
    (located : tree.locate ending route = .ok found) : Reached tree ending [] route.parts found := by
  rw [locate] at located
  split at located
  · cases located
  split at located
  · cases located
  exact reached_of_followLinks located

/-- A later tree that has the same links on the way, and no directory less, is followed in the same way to
what stands at the end, unless that is a link. -/
theorem Leads.followLinks_later {tree after : Tree} {ending : Ending} {place goal : Place}
    {steps : List String} {links : List Place} (leads : tree.Leads ending place steps links goal)
    (directories : ∀ other, tree.node? other = some .directory → after.node? other = some .directory)
    (same : ∀ passed ∈ links, after.node? passed = tree.node? passed) {node : Node}
    (stands : after.node? goal = some node) (kind : ∀ target, node ≠ .link target) {count : Nat}
    {found : Place × Option Node} (other : found.2 ≠ some .directory)
    (followed : tree.followLinks ending count place steps = .ok found) :
    after.followLinks .followed count place steps = .ok (goal, some node) := by
  have last {again : Place → List String → Except Trouble (Place × Option Node)} {place : Place}
      {name : String} (plain : PlainName name) (short : name.utf8ByteSize ≤ greatestName)
      (stands : after.node? (place ++ [name]) = some node) :
      follow after .followed again place [name] = .ok (place ++ [name], some node) := by
    rw [follow_followed plain short]
    cases node with
    | directory => simp [stands, follow]
    | file content => simp [stands]
    | link target => exact absurd rfl (kind target)
  induction leads generalizing count with
  | arrive place =>
      rw [followLinks_eq] at followed
      cases followed
      exact absurd rfl other
  | stay idle _ ih =>
      rw [followLinks_eq, follow_stay idle, ← followLinks_eq] at followed ⊢
      exact ih same stands followed
  | up _ ih =>
      rw [followLinks_eq, follow_up, ← followLinks_eq] at followed ⊢
      exact ih same stands followed
  | @down place name rest links goal plain passable onward ih =>
      rw [followLinks_eq] at followed ⊢
      obtain ⟨short, step⟩ := follow_plain plain followed
      rcases passable with missing | directory
      · simp only [missing] at step
        obtain ⟨rfl, -⟩ := step
        cases onward
        exact last plain short stands
      · simp only [directory] at step
        rw [← followLinks_eq] at step
        rw [follow_followed plain short]
        simp only [directories _ directory]
        rw [← followLinks_eq]
        exact ih same stands step
  | file plain _ =>
      rw [followLinks_eq] at followed ⊢
      exact last plain (follow_plain plain followed).1 stands
  | link _ plain _ =>
      rw [followLinks_eq] at followed ⊢
      exact last plain (follow_plain plain followed).1 stands
  | through plain linked behind _ ih =>
      rw [followLinks_eq] at followed ⊢
      obtain ⟨short, step⟩ := follow_plain plain followed
      simp only [linked, if_neg behind] at step
      rw [follow_followed plain short]
      simp only [same _ List.mem_cons_self, linked]
      cases count with
      | zero => cases step
      | succ count =>
          exact ih (fun passed member => same passed (List.mem_cons_of_mem _ member)) stands step

end Tree

end Registrar.Files
