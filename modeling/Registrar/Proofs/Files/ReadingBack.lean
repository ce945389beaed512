import Registrar.Proofs.Files.Checking
import Registrar.Proofs.Files.Committing

/-!
# Reading back what was written

When a run has come to its end, a file can be read where its route leads unless another file of the run was
written at the same place, or in the place of a link that is on the way. The check for repeated paths sees
the spelling of paths only, so neither is excluded by it.
-/

namespace Registrar

namespace Files.Tree

/-- If links at the end are followed, steps lead where they lead otherwise, or on behind a link that stands
there. -/
theorem Leads.of_followed {tree : Tree} {place goal : Place} {steps : List String} {links : List Place}
    (leads : tree.Leads .followed place steps links goal) (ending : Ending) :
    tree.Leads ending place steps links goal ∨
      ∃ passed link target, tree.Leads ending place steps passed link ∧
        tree.node? link = some (.link target) := by
  induction leads with
  | arrive => exact .inl (.arrive _)
  | stay idle _ ih =>
      rcases ih with same | ⟨passed, link, target, before, stands⟩
      · exact .inl (.stay idle same)
      · exact .inr ⟨passed, link, target, .stay idle before, stands⟩
  | up _ ih =>
      rcases ih with same | ⟨passed, link, target, before, stands⟩
      · exact .inl (.up same)
      · exact .inr ⟨passed, link, target, .up before, stands⟩
  | down plain passable _ ih =>
      rcases ih with same | ⟨passed, link, target, before, stands⟩
      · exact .inl (.down plain passable same)
      · exact .inr ⟨passed, link, target, .down plain passable before, stands⟩
  | file plain found => exact .inl (.file plain found)
  | link taken => cases taken
  | @through place name target rest links goal plain found _ _ ih =>
      by_cases last : rest = [] ∧ ending = .taken
      · obtain ⟨rfl, taken⟩ := last
        exact .inr ⟨[], place ++ [name], target, .link taken plain found, found⟩
      · rcases ih with same | ⟨passed, link, other, before, stands⟩
        · exact .inl (.through plain found last same)
        · exact .inr ⟨_, link, other, .through plain found last before, stands⟩

/-- A file that can be read stands where the route leads. -/
theorem exists_leads_of_content? {tree : Tree} {route : Route} {content : String}
    (read : tree.content? route = some content) :
    ∃ links goal, tree.Leads .followed [] route.parts links goal ∧
      tree.node? goal = some (.file content) := by
  rw [content?] at read
  split at read
  · rename_i goal found located
    obtain ⟨⟨links, leads⟩, stands, -⟩ := reached_of_locate located (by simp)
    cases read
    exact ⟨links, goal, leads, stands.symm⟩
  · cases read

end Files.Tree

namespace Writer

open Files Files.Tree

/-- What a file is to hold can be read where its route leads. -/
def ReadsBack (writer : Writer) (tree : Tree) (file : OutputFile) : Prop :=
  ∃ content : String, file.content = content ∧ tree.content? (writer.routeOf file) = some content

/-- Files that do not get in each other's way: those that lead to one place have one content, and none is
put in the place of a link that another, or the file itself, passes on its way. -/
structure Compatible (writer : Writer) (policy : OutputPolicy) (tree : Tree)
    (files : List OutputFile) : Prop where
  agree : ∀ first ∈ files, ∀ second ∈ files, ∀ goal, writer.LeadsTo policy tree first goal →
    writer.LeadsTo policy tree second goal → first.content = second.content
  clear : ∀ first ∈ files, ∀ second ∈ files, ∀ goal links other,
    writer.LeadsTo policy tree first goal →
      tree.Leads policy.ending [] (writer.routeOf second).parts links other → goal ∉ links

/-- Where there are no links, files do not get in each other's way if their routes name different places. -/
theorem compatible_of_plain {writer : Writer} {policy : OutputPolicy} {tree : Tree}
    {files : List OutputFile} (linkless : ∀ place target, tree.node? place ≠ some (.link target))
    (plain : ∀ file ∈ files, (writer.routeOf file).Plain)
    (distinct : ∀ first ∈ files, ∀ second ∈ files,
      (writer.routeOf first).parts = (writer.routeOf second).parts → first = second) :
    writer.Compatible policy tree files where
  agree := by
    rintro first here second there goal ⟨_, one⟩ ⟨_, two⟩
    have same := (one.eq_append (plain first here) linkless).symm.trans
      (two.eq_append (plain second there) linkless)
    rw [distinct first here second there same]
  clear := by
    intro first _ second _ goal links other _ leads member
    obtain ⟨target, stands⟩ := leads.link_of_mem member
    exact linkless goal target stands

section Reading

variable {writer : Writer} {policy : OutputPolicy} {tree after last : Tree} {file : OutputFile}
  {files rest : List OutputFile}

/-- At a place to which a committed file leads stands one of the files. -/
theorem Commits.exists_node? (commits : writer.Commits policy tree files last) (member : file ∈ files)
    {goal : Place} (leads : writer.LeadsTo policy tree file goal) :
    ∃ other ∈ files, writer.LeadsTo policy tree other goal ∧
      last.node? goal = some (.file other.content.written) := by
  obtain ⟨other, final⟩ := exists_lastTo ⟨file, member, leads⟩
  exact ⟨other, final.mem, final.leadsTo, commits.node?_of_lastTo final⟩

/-- A committed file can be read as it stands, if the links on its way are left. -/
theorem Commits.content?_of_links (commits : writer.Commits policy tree files last)
    (member : file ∈ files) :
    ∃ links goal, tree.Leads policy.ending [] (writer.routeOf file).parts links goal ∧
      ((∀ passed ∈ links, last.node? passed = tree.node? passed) →
        ∀ content, last.node? goal = some (.file content) →
          last.content? (writer.routeOf file) = some content) := by
  induction commits with
  | nil => simp at member
  | @cons tree after last first rest committed onward ih =>
      obtain ⟨links, goal, puts⟩ := puts_of_commit committed
      rcases List.mem_cons.mp member with rfl | later
      · exact ⟨links, goal, puts.leads, puts.readable last onward.becomes⟩
      · obtain ⟨passed, place, leads, readable⟩ := ih later
        refine ⟨passed, place, leads.before puts.becomes, fun same => readable fun link member => ?_⟩
        obtain ⟨target, stands⟩ := leads.link_of_mem member
        rw [same link member, puts.becomes.link stands, stands]

/-- The route of a committed file that can be read back has not changed: what stands at its end is the file,
and the links on its way are links still. -/
theorem Commits.leads_of_content? (commits : writer.Commits policy tree files last) (member : file ∈ files)
    (read : last.content? (writer.routeOf file) = some file.content.written) :
    ∃ links goal, tree.Leads policy.ending [] (writer.routeOf file).parts links goal ∧
      last.node? goal = some (.file file.content.written) ∧
        ∀ passed ∈ links, ∃ target, last.node? passed = some (.link target) := by
  obtain ⟨links, goal, leads, stands⟩ := exists_leads_of_content? read
  rcases leads.of_followed policy.ending with same | ⟨passed, link, target, before, linked⟩
  · exact ⟨links, goal, same.before commits.becomes, stands, fun _ => same.link_of_mem⟩
  · obtain ⟨other, -, -, filed⟩ :=
      commits.exists_node? member ⟨passed, before.before commits.becomes⟩
    rw [linked] at filed
    cases filed

/-- Committed files that can be read back do not get in each other's way. -/
theorem Commits.compatible_of_content? (commits : writer.Commits policy tree files last)
    (encodable : ∀ file ∈ files, file.content = file.content.written)
    (read : ∀ file ∈ files, last.content? (writer.routeOf file) = some file.content.written) :
    writer.Compatible policy tree files where
  agree := by
    intro first here second there goal one two
    obtain ⟨_, place, leads, stands, -⟩ := commits.leads_of_content? here (read first here)
    obtain ⟨_, other, path, found, -⟩ := commits.leads_of_content? there (read second there)
    obtain rfl : goal = place := one.unique ⟨_, leads⟩
    obtain rfl : goal = other := two.unique ⟨_, path⟩
    rw [stands] at found
    rw [encodable first here, encodable second there, Node.file.inj (Option.some.inj found)]
  clear := by
    intro first here second there goal links other leads path member
    obtain ⟨_, _, same, -, linked⟩ := commits.leads_of_content? there (read second there)
    obtain ⟨rfl, -⟩ := same.unique path
    obtain ⟨target, stands⟩ := linked goal member
    obtain ⟨_, -, -, filed⟩ := commits.exists_node? here leads
    rw [stands] at filed
    cases filed

/-- Committed files that do not get in each other's way can be read back. -/
theorem Commits.content?_of_compatible (commits : writer.Commits policy tree files last)
    (compatible : writer.Compatible policy tree files) (member : file ∈ files) :
    last.content? (writer.routeOf file) = some file.content.written := by
  obtain ⟨links, goal, leads, readable⟩ := commits.content?_of_links member
  obtain ⟨other, inside, again, stands⟩ := commits.exists_node? member ⟨links, leads⟩
  apply readable
  · intro passed on_way
    obtain ⟨target, linked⟩ := leads.link_of_mem on_way
    have apart : ∀ first ∈ files, ¬ writer.LeadsTo policy tree first passed :=
      fun first here aimed =>
        compatible.clear first here file member passed links goal aimed leads on_way
    rcases commits.node?_of_none apart with same | ⟨missing, -⟩
    · exact same
    · rw [linked] at missing
      cases missing
  · rw [stands, compatible.agree file member other inside goal ⟨links, leads⟩ again]

/-- Committed files can be read back just when they do not get in each other's way. -/
theorem Commits.readsBack_iff (commits : writer.Commits policy tree files last)
    (encodable : ∀ file ∈ files, file.content = file.content.written) :
    (∀ file ∈ files, writer.ReadsBack last file) ↔ writer.Compatible policy tree files := by
  constructor
  · intro read
    apply commits.compatible_of_content? encodable
    intro file member
    obtain ⟨content, same, read⟩ := read file member
    rw [same]
    exact read
  · intro compatible file member
    exact ⟨_, encodable file member, commits.content?_of_compatible compatible member⟩

end Reading

/-- A run that comes to its end gives the routes of its files in their order, and each file can be read
back just when they do not get in each other's way. -/
theorem writeAll_readsBack_iff {writer : Writer} {policy : OutputPolicy}
    (effective : writer.output.effective = .ok policy) {tree : Tree} {files : List OutputFile}
    (complete : (writer.writeAll tree files).fault = none) :
    (writer.writeAll tree files).written = files.map writer.routeOf ∧
      ((∀ file ∈ files, writer.ReadsBack (writer.writeAll tree files).tree file) ↔
        writer.Compatible policy tree files) := by
  cases checked : writer.checkAll tree files with
  | error fault =>
      rw [writeAll_of_checkAll_error checked] at complete
      cases complete
  | ok passed =>
      rw [writeAll_of_checkAll_ok effective checked] at complete ⊢
      rcases commitAll_cases writer policy tree files with ⟨last, commits, encodable, outcome⟩ |
        ⟨_, _, _, _, _, _, _, _, _, _, outcome⟩
      · rw [outcome]
        exact ⟨rfl, commits.readsBack_iff encodable⟩
      · rw [outcome] at complete
        cases complete

/-- Two files at places of their own are read back. -/
theorem writeAll_readsBack_two :
    (writeAll ⟨⟨"/", ["out"]⟩, .stated .standard⟩ ⟨[]⟩
      [⟨"a.ts", "register(1"⟩, ⟨"b/c.ts", "register(2"⟩]).fault = none ∧
    ∀ file ∈ [⟨"a.ts", "register(1"⟩, ⟨"b/c.ts", "register(2"⟩],
      ReadsBack ⟨⟨"/", ["out"]⟩, .stated .standard⟩
        (writeAll ⟨⟨"/", ["out"]⟩, .stated .standard⟩ ⟨[]⟩
          [⟨"a.ts", "register(1"⟩, ⟨"b/c.ts", "register(2"⟩]).tree file := by
  have complete : (writeAll ⟨⟨"/", ["out"]⟩, .stated .standard⟩ ⟨[]⟩
      [⟨"a.ts", "register(1"⟩, ⟨"b/c.ts", "register(2"⟩]).fault = none := by decide +kernel
  have effective : (OutputSetting.stated .standard).effective = .ok .standard := rfl
  refine ⟨complete, (writeAll_readsBack_iff effective complete).2.mpr ?_⟩
  apply compatible_of_plain
  · intro place target
    simp [node?]
  · decide +kernel
  · decide +kernel

/-- Two spellings of one path pass the check for repeated paths, and the first file is lost. -/
theorem writeAll_loses_first :
    (writeAll ⟨⟨"/", ["out"]⟩, .stated .standard⟩ ⟨[]⟩
      [⟨"a.ts", "register(1"⟩, ⟨"./a.ts", "register(2"⟩]).fault = none ∧
    (writeAll ⟨⟨"/", ["out"]⟩, .stated .standard⟩ ⟨[]⟩
      [⟨"a.ts", "register(1"⟩, ⟨"./a.ts", "register(2"⟩]).tree.content?
        (routeOf ⟨⟨"/", ["out"]⟩, .stated .standard⟩ ⟨"a.ts", "register(1"⟩) = some "register(2" := by
  decide +kernel

end Writer

end Registrar
