import Registrar.Proofs.Files.Committing
import Registrar.Proofs.Files.Checking
import Registrar.Proofs.Generation.Aliases

/-!
# Refusals before writing

A run is refused for the first path that is repeated, or else for the first file that does not pass its check.
A file that stands where it must not be overwritten is refused for that, and any other for what is wrong with
its content. Nothing has been written then, and where nothing is refused only the file tree can end the run.
What is wrong with a content is a fault of generation, unless it is refused before it is parsed: a Python
file may not hold the character U+0000, and what it holds has to be encoded.
-/

namespace Registrar

/-- The path that is found repeated is the first one that stands behind itself or among those before all. -/
theorem firstRepeated?_eq_some_iff {seen paths : List String} {path : String} :
    firstRepeated? seen paths = some path ↔ ∃ before after, paths = before ++ path :: after ∧
      before.Nodup ∧ (∀ other ∈ before, other ∉ seen) ∧ (path ∈ before ∨ path ∈ seen) := by
  induction paths generalizing seen with
  | nil => simp [firstRepeated?]
  | cons first rest ih =>
      by_cases known : first ∈ seen
      · rw [firstRepeated?, if_pos known]
        constructor
        · intro same
          obtain rfl := Option.some.inj same
          exact ⟨[], rest, rfl, .nil, by simp, .inr known⟩
        · rintro ⟨before, after, split, -, fresh, -⟩
          cases before with
          | nil => rw [(List.cons.inj split).1]
          | cons head before =>
              obtain ⟨rfl, -⟩ := List.cons.inj split
              exact absurd known (fresh first List.mem_cons_self)
      · rw [firstRepeated?, if_neg known, ih]
        constructor
        · rintro ⟨before, after, rfl, distinct, fresh, again⟩
          have unseen : first ∉ before := fun member => fresh first member List.mem_cons_self
          refine ⟨first :: before, after, rfl, List.nodup_cons.mpr ⟨unseen, distinct⟩, ?_, ?_⟩
          · rintro other (_ | ⟨_, member⟩)
            · exact known
            · exact fun inside => fresh other member (List.mem_cons_of_mem _ inside)
          · simpa [or_assoc, or_comm, or_left_comm] using again
        · rintro ⟨before, after, split, distinct, fresh, again⟩
          cases before with
          | nil =>
              obtain ⟨rfl, -⟩ := List.cons.inj split
              exact absurd (again.resolve_left List.not_mem_nil) known
          | cons head before =>
              obtain ⟨rfl, rfl⟩ := List.cons.inj split
              obtain ⟨unseen, distinct⟩ := List.nodup_cons.mp distinct
              obtain ⟨-, fresh⟩ := List.forall_mem_cons.mp fresh
              refine ⟨before, after, rfl, distinct, ?_, ?_⟩
              · intro other member
                rw [List.mem_cons, not_or]
                exact ⟨fun same => unseen (same ▸ member), fresh other member⟩
              · simpa [or_assoc, or_comm, or_left_comm] using again

/-- A path is the first in a list that stands there before already. -/
def IsFirstRepeated (paths : List String) (path : String) : Prop :=
  ∃ before after, paths = before ++ path :: after ∧ before.Nodup ∧ path ∈ before

theorem checkRepeated_eq_error_iff {files : List OutputFile} {fault : Fault} :
    checkRepeated files = .error fault ↔
      ∃ path, IsFirstRepeated (files.map (·.path)) path ∧ fault = .duplicatePath path := by
  have first (path : String) : firstRepeated? [] (files.map (·.path)) = some path ↔
      IsFirstRepeated (files.map (·.path)) path := by
    rw [firstRepeated?_eq_some_iff, IsFirstRepeated]
    simp
  simp only [← first]
  rw [checkRepeated]
  cases found : firstRepeated? [] (files.map (·.path)) with
  | none => simp
  | some path => simp [eq_comm]

/-- A Python file that is refused before it is parsed, as it cannot be encoded or holds the character
U+0000. -/
def RefusedUnparsed (file : OutputFile) : Prop :=
  isPythonPath file.path = true ∧ (file.content.unencodable? ≠ none ∨ '\x00' ∈ file.content.marked)

theorem isGeneration_of_checkCode {file : OutputFile} {fault : Fault}
    (refused : checkCode file = .error fault) : fault.isGeneration = true ↔ ¬ RefusedUnparsed file := by
  rw [checkCode] at refused
  cases python : isPythonPath file.path with
  | false =>
      rw [python, if_neg Bool.false_ne_true] at refused
      dsimp only at refused
      split at refused
      · cases refused
      · obtain rfl := Except.error.inj refused
        simp [RefusedUnparsed, python, Fault.isGeneration]
  | true =>
      rw [python, if_pos rfl] at refused
      split at refused
      · rename_i cause unencodable
        obtain rfl := Except.error.inj refused
        simp [RefusedUnparsed, python, unencodable, Fault.isGeneration]
      · rename_i encodable
        have characters : file.content.marked = file.content.written.toList := by
          rw [Text.eq_written_of_unencodable? encodable, Text.marked_coe]
          rfl
        rw [← characters] at refused
        split at refused
        · rename_i null
          obtain rfl := Except.error.inj refused
          simpa [RefusedUnparsed, python, encodable, Fault.isGeneration] using null
        · rename_i visible
          split at refused
          · cases refused
          · obtain rfl := Except.error.inj refused
            simpa [RefusedUnparsed, python, encodable, Fault.isGeneration] using visible

/-- A file that is refused before it is parsed has no code that is well formed. -/
theorem not_refusedUnparsed_of_checkCode {file : OutputFile} (passed : checkCode file = .ok ()) :
    ¬ RefusedUnparsed file := by
  rintro ⟨python, unencodable | null⟩
  · rw [checkCode, if_pos python] at passed
    split at passed
    · cases passed
    · rename_i encodable
      exact unencodable encodable
  · rw [checkCode, if_pos python] at passed
    split at passed
    · cases passed
    · rename_i encodable
      rw [Text.eq_written_of_unencodable? encodable, Text.marked_coe] at null
      rw [if_pos (by simpa using null)] at passed
      cases passed

/-- What is wrong with a content is a fault of generation, unless a Python file is refused before it is
parsed. -/
theorem isGeneration_of_validate {file : OutputFile} {fault : Fault}
    (refused : validate file = .error fault) : fault.isGeneration = true ↔ ¬ RefusedUnparsed file := by
  rw [validate, bind_eq_error_iff] at refused
  rcases refused with code | ⟨done, passed, unregistered⟩
  · exact isGeneration_of_checkCode code
  · split at unregistered
    · obtain rfl := Except.error.inj unregistered
      exact iff_of_true rfl (not_refusedUnparsed_of_checkCode passed)
    · cases unregistered

namespace Writer

open Files Files.Tree

/-- The fault with which a writer refuses a file. -/
inductive RefusedFor (writer : Writer) (policy : OutputPolicy) (tree : Tree) (file : OutputFile) :
    Fault → Prop
  | unaskable {trouble : Trouble} (asked : tree.exists? (writer.routeOf file) = .error trouble) :
      RefusedFor writer policy tree file (.files trouble)
  | stands (asked : tree.exists? (writer.routeOf file) = .ok true) (refuse : policy.mode = .refuse) :
      RefusedFor writer policy tree file (.outputExists (writer.routeOf file).text)
  | malformed {standing : Bool} {fault : Fault}
      (asked : tree.exists? (writer.routeOf file) = .ok standing)
      (free : ¬ (standing = true ∧ policy.mode = .refuse)) (strict : policy.validate.truthy = true)
      (invalid : validate file = .error fault) : RefusedFor writer policy tree file fault

variable {writer : Writer} {policy : OutputPolicy} {tree : Tree} {file : OutputFile}

/-- Whether something stands in the way is looked at before the content. -/
theorem check_eq (effective : writer.output.effective = .ok policy) :
    writer.check tree file =
      match tree.exists? (writer.routeOf file) with
      | .error trouble => .error (.files trouble)
      | .ok standing =>
          if standing = true ∧ policy.mode = .refuse then
            .error (.outputExists (writer.routeOf file).text)
          else if policy.validate.truthy then validate file else .ok () := by
  rw [check, effective]
  cases tree.exists? (writer.routeOf file) with
  | error trouble => rfl
  | ok standing =>
      simp only [Except.mapError, bind, Except.bind]
      split
      · rfl
      · rfl

/-- The check of a file fails with the fault with which the file is refused. -/
theorem check_eq_error_iff (effective : writer.output.effective = .ok policy) {fault : Fault} :
    writer.check tree file = .error fault ↔ writer.RefusedFor policy tree file fault := by
  rw [check_eq effective]
  constructor
  · intro failed
    split at failed
    · rename_i trouble asked
      obtain rfl := Except.error.inj failed
      exact .unaskable asked
    · rename_i standing asked
      split at failed
      · rename_i taken
        obtain rfl := Except.error.inj failed
        exact .stands (taken.1 ▸ asked) taken.2
      · rename_i free
        split at failed
        · rename_i strict
          exact .malformed asked free strict failed
        · cases failed
  · intro refused
    cases refused with
    | unaskable asked => rw [asked]
    | stands asked refuse => simp [asked, refuse]
    | malformed asked free strict invalid => simp only [asked, if_neg free, strict, if_true, invalid]

theorem check_eq_ok_of_not_refused (effective : writer.output.effective = .ok policy)
    (accepted : ∀ fault, ¬ writer.RefusedFor policy tree file fault) :
    writer.check tree file = .ok () := by
  cases checked : writer.check tree file with
  | ok _ => rfl
  | error fault => exact absurd ((check_eq_error_iff effective).mp checked) (accepted fault)

/-- A run is refused for the first path that is repeated, or else for the first file that is refused, and
nothing has changed then. If nothing is refused, no fault of generation ends the run. A file that is refused
for its content is refused with a fault of generation unless it is a Python file that is refused before it is
parsed, and only paths that are too long cannot be asked for. -/
theorem writeAll_refused_in_order (effective : writer.output.effective = .ok policy) (tree : Tree)
    (files : List OutputFile) :
    let outcome := writer.writeAll tree files
    (∀ path, IsFirstRepeated (files.map (·.path)) path →
      outcome = ⟨tree, [], some (.duplicatePath path)⟩) ∧
    ((files.map (·.path)).Nodup →
      (∀ before file after fault, files = before ++ file :: after →
        (∀ other ∈ before, ∀ fault, ¬ writer.RefusedFor policy tree other fault) →
        writer.RefusedFor policy tree file fault → outcome = ⟨tree, [], some fault⟩) ∧
      ((∀ file ∈ files, ∀ fault, ¬ writer.RefusedFor policy tree file fault) →
        ∀ fault, outcome.fault = some fault → fault.isGeneration = false)) ∧
    (∀ file fault, validate file = .error fault →
      (fault.isGeneration = true ↔ ¬ RefusedUnparsed file)) ∧
    ∀ route trouble, tree.exists? route = .error trouble → trouble = .nameTooLong := by
  intro outcome
  refine ⟨?_, fun distinct => ⟨?_, ?_⟩, fun _ _ => isGeneration_of_validate,
    fun _ _ => eq_nameTooLong_of_exists?⟩
  · intro path repeated
    have refused := checkRepeated_eq_error_iff.mpr ⟨path, repeated, rfl⟩
    apply writeAll_of_checkAll_error
    rw [checkAll, refused]
    rfl
  · rintro before file after fault rfl accepted refused
    have unrepeated : checkRepeated (before ++ file :: after) = .ok () := by
      rw [checkRepeated, (firstRepeated?_eq_none_iff [] _).mpr ⟨distinct, by simp⟩]
    apply writeAll_of_checkAll_error
    rw [checkAll, unrepeated]
    apply forM_eq_error_iff.mpr
    exact ⟨before, file, after, rfl,
      fun other member => check_eq_ok_of_not_refused effective (accepted other member),
      (check_eq_error_iff effective).mpr refused⟩
  · intro accepted fault ended
    have checked : writer.checkAll tree files = .ok () := checkAll_eq_ok_iff.mpr ⟨distinct,
      fun file member => check_eq_ok_of_not_refused effective (accepted file member)⟩
    simp only [outcome, writeAll_of_checkAll_ok effective checked] at ended
    rcases commitAll_cases writer policy tree files with
      ⟨_, -, -, completed⟩ | ⟨_, _, _, _, _, trouble, -, -, -, -, stopped⟩
    · rw [completed] at ended
      cases ended
    · rw [stopped] at ended
      obtain rfl := Option.some.inj ended
      rfl

/-- Of a good file, one that stands and one that is not well formed, the second is refused. Without it and
with the first path again, that path is. -/
theorem writeAll_refused_in_order_three :
    let writer : Writer := ⟨⟨"/", ["out"]⟩, .stated .standard⟩
    let tree : Tree := ⟨[(["out"], .directory), (["out", "b.ts"], .file "kept")]⟩
    writer.writeAll tree [⟨"a.ts", "register("⟩, ⟨"b.ts", "register("⟩, ⟨"c.ts", "\x7b"⟩] =
      ⟨tree, [], some (.outputExists "/out/b.ts")⟩ ∧
    writer.writeAll tree [⟨"a.ts", "register("⟩, ⟨"c.ts", "\x7b"⟩, ⟨"a.ts", "register("⟩] =
      ⟨tree, [], some (.duplicatePath "a.ts")⟩ := by
  intro writer tree
  have effective : writer.output.effective = .ok .standard := rfl
  constructor
  · apply ((writeAll_refused_in_order effective tree _).2.1 (by decide)).1
      [⟨"a.ts", "register("⟩] ⟨"b.ts", "register("⟩ [⟨"c.ts", "\x7b"⟩] _ rfl
    · rintro other (_ | ⟨_, ⟨⟩⟩) fault refused
      have passed : writer.check tree ⟨"a.ts", "register("⟩ = .ok () := by decide +kernel
      rw [← check_eq_error_iff effective, passed] at refused
      cases refused
    · exact .stands (by decide +kernel) rfl
  · apply (writeAll_refused_in_order effective tree _).1
    exact ⟨["a.ts", "c.ts"], [], rfl, by decide, by decide⟩

/-- A Python file with the character U+0000 is refused, with a fault that is none of generation. -/
theorem writeAll_refused_for_null :
    let writer : Writer := ⟨⟨"/", ["out"]⟩, .stated .standard⟩
    let outcome := writer.writeAll ⟨[]⟩ [⟨"a.py", "register(\x00"⟩]
    outcome = ⟨⟨[]⟩, [], some .nullCharacter⟩ ∧ Fault.nullCharacter.isGeneration = false := by
  decide +kernel

end Writer

end Registrar
