import Registrar.Proofs.Files.Encoding

/-!
# Checks before writing

All checks are made on the tree before the first file is written. They pass just when no path is repeated
and each file passes by itself; a writer that refuses to overwrite then has found nothing at any route.
-/

namespace Registrar.Writer

open Files Files.Tree

variable {writer : Writer} {policy : OutputPolicy} {tree : Tree} {file : OutputFile}
  {files : List OutputFile}

/-- All checks pass just when no path is repeated and the check of each file passes. -/
theorem checkAll_eq_ok_iff :
    writer.checkAll tree files = .ok () ↔
      (files.map (·.path)).Nodup ∧ ∀ file ∈ files, writer.check tree file = .ok () := by
  rw [checkAll, check_bind_eq_ok_iff, forM_eq_ok_iff, checkRepeated]
  have repeated := firstRepeated?_eq_none_iff [] (files.map (·.path))
  cases first : firstRepeated? [] (files.map (·.path)) with
  | none => simpa [first] using fun _ => repeated.mp first
  | some path =>
      have twice : ¬ (files.map (·.path)).Nodup := by simpa [first] using repeated
      simp [twice]

/-- A file passes when its route can be asked for, nothing stands there that must not be overwritten, and the
file is well formed, if that is looked at. -/
theorem check_eq_ok_iff_exists? (effective : writer.output.effective = .ok policy) :
    writer.check tree file = .ok () ↔ ∃ standing, tree.exists? (writer.routeOf file) = .ok standing ∧
      ¬ (standing = true ∧ policy.mode = .refuse) ∧
        (policy.validate.truthy = true → validate file = .ok ()) := by
  rw [check, effective]
  cases asked : tree.exists? (writer.routeOf file) with
  | error trouble => simp [Except.mapError, bind, Except.bind]
  | ok standing =>
      by_cases taken : standing = true ∧ policy.mode = .refuse
      · simp [taken, Except.mapError, bind, Except.bind, throw, throwThe, MonadExceptOf.throw]
      · have free : standing = true → ¬ policy.mode = .refuse := not_and.mp taken
        cases lenient : policy.validate.truthy with
        | true => simpa [taken, lenient, Except.mapError, bind, Except.bind] using fun _ => free
        | false => simpa [taken, lenient, Except.mapError, bind, Except.bind] using free

/-- A writer that refuses to overwrite passes the files for which nothing stands and which are well
formed, if it looks at that. -/
theorem check_eq_ok_iff (effective : writer.output.effective = .ok policy)
    (refuse : policy.mode = .refuse) :
    writer.check tree file = .ok () ↔ tree.exists? (writer.routeOf file) = .ok false ∧
      (policy.validate.truthy = true → validate file = .ok ()) := by
  rw [check_eq_ok_iff_exists? effective]
  constructor
  · rintro ⟨standing, asked, free, wellFormed⟩
    have none : standing = false := by simpa [refuse] using free
    exact ⟨none ▸ asked, wellFormed⟩
  · rintro ⟨asked, wellFormed⟩
    exact ⟨false, asked, by simp, wellFormed⟩

theorem exists_kind_of_effective_eq_error {output : OutputSetting} {fault : Fault}
    (refused : output.effective = .error fault) : ∃ kind, fault = .noOutputPolicy kind := by
  cases output with
  | stated policy => cases refused
  | unread value =>
      rw [OutputSetting.effective] at refused
      split at refused
      · exact ⟨_, (Except.error.inj refused).symm⟩
      · cases refused

/-- Only a path that is too long cannot be asked for. -/
theorem eq_nameTooLong_of_exists? {route : Route} {trouble : Trouble}
    (asked : tree.exists? route = .error trouble) : trouble = .nameTooLong := by
  rw [exists?] at asked
  split at asked
  · cases asked
  · exact (Except.error.inj asked).symm
  · cases asked

/-- Why a file is refused: its path is too long, there is no policy to go by, something stands in the way, or
it is not well formed. -/
theorem check_eq_error_cases {fault : Fault} (failed : writer.check tree file = .error fault) :
    fault = .files .nameTooLong ∨ (∃ kind, fault = .noOutputPolicy kind) ∨
      fault = .outputExists (writer.routeOf file).text ∨ validate file = .error fault := by
  simp only [check, bind_eq_error_iff] at failed
  rcases failed with asked | ⟨standing, -, refused | ⟨policy, -, failed⟩⟩
  · cases found : tree.exists? (writer.routeOf file) with
    | ok standing => simp [found, Except.mapError] at asked
    | error trouble =>
        rw [found, Except.mapError, eq_nameTooLong_of_exists? found] at asked
        exact .inl (Except.error.inj asked).symm
  · exact .inr (.inl (exists_kind_of_effective_eq_error refused))
  · split at failed
    · simp only [throw, throwThe, MonadExceptOf.throw, bind, Except.bind, Except.error.injEq] at failed
      exact .inr (.inr (.inl failed.symm))
    · split at failed
      · exact .inr (.inr (.inr failed))
      · simp [pure, Except.pure] at failed

/-- What is wrong with a content is no repeated path and no trouble with files. -/
theorem validate_ne_error {fault : Fault} (invalid : validate file = .error fault) :
    (∀ path, fault ≠ .duplicatePath path) ∧ ∀ trouble, fault ≠ .files trouble := by
  rw [validate, bind_eq_error_iff] at invalid
  rcases invalid with code | ⟨-, -, unregistered⟩
  · rw [checkCode] at code
    dsimp only at code
    repeat' split at code
    all_goals cases code
    all_goals simp
  · split at unregistered
    · cases unregistered
      simp
    · cases unregistered

/-- The check of one file finds no path repeated. -/
theorem check_ne_duplicatePath {path : String} : writer.check tree file ≠ .error (.duplicatePath path) := by
  intro failed
  rcases check_eq_error_cases failed with same | ⟨kind, same⟩ | same | invalid
  · cases same
  · cases same
  · cases same
  · exact (validate_ne_error invalid).1 path rfl

/-- The file tree refuses a check for nothing but a path that is too long. -/
theorem eq_nameTooLong_of_checkAll {trouble : Trouble}
    (failed : writer.checkAll tree files = .error (.files trouble)) : trouble = .nameTooLong := by
  rw [checkAll, bind_eq_error_iff] at failed
  rcases failed with repeated | ⟨-, -, failed⟩
  · rw [checkRepeated] at repeated
    split at repeated
    · cases repeated
    · cases repeated
  · obtain ⟨_, file, _, rfl, -, failed⟩ := forM_eq_error_iff.mp failed
    rcases check_eq_error_cases failed with same | ⟨kind, same⟩ | same | invalid
    · exact Fault.files.inj same
    · cases same
    · cases same
    · exact absurd rfl ((validate_ne_error invalid).2 trouble)

/-- A run that fails in its checks opens no file. -/
theorem opened_of_checkAll_error (policy : OutputPolicy) {fault : Fault}
    (failed : writer.checkAll tree files = .error fault) :
    (writer.writeAll tree files).emptied policy = false ∧ (writer.writeAll tree files).opened policy = 0 := by
  have kept : (WriteOutcome.mk tree [] (some fault)).emptied policy = false := by
    rw [WriteOutcome.emptied]
    split
    · rename_i trouble same
      obtain rfl := Option.some.inj same
      rw [eq_nameTooLong_of_checkAll failed]
      exact Bool.and_false _
    · rfl
  rw [writeAll_of_checkAll_error failed]
  exact ⟨kept, by simp [WriteOutcome.opened, kept]⟩

/-- A writer whose checks pass goes on to write. -/
theorem writeAll_of_checkAll_ok (effective : writer.output.effective = .ok policy)
    (checked : writer.checkAll tree files = .ok ()) :
    writer.writeAll tree files = writer.commitAll policy tree files := by
  rw [writeAll, checked, effective]

/-- A writer that refuses to overwrite has found nothing at the route of a file when all checks pass. -/
theorem exists?_of_checkAll_ok (effective : writer.output.effective = .ok policy)
    (refuse : policy.mode = .refuse) (checked : writer.checkAll tree files = .ok ())
    (member : file ∈ files) : tree.exists? (writer.routeOf file) = .ok false :=
  ((check_eq_ok_iff effective refuse).mp ((checkAll_eq_ok_iff.mp checked).2 file member)).1

/-- A writer that writes under no policy but one that refuses fails, and leaves the tree as it is, when
something stands at the route of one of the files. -/
theorem writeAll_of_exists (refuse : ∀ policy, writer.output.effective = .ok policy → policy.mode = .refuse)
    (stands : ∃ file ∈ files, tree.exists? (writer.routeOf file) = .ok true) :
    (writer.writeAll tree files).fault ≠ none ∧ (writer.writeAll tree files).tree = tree := by
  obtain ⟨file, member, stands⟩ := stands
  have failed : writer.checkAll tree files ≠ .ok () := by
    intro passed
    have passed := (checkAll_eq_ok_iff.mp passed).2 file member
    cases effective : writer.output.effective with
    | error fault =>
        rw [check, stands, effective] at passed
        cases passed
    | ok policy =>
        have absent := ((check_eq_ok_iff effective (refuse policy effective)).mp passed).1
        rw [stands] at absent
        cases absent
  cases checked : writer.checkAll tree files with
  | ok _ => exact absurd checked failed
  | error fault => simp [writeAll_of_checkAll_error checked]

end Registrar.Writer
