import Registrar.Proofs.Files.Checking
import Registrar.Proofs.Settings.Reading

/-!
# Which settings overwrite

The mode of the output settings is read from any JSON. A text has to name a mode, and where there is no mode
the writer refuses to overwrite. A mode that is no text is kept as it is, and the writer, which asks only
whether the mode is the one that refuses, overwrites under it.
-/

namespace Registrar

open Files

namespace Settings

variable {config : Json} {settings : Settings} {policy : OutputPolicy}

/-- The mode that the output section of a JSON value states. -/
def statedMode : Json → Option Json
  | .obj fields =>
      match Json.field? "output" fields with
      | some (.obj output) => Json.field? "mode" output
      | _ => none
  | _ => none

/-- A value that is no text names no mode and is kept. -/
theorem readMode_of_no_text {value : Json} (other : ∀ text, value ≠ .str text) :
    readMode value = .ok (.unnamed value) := by
  cases value with
  | str text => exact absurd rfl (other text)
  | _ => rfl

/-- A text that does not name the mode that overwrites can only name the one that refuses. -/
theorem refuse_of_readMode_text {text : String} {mode : OverwriteMode}
    (read : readMode (.str text) = .ok mode) (unforced : text ≠ "force") : mode = .refuse := by
  have named := readMode_str_eq_ok_iff.mp read
  cases mode with
  | refuse => rfl
  | overwrite =>
      cases named
      exact absurd rfl unforced
  | unnamed value => cases named

/-- Output settings that are no object give the policy that refuses, or none. -/
theorem refuse_of_effective_unread {value : Json}
    (effective : (OutputSetting.unread value).effective = .ok policy) : policy.mode = .refuse := by
  rw [OutputSetting.effective] at effective
  split at effective
  · cases effective
  · cases effective
    rfl

/-- Where a mode is stated, files are written in the mode that it names. -/
theorem exists_policy_of_statedMode {value : Json} (read : Settings.read config = .ok settings)
    (stated : statedMode config = some value) :
    ∃ policy, settings.output = .stated policy ∧ readMode value = .ok policy.mode := by
  unfold statedMode at stated
  split at stated
  · split at stated
    · rename_i fields _ output given
      have inside := outputGiven_of_read read
      rw [given] at inside
      obtain ⟨mode, named, found⟩ := readOutput_obj_eq_ok_iff.mp inside
      rw [stated] at named
      exact ⟨_, found, named⟩
    · cases stated
  · cases stated

/-- Where no mode is stated, files are written only in the mode that refuses. -/
theorem refuse_of_no_statedMode (read : Settings.read config = .ok settings)
    (unstated : statedMode config = none) (effective : settings.output.effective = .ok policy) :
    policy.mode = .refuse := by
  cases config with
  | obj fields =>
      have given := outputGiven_of_read read
      rw [statedMode] at unstated
      cases outputs : Json.field? "output" fields with
      | none =>
          rw [outputs] at given
          rw [← Except.ok.inj given] at effective
          cases effective
          rfl
      | some value =>
          rw [outputs] at given unstated
          cases value with
          | obj inner =>
              obtain ⟨mode, named, said⟩ := readOutput_obj_eq_ok_iff.mp given
              dsimp only at unstated
              rw [unstated] at named
              rw [said] at effective
              cases named
              cases effective
              rfl
          | _ =>
              rw [← Except.ok.inj given] at effective
              exact refuse_of_effective_unread effective
  | _ => cases read

/-- Settings whose mode, if any, is a text and does not ask to overwrite let files be written only in the mode
that refuses. -/
theorem refuse_of_stated_text (read : Settings.read config = .ok settings)
    (unforced : statedMode config ≠ some (.str "force"))
    (named : ∀ value, statedMode config = some value → ∃ text, value = .str text)
    (effective : settings.output.effective = .ok policy) : policy.mode = .refuse := by
  cases stated : statedMode config with
  | none => exact refuse_of_no_statedMode read stated effective
  | some value =>
      obtain ⟨text, rfl⟩ := named value stated
      obtain ⟨policy, same, mode⟩ := exists_policy_of_statedMode read stated
      rw [same] at effective
      cases effective
      exact refuse_of_readMode_text mode fun forced => unforced (by rw [stated, forced])

/-- Settings whose mode is no text have a policy that does not refuse. -/
theorem exists_policy_of_no_text {value : Json} (read : Settings.read config = .ok settings)
    (stated : statedMode config = some value) (noText : ∀ text, value ≠ .str text) :
    ∃ policy, settings.output = .stated policy ∧ policy.mode ≠ .refuse := by
  obtain ⟨policy, output, named⟩ := exists_policy_of_statedMode read stated
  rw [readMode_of_no_text noText] at named
  refine ⟨policy, output, ?_⟩
  rw [← Except.ok.inj named]
  exact nofun

/-- Writers with these settings refuse to write where something stands already, and leave all as it is. -/
structure SparesTargets (settings : Settings) : Prop where
  ofMany (directory : Route) (tree : Tree) (files : List OutputFile) :
    let writer : Writer := ⟨directory, settings.output⟩
    (∃ file ∈ files, tree.exists? (writer.routeOf file) = .ok true) →
      (writer.writeAll tree files).fault ≠ none ∧ (writer.writeAll tree files).tree = tree
  ofOne (directory : Route) (tree : Tree) (file : OutputFile) :
    let writer : Writer := ⟨directory, settings.output⟩
    tree.exists? (writer.routeOf file) = .ok true →
      (writer.write tree file).fault ≠ none ∧ (writer.write tree file).tree = tree

/-- Settings under which files are written only in the mode that refuses spare what stands. -/
theorem sparesTargets_of_refuse
    (refuse : ∀ policy, settings.output.effective = .ok policy → policy.mode = .refuse) :
    settings.SparesTargets where
  ofMany _ _ _ := Writer.writeAll_of_exists refuse
  ofOne _ _ file stands := Writer.writeAll_of_exists refuse ⟨file, List.mem_singleton_self file, stands⟩

/-- A policy in any mode but the one that refuses overwrites, for one a file that stands at the top. -/
theorem not_sparesTargets (stated : settings.output = .stated policy) (lenient : policy.mode ≠ .refuse) :
    ¬ settings.SparesTargets := by
  have effective : settings.output.effective = .ok policy := by
    rw [stated]
    rfl
  have stands : Tree.exists? ⟨[(["a"], .file "")]⟩ (Route.append ⟨"/", []⟩ (.ofText "a")) = .ok true := by
    decide +kernel
  have checked : Writer.checkAll ⟨⟨"/", []⟩, settings.output⟩ ⟨[(["a"], .file "")]⟩
      [⟨"a", "register("⟩] = .ok () := by
    rw [Writer.checkAll_eq_ok_iff]
    refine ⟨by simp, ?_⟩
    rintro _ (_ | ⟨_, ⟨⟩⟩)
    have wellFormed : validate ⟨"a", "register("⟩ = .ok () := by decide +kernel
    rw [Writer.check, Writer.routeOf, stands, effective]
    simp [lenient, wellFormed, Except.mapError, bind, Except.bind]
  have committed : Writer.commit policy ⟨[(["a"], .file "")]⟩ (Route.append ⟨"/", []⟩ (.ofText "a"))
      "register(" = (⟨[(["a"], .file "register(")]⟩, none) := by
    cases atomic : policy.atomic.truthy with
    | true =>
        simp only [Writer.commit, Writer.place, atomic]
        decide +kernel
    | false =>
        simp only [Writer.commit, Writer.place, atomic]
        decide +kernel
  intro spares
  apply (spares.ofOne ⟨"/", []⟩ ⟨[(["a"], .file "")]⟩ ⟨"a", "register("⟩ stands).1
  rw [Writer.write, Writer.writeAll_of_checkAll_ok effective checked, Writer.commitAll, Writer.routeOf,
    committed]
  rfl

/-- Files are committed alike by writers of one directory under policies that differ in the mode only. -/
theorem commitAll_of_mode (directory : Route) (output forced : OutputSetting) (policy : OutputPolicy)
    (mode : OverwriteMode) (tree : Tree) (files : List OutputFile) :
    Writer.commitAll ⟨directory, output⟩ policy tree files =
      Writer.commitAll ⟨directory, forced⟩ { policy with mode } tree files := by
  induction files generalizing tree with
  | nil => rfl
  | cons file rest ih =>
      have first : Writer.commit policy = Writer.commit { policy with mode } := rfl
      simp only [Writer.commitAll, first, Writer.routeOf, ih]

/-- A policy in any mode but the one that refuses writes as the same policy in the mode that overwrites. -/
theorem writeAll_eq_overwriting (stated : settings.output = .stated policy) (lenient : policy.mode ≠ .refuse) :
    ∃ forced, settings.overwriting = .ok forced ∧
      ∀ (directory : Route) (tree : Tree) (files : List OutputFile),
        Writer.writeAll ⟨directory, settings.output⟩ tree files =
          Writer.writeAll ⟨directory, forced.output⟩ tree files := by
  refine ⟨_, by rw [overwriting, stated], fun directory tree files => ?_⟩
  have checks : Writer.checkAll ⟨directory, .stated policy⟩ tree files =
      Writer.checkAll ⟨directory, .stated { policy with mode := .overwrite }⟩ tree files := by
    have each : Writer.check ⟨directory, .stated policy⟩ tree =
        Writer.check ⟨directory, .stated { policy with mode := .overwrite }⟩ tree := by
      funext file
      simp [Writer.check, Writer.routeOf, OutputSetting.effective, lenient, bind, Except.bind]
    rw [Writer.checkAll, Writer.checkAll, each]
  rw [stated]
  cases checked : Writer.checkAll ⟨directory, .stated policy⟩ tree files with
  | error fault =>
      rw [Writer.writeAll_of_checkAll_error checked, Writer.writeAll_of_checkAll_error (checks ▸ checked)]
  | ok _ =>
      rw [Writer.writeAll_of_checkAll_ok rfl checked, Writer.writeAll_of_checkAll_ok rfl (checks ▸ checked)]
      exact commitAll_of_mode ..

/-- Settings that do not state the mode that overwrites spare what stands just when the mode they state, if
any, is a text. All others overwrite as if that had been asked for. -/
theorem sparesTargets_iff (read : Settings.read config = .ok settings)
    (unforced : statedMode config ≠ some (.str "force")) :
    (settings.SparesTargets ↔ ∀ value, statedMode config = some value → ∃ text, value = .str text) ∧
    (¬ settings.SparesTargets → ∃ forced, settings.overwriting = .ok forced ∧
      ∀ (directory : Route) (tree : Tree) (files : List OutputFile),
        Writer.writeAll ⟨directory, settings.output⟩ tree files =
          Writer.writeAll ⟨directory, forced.output⟩ tree files) := by
  have spares (named : ∀ value, statedMode config = some value → ∃ text, value = .str text) :
      settings.SparesTargets :=
    sparesTargets_of_refuse fun _ => refuse_of_stated_text read unforced named
  refine ⟨⟨fun spared value stated => ?_, spares⟩, fun spoils => ?_⟩
  · by_contra noText
    obtain ⟨policy, output, lenient⟩ :=
      exists_policy_of_no_text read stated fun text same => noText ⟨text, same⟩
    exact not_sparesTargets output lenient spared
  · have unnamed := mt spares spoils
    push Not at unnamed
    obtain ⟨value, stated, noText⟩ := unnamed
    obtain ⟨policy, output, lenient⟩ := exists_policy_of_no_text read stated noText
    exact writeAll_eq_overwriting output lenient

/-- Settings that state the mode that refuses spare what stands. -/
theorem sparesTargets_of_stated_refusal :
    ∃ settings, Settings.read (.obj [("output", .obj [("mode", .str "error")])]) = .ok settings ∧
      statedMode (.obj [("output", .obj [("mode", .str "error")])]) ≠ some (.str "force") ∧
      settings.SparesTargets := by
  have unforced : statedMode (.obj [("output", .obj [("mode", .str "error")])]) ≠ some (.str "force") := by
    decide
  refine ⟨_, rfl, unforced, (sparesTargets_iff rfl unforced).1.mpr ?_⟩
  rintro value ⟨⟩
  exact ⟨"error", rfl⟩

/-- A mode that is null is no mode that overwrites, and files are overwritten under it. -/
theorem null_mode_overwrites :
    ∃ settings, Settings.read (.obj [("output", .obj [("mode", .null)])]) = .ok settings ∧
      statedMode (.obj [("output", .obj [("mode", .null)])]) ≠ some (.str "force") ∧
      let writer : Writer := ⟨⟨"/", []⟩, settings.output⟩
      Tree.exists? ⟨[(["a"], .file "register(old")]⟩ (writer.routeOf ⟨"a", "register(new"⟩) = .ok true ∧
      writer.write ⟨[(["a"], .file "register(old")]⟩ ⟨"a", "register(new"⟩ =
        ⟨⟨[(["a"], .file "register(new")]⟩, [⟨"/", ["a"]⟩], none⟩ :=
  ⟨_, rfl, by decide, by decide +kernel, by decide +kernel⟩

end Settings

end Registrar
