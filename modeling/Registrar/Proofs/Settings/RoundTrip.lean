import Registrar.Proofs.Settings.Reading

/-!
# Reading what was written

Settings are read from the values of their keys, whatever the order of these is and whatever keys there are
besides. A package that is null is read as one that is left out, which is the default of the language. What
is written of settings has all their keys in a fixed order, with each value that was given, and it is read as
the same settings.

## Implementation notes

Output settings are compared by their own keys, and only where both are objects. Other values of that key are
kept as they are, and they cannot be written.
-/

namespace Registrar

namespace Settings

/-- The keys of settings, in the order in which they are written. -/
def keys : List String :=
  ["language", "external_apimachinery", "external_kubernetes_models", "apimachinery_package",
    "kubernetes_models_package", "register_module", "qualified_class_names", "output"]

/-- The keys of output settings, in the order in which they are written. -/
def outputKeys : List String := ["mode", "validate_before_write", "atomic_write"]

/-- The keys of settings that count by whether they are true. -/
def flagKeys : List String := ["external_apimachinery", "external_kubernetes_models", "qualified_class_names"]

/-- A setting that names a package or a module and has a default in each language. -/
inductive PackageSetting where
  | apimachinery
  | kubernetesModels
  | register
  deriving DecidableEq, Repr

namespace PackageSetting

/-- The key of a package. -/
def key : PackageSetting → String
  | .apimachinery => "apimachinery_package"
  | .kubernetesModels => "kubernetes_models_package"
  | .register => "register_module"

/-- The package that settings name. -/
def value : PackageSetting → Settings → Json
  | .apimachinery => apimachineryPackage
  | .kubernetesModels => kubernetesModelsPackage
  | .register => registerModule

/-- The package that a language has by default. -/
def standard : PackageSetting → Language → String
  | .apimachinery => Language.apimachineryPackage
  | .kubernetesModels => Language.kubernetesPackage
  | .register => Language.registerModule

theorem key_injective {one other : PackageSetting} (same : one.key = other.key) : one = other := by
  cases one <;> cases other <;> simp [key] at same ⊢

end PackageSetting

section Reading

variable {fields others : List (String × Json)} {settings : Settings}

/-- Objects are read alike if they agree on the output settings, the language and the flags, and on the
packages as far as these are no defaults. -/
theorem read_congr
    (outputs : outputGiven (Json.field? "output" fields) = outputGiven (Json.field? "output" others))
    (language : Json.field? "language" fields = Json.field? "language" others)
    (flags : ∀ key ∈ flagKeys, Json.field? key fields = Json.field? key others)
    (packages : ∀ (package : PackageSetting) (standard : String),
      packageOr standard (Json.field? package.key fields) =
        packageOr standard (Json.field? package.key others)) :
    read (.obj fields) = read (.obj others) := by
  have apimachinery := packages .apimachinery
  have kubernetesModels := packages .kubernetesModels
  have register := packages .register
  simp only [PackageSetting.key] at apimachinery kubernetesModels register
  have made (language : Language) (output : OutputSetting) :
      ofGiven (fun key => Json.field? key fields) language output =
        ofGiven (fun key => Json.field? key others) language output := by
    rw [ofGiven, ofGiven, flags "external_apimachinery" (by decide),
      flags "external_kubernetes_models" (by decide), flags "qualified_class_names" (by decide),
      apimachinery, kubernetesModels, register]
  rw [read_obj, read_obj, outputs, language]
  simp only [made]

/-- Two values of the key for output settings, if any, are the same or objects that agree on the keys of
output settings. -/
inductive OutputsAgree : Option Json → Option Json → Prop
  | same (value? : Option Json) : OutputsAgree value? value?
  | inside {inner other : List (String × Json)}
      (agree : ∀ key ∈ outputKeys, Json.field? key inner = Json.field? key other) :
      OutputsAgree (some (.obj inner)) (some (.obj other))

/-- Two objects agree on the keys of settings. -/
structure AgreeOnKeys (fields others : List (String × Json)) : Prop where
  values : ∀ key ∈ keys, key ≠ "output" → Json.field? key fields = Json.field? key others
  output : OutputsAgree (Json.field? "output" fields) (Json.field? "output" others)

theorem OutputsAgree.outputGiven_eq {first second : Option Json} (agree : OutputsAgree first second) :
    outputGiven first = outputGiven second := by
  cases agree with
  | same => rfl
  | inside agree =>
      simp only [outputKeys, List.forall_mem_cons] at agree
      obtain ⟨mode, validate, atomic, -⟩ := agree
      rw [outputGiven, outputGiven, readOutput, readOutput, mode, validate, atomic]

/-- Objects that agree on the keys of settings are read alike. -/
theorem AgreeOnKeys.read_eq (agree : AgreeOnKeys fields others) :
    read (.obj fields) = read (.obj others) := by
  have flagged : ∀ key ∈ flagKeys, key ∈ keys ∧ key ≠ "output" := by decide
  have packaged (package : PackageSetting) : package.key ∈ keys ∧ package.key ≠ "output" := by
    cases package <;> decide
  apply read_congr agree.output.outputGiven_eq
  · exact agree.values "language" (by decide) (by decide)
  · intro key member
    exact agree.values key (flagged key member).1 (flagged key member).2
  · intro package standard
    rw [agree.values package.key (packaged package).1 (packaged package).2]

theorem packageOr_of_ne_null {value : Json} (stated : value ≠ .null) (standard : String) :
    packageOr standard (some value) = value := by
  cases value with
  | null => exact absurd rfl stated
  | _ => rfl

theorem packageOr_ne_null (standard : String) (value? : Option Json) :
    packageOr standard value? ≠ .null := by
  cases value? with
  | none => exact nofun
  | some value => cases value <;> exact nofun

theorem PackageSetting.value_ofGiven (package : PackageSetting) (given : String → Option Json)
    (language : Language) (output : OutputSetting) :
    package.value (ofGiven given language output) =
      packageOr (package.standard language) (given package.key) := by
  cases package <;> rfl

/-- A package that is null is read as one that is left out. -/
theorem read_null (package : PackageSetting) (fields : List (String × Json)) :
    read (.obj (Json.setField package.key .null fields)) =
      read (.obj (Json.dropField package.key fields)) := by
  have other (key : String) (different : key ≠ package.key) :
      Json.field? key (Json.setField package.key .null fields) =
        Json.field? key (Json.dropField package.key fields) :=
    (Json.field?_setField_ne different .null fields).trans (Json.field?_dropField_ne different fields).symm
  have flagged : ∀ key ∈ "output" :: "language" :: flagKeys, key ≠ package.key := by
    cases package <;> decide
  apply read_congr
  · rw [other "output" (flagged _ (by decide))]
  · exact other "language" (flagged _ (by decide))
  · intro key member
    exact other key (flagged key (List.mem_cons_of_mem _ (List.mem_cons_of_mem _ member)))
  · intro one standard
    by_cases same : one = package
    · rw [same, Json.field?_setField_self, Json.field?_dropField_self]
      rfl
    · rw [other one.key (mt PackageSetting.key_injective same)]

/-- A package that is left out is the default of the language. -/
theorem value_of_absent {package : PackageSetting} (found : read (.obj fields) = .ok settings)
    (absent : Json.field? package.key fields = none) :
    package.value settings = .str (package.standard settings.language) := by
  obtain ⟨output, language, -, -, rfl⟩ := read_obj_eq_ok_iff.mp found
  rw [package.value_ofGiven, absent]
  rfl

end Reading

/-- The entries of written settings, where what is written of the output settings is given. -/
def writtenFields (settings : Settings) (outputs : Json) : List (String × Json) :=
  [("language", .str settings.language.name),
    ("external_apimachinery", settings.externalApimachinery),
    ("external_kubernetes_models", settings.externalKubernetesModels),
    ("apimachinery_package", settings.apimachineryPackage),
    ("kubernetes_models_package", settings.kubernetesModelsPackage),
    ("register_module", settings.registerModule),
    ("qualified_class_names", settings.qualifiedClassNames),
    ("output", outputs)]

/-- The entries of a written policy, where the name of its mode is given. -/
def writtenPolicy (policy : OutputPolicy) (mode : String) : List (String × Json) :=
  [("mode", .str mode), ("validate_before_write", policy.validate), ("atomic_write", policy.atomic)]

section Writing

variable {fields inner : List (String × Json)} {settings : Settings} {setting : OutputSetting}
  {policy : OutputPolicy} {mode : OverwriteMode} {text : String} {outputs : Json}

theorem writeOutput_stated (named : modeName policy.mode = .ok text) :
    writeOutput (.stated policy) = .ok (.obj (writtenPolicy policy text)) := by
  rw [writeOutput, named]
  rfl

/-- What is written of output settings is read as these. -/
theorem readOutput_writeOutput (written : writeOutput setting = .ok outputs) :
    readOutput outputs = .ok setting := by
  cases setting with
  | unread value => cases written
  | stated policy =>
      obtain ⟨text, named, same⟩ := bind_eq_ok_iff.mp written
      obtain rfl := pure_eq_ok_iff.mp same
      apply readOutput_obj_eq_ok_iff.mpr
      refine ⟨policy.mode, readMode_str_eq_ok_iff.mpr named, ?_⟩
      rfl

theorem write_eq_ok (written : writeOutput settings.output = .ok outputs) :
    settings.write = .ok (.obj (settings.writtenFields outputs)) := by
  rw [write, written]
  rfl

theorem readLanguage_name (language : Language) : readLanguage (.str language.name) = .ok language := by
  rw [readLanguage, Language.ofName?_name]

/-- What is written of settings that have their packages is read as these. -/
theorem read_writtenFields (packages : ∀ package : PackageSetting, package.value settings ≠ .null)
    (written : writeOutput settings.output = .ok outputs) :
    read (.obj (settings.writtenFields outputs)) = .ok settings := by
  apply read_obj_eq_ok_iff.mpr
  refine ⟨settings.output, settings.language, readOutput_writeOutput written, ?_, ?_⟩
  · exact readLanguage_name settings.language
  · obtain ⟨language, apimachineryFlag, kubernetesFlag, apimachinery, kubernetes, register, qualified, output⟩ :=
      settings
    have first : apimachinery ≠ .null := packages .apimachinery
    have second : kubernetes ≠ .null := packages .kubernetesModels
    have third : register ≠ .null := packages .register
    change _ = Settings.mk language apimachineryFlag kubernetesFlag (packageOr _ (some apimachinery))
      (packageOr _ (some kubernetes)) (packageOr _ (some register)) qualified output
    rw [packageOr_of_ne_null first, packageOr_of_ne_null second, packageOr_of_ne_null third]

end Writing

/-- Output settings, if there are any, are an object whose mode, if there is one, is a text. -/
def NamesMode (fields : List (String × Json)) : Prop :=
  ∀ value, Json.field? "output" fields = some value → ∃ inner, value = .obj inner ∧
    ∀ mode, Json.field? "mode" inner = some mode → ∃ text, mode = .str text

/-- What is given under the keys of settings is written under them. Only a package that is null gives way to
the default of the language. -/
structure Keeps (fields written : List (String × Json)) : Prop where
  values : ∀ key ∈ "language" :: flagKeys, ∀ value, Json.field? key fields = some value →
    Json.field? key written = some value
  packages : ∀ (package : PackageSetting) value, Json.field? package.key fields = some value →
    value ≠ .null → Json.field? package.key written = some value
  output : ∀ inner, Json.field? "output" fields = some (.obj inner) → ∃ outputs,
    Json.field? "output" written = some (.obj outputs) ∧
    ∀ key ∈ outputKeys, ∀ value, Json.field? key inner = some value → Json.field? key outputs = some value

section RoundTrip

variable {fields inner : List (String × Json)} {settings : Settings} {setting : OutputSetting}
  {mode : OverwriteMode}

/-- A mode that is left out or named by a text has a name, which is this text. -/
theorem exists_modeName {value? : Option Json} (given : modeGiven value? = .ok mode)
    (named : ∀ value, value? = some value → ∃ text, value = .str text) :
    ∃ text, modeName mode = .ok text ∧ ∀ value, value? = some value → value = .str text := by
  cases value? with
  | none =>
      cases given
      exact ⟨"error", rfl, nofun⟩
  | some value =>
      obtain ⟨text, rfl⟩ := named value rfl
      refine ⟨text, readMode_str_eq_ok_iff.mp given, ?_⟩
      rintro _ ⟨⟩
      rfl

/-- A written policy has what was given for it. -/
theorem field?_writtenPolicy {text : String}
    (named : ∀ value, Json.field? "mode" inner = some value → value = .str text) {key : String}
    (known : key ∈ outputKeys) {value : Json} (given : Json.field? key inner = some value) :
    Json.field? key (writtenPolicy (policyGiven inner mode) text) = some value := by
  simp only [outputKeys, List.mem_cons, List.not_mem_nil, or_false] at known
  rcases known with rfl | rfl | rfl
  · rw [named value given]
    rfl
  · change some ((Json.field? "validate_before_write" inner).getD (.bool true)) = some value
    rw [given, Option.getD_some]
  · change some ((Json.field? "atomic_write" inner).getD (.bool true)) = some value
    rw [given, Option.getD_some]

/-- Output settings that name their mode can be written, with all that was given for them. -/
theorem exists_writeOutput (named : NamesMode fields)
    (given : outputGiven (Json.field? "output" fields) = .ok setting) :
    ∃ outputs, writeOutput setting = .ok (.obj outputs) ∧
      ∀ inner, Json.field? "output" fields = some (.obj inner) → ∀ key ∈ outputKeys, ∀ value,
        Json.field? key inner = some value → Json.field? key outputs = some value := by
  cases present : Json.field? "output" fields with
  | none =>
      rw [present] at given
      cases given
      exact ⟨_, writeOutput_stated rfl, nofun⟩
  | some value =>
      obtain ⟨inner, rfl, texts⟩ := named value present
      rw [present] at given
      obtain ⟨mode, read, rfl⟩ := readOutput_obj_eq_ok_iff.mp given
      obtain ⟨text, name, stated⟩ := exists_modeName read texts
      refine ⟨_, writeOutput_stated name, ?_⟩
      rintro _ ⟨⟩ key known value given
      exact field?_writtenPolicy stated known given

theorem eq_str_of_readLanguage {value : Json} {language : Language}
    (found : readLanguage value = .ok language) : value = .str language.name := by
  cases value with
  | str name =>
      rw [readLanguage] at found
      cases named : Language.ofName? name with
      | none => simp [named] at found
      | some other =>
          rw [named] at found
          cases found
          rw [Language.name_of_ofName? named]
  | _ => cases found

/-- A flag is written as it was given, and else as its default. -/
theorem exists_field?_flag (given : String → Option Json) (language : Language) (output : OutputSetting)
    (outputs : Json) {key : String} (flag : key ∈ flagKeys) :
    ∃ standard, Json.field? key ((ofGiven given language output).writtenFields outputs) =
      some ((given key).getD standard) := by
  simp only [flagKeys, List.mem_cons, List.not_mem_nil, or_false] at flag
  rcases flag with rfl | rfl | rfl
  · exact ⟨.bool false, rfl⟩
  · exact ⟨.bool false, rfl⟩
  · exact ⟨.bool true, rfl⟩

theorem PackageSetting.field?_writtenFields (package : PackageSetting) (settings : Settings) (outputs : Json) :
    Json.field? package.key (settings.writtenFields outputs) = some (package.value settings) := by
  cases package <;> rfl

/-- Settings that were read and name their mode can be written, with all that was given for them. -/
theorem exists_write (named : NamesMode fields) (found : read (.obj fields) = .ok settings) :
    ∃ outputs, writeOutput settings.output = .ok outputs ∧
      Keeps fields (settings.writtenFields outputs) := by
  obtain ⟨output, language, given, spoken, rfl⟩ := read_obj_eq_ok_iff.mp found
  obtain ⟨outputs, written, inside⟩ := exists_writeOutput named given
  refine ⟨.obj outputs, written, ?_, ?_, ?_⟩
  · intro key known value present
    rcases List.mem_cons.mp known with rfl | flag
    · rw [present, Option.getD_some] at spoken
      rw [eq_str_of_readLanguage spoken]
      rfl
    · obtain ⟨standard, stands⟩ := exists_field?_flag (fun key => Json.field? key fields) language output
        (.obj outputs) flag
      rw [stands, present, Option.getD_some]
  · intro package value present stated
    rw [package.field?_writtenFields, package.value_ofGiven, present, packageOr_of_ne_null stated]
  · intro inner present
    exact ⟨outputs, rfl, inside inner present⟩

/-- No package of settings that were read is null. -/
theorem value_ne_null (found : read (.obj fields) = .ok settings) (package : PackageSetting) :
    package.value settings ≠ .null := by
  obtain ⟨output, language, -, -, rfl⟩ := read_obj_eq_ok_iff.mp found
  rw [package.value_ofGiven]
  exact packageOr_ne_null _ _

end RoundTrip

/-- Settings that are read from an object and name their mode can be written. What is written has all keys of
settings, with every value that was given, and is read as the same settings, which are written alike again.
Objects that agree on the keys of settings are read alike, to the same settings or with the same fault. And a
package that is null is read as one that is left out, and is then the default of the language that was
read. -/
theorem read_write :
    (∀ fields settings, read (.obj fields) = .ok settings → NamesMode fields →
      ∃ written, settings.write = .ok (.obj written) ∧ written.map (·.1) = keys ∧ Keeps fields written ∧
        read (.obj written) = .ok settings ∧
        (read (.obj written)).bind write = .ok (.obj written)) ∧
    (∀ fields others, AgreeOnKeys fields others → read (.obj fields) = read (.obj others)) ∧
    ∀ (package : PackageSetting) fields,
      read (.obj (Json.setField package.key .null fields)) =
        read (.obj (Json.dropField package.key fields)) ∧
      ∀ settings, read (.obj (Json.setField package.key .null fields)) = .ok settings →
        package.value settings = .str (package.standard settings.language) := by
  refine ⟨?_, fun fields others agree => agree.read_eq, ?_⟩
  · intro fields settings found named
    obtain ⟨outputs, given, keeps⟩ := exists_write named found
    have written := write_eq_ok given
    have again := read_writtenFields (value_ne_null found) given
    refine ⟨_, written, rfl, keeps, again, ?_⟩
    rw [again]
    exact written
  · intro package fields
    refine ⟨read_null package fields, fun settings found => ?_⟩
    rw [read_null] at found
    exact value_of_absent found (Json.field?_dropField_self ..)

/-- Settings with keys that are not known, a package that is null, one that is no text, and a flag that is
null, beside the same without the former keys and in another order. -/
theorem read_write_mixed :
    let fields : List (String × Json) := [("output", .obj [("mode", .str "force"), ("x", .int 1)]),
      ("register_module", .null), ("y", .bool true), ("apimachinery_package", .int 3),
      ("language", .str "python"), ("external_apimachinery", .null)]
    let others : List (String × Json) := [("language", .str "python"), ("external_apimachinery", .null),
      ("apimachinery_package", .int 3), ("register_module", .null), ("output", .obj [("mode", .str "force")])]
    ∃ settings written, (read (.obj fields) = .ok settings ∧ NamesMode fields ∧
        settings.write = .ok (.obj written) ∧ read (.obj written) = .ok settings) ∧
      (AgreeOnKeys fields others ∧ read (.obj others) = .ok settings) ∧
      PackageSetting.register.value settings = .str "kubernetes_models.validate" := by
  intro fields others
  have named : NamesMode fields := by
    rintro value ⟨⟩
    refine ⟨_, rfl, ?_⟩
    rintro mode ⟨⟩
    exact ⟨_, rfl⟩
  have found : read (.obj fields) = .ok ⟨.python, .null, .bool false, .int 3, .str "kubernetes_models",
      .str "kubernetes_models.validate", .bool true,
      .stated ⟨.overwrite, .bool true, .bool true⟩⟩ := by
    decide +kernel
  have agree : AgreeOnKeys fields others := ⟨by decide +kernel, .inside (by decide +kernel)⟩
  obtain ⟨laws, alike, defaults⟩ := read_write
  obtain ⟨written, made, -, -, again, -⟩ := laws fields _ found named
  exact ⟨_, written, ⟨found, named, made, again⟩, ⟨agree, (alike fields others agree).symm.trans found⟩,
    (defaults .register fields).2 _ found⟩

end Settings

end Registrar
