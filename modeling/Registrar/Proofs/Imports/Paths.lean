import Registrar.Proofs.Generation.Emission
import Registrar.Proofs.Naming.ClassName

/-!
# Paths of imports

The last step of the path under which a schema is imported is its class name, whether the path leads into
a package or to a module of the run. So schemas with different class names are imported from different
places, and each of them has an import statement of its own.
-/

namespace Registrar

/-- A text without an ending that was put behind it. -/
theorem trimEnding_append (front ending : String) : trimEnding ending (front ++ ending) = front := by
  have behind : ending.toList.isSuffixOf (front ++ ending).toList = true := by
    rw [List.isSuffixOf_iff_suffix, String.toList_append]
    exact List.suffix_append _ _
  rw [trimEnding, if_pos behind, String.toList_append]
  simp

/-- The mark in front of the last step of an import path. -/
def Language.stepMark : Language → Char
  | .typescript => '/'
  | .python => '.'

theorem not_isWordChar_stepMark (language : Language) : isWordChar language.stepMark = false := by
  cases language <;> decide

/-- What stands behind the last mark of a text is determined by the text. -/
theorem eq_of_append_cons_eq {mark : Char} {first second front behind : List Char}
    (inFirst : mark ∉ front) (inSecond : mark ∉ behind)
    (same : first ++ mark :: front = second ++ mark :: behind) : front = behind := by
  have last (before : List Char) {after : List Char} (none : mark ∉ after) :
      (before ++ mark :: after).reverse.takeWhile (· ≠ mark) = after.reverse := by
    have others : ∀ c ∈ after.reverse, (decide (c ≠ mark)) = true := by
      intro c member
      rw [decide_eq_true_eq]
      rintro rfl
      exact none (List.mem_reverse.mp member)
    rw [List.reverse_append, List.reverse_cons, List.append_assoc,
      List.takeWhile_append_of_pos others]
    simp
  have reversed := last first inFirst
  rw [same, last second inSecond] at reversed
  exact (List.reverse_injective reversed).symm

namespace Settings

variable {settings : Settings}

/-- The path of a schema in a package is that of the package, of the directory of schemas, and of the class
name. -/
theorem toList_externalModule (settings : Settings) (package : Json) (id : String) :
    (settings.language.externalModule package (settings.schemaPath id)).toList =
      package.inserted.toList ++ settings.language.stepMark ::
        ("_schemas".toList ++ settings.language.stepMark :: (settings.className id).toList) := by
  have file : settings.schemaPath id =
      "_schemas/" ++ settings.className id ++ settings.language.extension := rfl
  rw [file]
  cases language : settings.language with
  | typescript =>
      simp [Language.externalModule, Language.extension, trimEnding_append, Language.stepMark]
  | python =>
      have plain : (settings.className id).toList.map (fun c => if c = '/' then '.' else c) =
          (settings.className id).toList := by
        conv_rhs => rw [← List.map_id (settings.className id).toList]
        apply List.map_congr_left
        intro c member
        have other : c ≠ '/' := by
          rintro rfl
          exact not_mem_className (by decide) member
        simp [other]
      simp [Language.externalModule, Language.extension, trimEnding_append, Language.stepMark,
        Language.dotted, plain]

/-- The last step of an import path is the class name. -/
theorem exists_importPath_eq (settings : Settings) (id : String) :
    ∃ front, (settings.importPath id).toList =
      front ++ settings.language.stepMark :: (settings.className id).toList := by
  unfold importPath
  cases settings.packageFor (settings.domainOf id) with
  | ok package =>
      refine ⟨package.inserted.toList ++ settings.language.stepMark :: "_schemas".toList, ?_⟩
      simp only [toList_externalModule, List.append_assoc, List.cons_append]
  | error fault =>
      cases settings.language with
      | typescript => exact ⟨['.'], by simp [Language.localModule, Language.stepMark]⟩
      | python => exact ⟨[], by simp [Language.localModule, Language.stepMark]⟩

theorem className_eq_of_importPath_eq {first second : String}
    (same : settings.importPath first = settings.importPath second) :
    settings.className first = settings.className second := by
  have noMark (id : String) : settings.language.stepMark ∉ (settings.className id).toList :=
    not_mem_className (not_isWordChar_stepMark _)
  obtain ⟨front, one⟩ := exists_importPath_eq settings first
  obtain ⟨front', other⟩ := exists_importPath_eq settings second
  rw [same, other] at one
  exact (String.toList_inj.mp (eq_of_append_cons_eq (noMark second) (noMark first) one)).symm

end Settings

end Registrar
