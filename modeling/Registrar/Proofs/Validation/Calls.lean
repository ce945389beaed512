import Registrar.Proofs.Validation.Braces
import Mathlib.Data.List.Infix

/-!
# Calls outside of quoted texts

The check of a file that is no Python file counts the braces of its code, and looks for the begin of a
registration call in the whole content. So it accepts braces of which one closes before any has opened, and a
call that stands between double quotes. What is accepted has nested braces and registers just when each
closing brace belongs to an opening one before it and a call begins where no text is open. All modules that
are generated are like this.
-/

namespace Registrar

theorem codeOf_nil : codeOf [] = [] := rfl

/-- A quote that is not closed is an ordinary character. -/
theorem codeOf_unclosed {rest : List Char} (unclosed : literalLength? rest = none) :
    codeOf ('"' :: rest) = '"' :: codeOf rest := by
  rw [codeOf, codeBehind, if_pos rfl, unclosed]
  rfl

/-- Of a text between quotes only the quotes are left. -/
theorem codeOf_closed {inside rest : List Char}
    (closed : literalLength? (inside ++ rest) = some inside.length) :
    codeOf ('"' :: (inside ++ rest)) = '"' :: '"' :: codeOf rest := by
  rw [codeOf, codeBehind, if_pos rfl, closed]
  simp only [codeBehind_eq, List.drop_left]

theorem literalLength?_le {cs : List Char} {length : Nat} (closed : literalLength? cs = some length) :
    length ≤ cs.length := by
  fun_induction literalLength? cs generalizing length with
  | case1 => cases closed
  | case2 rest =>
      obtain rfl := Option.some.inj closed
      exact Nat.le_add_left 1 rest.length
  | case3 => cases closed
  | case4 c rest _ ih =>
      obtain ⟨shorter, found, rfl⟩ := Option.map_eq_some_iff.mp closed
      have bound := ih found
      simp only [List.length_cons]
      omega
  | case5 => cases closed
  | case6 c rest _ _ _ _ ih =>
      obtain ⟨shorter, found, rfl⟩ := Option.map_eq_some_iff.mp closed
      have bound := ih found
      simp only [List.length_cons]
      omega

/-- Code is read character by character, except for the texts between quotes, which are read as a whole. -/
@[elab_as_elim]
theorem code_induction {motive : List Char → Prop} (nil : motive [])
    (plain : ∀ c rest, c ≠ '"' → motive rest → motive (c :: rest))
    (unclosed : ∀ rest, literalLength? rest = none → motive rest → motive ('"' :: rest))
    (closed : ∀ inside rest, literalLength? (inside ++ rest) = some inside.length → motive rest →
      motive ('"' :: (inside ++ rest)))
    (content : List Char) : motive content := by
  induction size : content.length using Nat.strong_induction_on generalizing content with
  | h size ih =>
      subst size
      cases content with
      | nil => exact nil
      | cons c rest =>
          by_cases quote : c = '"'
          · subst quote
            cases read : literalLength? rest with
            | none => exact unclosed rest read (ih rest.length (by simp) rest rfl)
            | some length =>
                have enough := literalLength?_le read
                have cut : rest.take length ++ rest.drop length = rest := List.take_append_drop length rest
                have size : (rest.take length).length = length := List.length_take_of_le enough
                have shorter : (rest.drop length).length < rest.length + 1 := by
                  rw [List.length_drop]
                  omega
                have later := ih (rest.drop length).length shorter (rest.drop length) rfl
                rw [← cut]
                exact closed _ _ (by rw [cut, size, read]) later
          · exact plain c rest quote (ih rest.length (by simp) rest rfl)

/-- The reading of a content comes to what stands behind some of it with no text between quotes open. -/
inductive ReadUpTo (behind : List Char) : List Char → Prop
  | nil : ReadUpTo behind []
  | plain {c : Char} {before : List Char} (noQuote : c ≠ '"') (onward : ReadUpTo behind before) :
      ReadUpTo behind (c :: before)
  | unclosed {before : List Char} (unclosed : literalLength? (before ++ behind) = none)
      (onward : ReadUpTo behind before) : ReadUpTo behind ('"' :: before)
  | closed {inside before : List Char}
      (closed : literalLength? (inside ++ (before ++ behind)) = some inside.length)
      (onward : ReadUpTo behind before) : ReadUpTo behind ('"' :: (inside ++ before))

/-- A text begins in a content where no text between quotes is open. -/
def BeginsOutside (mark content : List Char) : Prop :=
  ∃ before after, content = before ++ (mark ++ after) ∧ ReadUpTo (mark ++ after) before

section Reading

variable {before behind mark content rest : List Char}

/-- Code goes on as that of what stands behind. -/
theorem ReadUpTo.codeOf_append (reading : ReadUpTo behind before) :
    ∃ code, codeOf (before ++ behind) = code ++ codeOf behind := by
  induction reading with
  | nil => exact ⟨[], rfl⟩
  | @plain c before noQuote _ ih =>
      obtain ⟨code, same⟩ := ih
      exact ⟨c :: code, by rw [List.cons_append, codeOf_cons noQuote, same, List.cons_append]⟩
  | unclosed unclosed _ ih =>
      obtain ⟨code, same⟩ := ih
      exact ⟨'"' :: code, by rw [List.cons_append, codeOf_unclosed unclosed, same, List.cons_append]⟩
  | closed closed _ ih =>
      obtain ⟨code, same⟩ := ih
      refine ⟨'"' :: '"' :: code, ?_⟩
      rw [List.cons_append, List.append_assoc, codeOf_closed closed, same, List.cons_append,
        List.cons_append]

/-- Code that begins with a text without quotes is the code of a content that does. -/
theorem exists_eq_append_of_codeOf (noQuote : '"' ∉ mark) (begins : codeOf content = mark ++ rest) :
    ∃ after, content = mark ++ after := by
  induction mark generalizing content with
  | nil => exact ⟨content, rfl⟩
  | cons m mark ih =>
      rw [List.mem_cons, not_or] at noQuote
      cases content with
      | nil => cases begins
      | cons c content =>
          by_cases quote : c = '"'
          · subst quote
            rw [codeOf, codeBehind, if_pos rfl] at begins
            split at begins
            · exact absurd (List.cons.inj begins).1 noQuote.1
            · exact absurd (List.cons.inj begins).1 noQuote.1
          · rw [codeOf_cons quote] at begins
            obtain ⟨rfl, onward⟩ := List.cons.inj begins
            obtain ⟨after, rfl⟩ := ih noQuote.2 onward
            exact ⟨after, rfl⟩

/-- A text without quotes occurs in code just when it begins in the content outside of quoted texts. -/
theorem occursIn_codeOf_iff (some : mark ≠ []) (noQuote : '"' ∉ mark) :
    occursIn mark (codeOf content) = true ↔ BeginsOutside mark content := by
  rw [occursIn_iff]
  constructor
  · rintro ⟨front, back, split⟩
    obtain ⟨m, more, rfl⟩ := List.exists_cons_of_ne_nil some
    have first : m ≠ '"' := fun quote => noQuote (quote ▸ List.mem_cons_self)
    induction content using code_induction generalizing front with
    | nil => simp [codeOf_nil] at split
    | plain c rest other ih =>
        cases front with
        | nil =>
            obtain ⟨after, whole⟩ := exists_eq_append_of_codeOf noQuote (by simpa using split)
            exact ⟨[], after, whole, .nil⟩
        | cons d front =>
            rw [codeOf_cons other] at split
            obtain ⟨before, after, rfl, reading⟩ := ih front (List.cons.inj split).2
            exact ⟨c :: before, after, rfl, .plain other reading⟩
    | unclosed rest unclosed ih =>
        rw [codeOf_unclosed unclosed] at split
        cases front with
        | nil => exact absurd (List.cons.inj split).1.symm first
        | cons d front =>
            obtain ⟨before, after, rfl, reading⟩ := ih front (List.cons.inj split).2
            exact ⟨'"' :: before, after, rfl, .unclosed unclosed reading⟩
    | closed inside rest closed ih =>
        rw [codeOf_closed closed] at split
        rcases front with _ | ⟨d, _ | ⟨e, front⟩⟩
        · exact absurd (List.cons.inj split).1.symm first
        · exact absurd (List.cons.inj (List.cons.inj split).2).1.symm first
        · obtain ⟨before, after, rfl, reading⟩ := ih front (List.cons.inj (List.cons.inj split).2).2
          exact ⟨'"' :: (inside ++ before), after, by simp, .closed closed reading⟩
  · rintro ⟨before, after, rfl, reading⟩
    obtain ⟨code, same⟩ := reading.codeOf_append
    exact ⟨code, codeOf after, by rw [same, Registrar.codeOf_append noQuote, List.append_assoc]⟩

end Reading

/-- The begin of a call stands in the code of a generated module, in front of the text of its id. -/
theorem Emission.occursIn_code {settings : Settings} {definition : Definition} {file : GeneratedFile}
    (emission : Emission settings definition file) (typescript : settings.language = .typescript) :
    occursIn registrationMark (codeOf file.content.toList) = true := by
  obtain ⟨front, calls, ⟨head, -, before⟩, ⟨called, -, between⟩, content⟩ := emission.exists_parts typescript
  have brace : '"' ∉ "\x7b\n".toList := by decide
  have mark : '"' ∉ "  register(".toList := by decide
  have code : occursIn registrationMark "  register(".toList = true := by decide
  rw [content, Language.ownRegistration]
  simp only [String.toList_append, List.append_assoc]
  rw [before, codeOf_append brace, between, codeOf_append mark]
  exact occursIn_append_left _ (occursIn_append_left _ (occursIn_append_left _
    (occursIn_append_right code _)))

/-- A file that is no Python file is accepted just when its code has as many opening as closing braces and its
content holds the begin of a registration call. Of one that is accepted, no front of the code closes more
braces than it opens, and the code holds the begin of a call, just when the braces are nested and the call
begins outside of the texts between quotes. Every module that is generated in TypeScript is like this. -/
theorem validate_nested_iff {file : OutputFile} (other : isPythonPath file.path = false) :
    let content := file.content.marked
    let code := codeOf content
    (validate file = .ok () ↔
      code.count '\x7b' = code.count '\x7d' ∧ occursIn registrationMark content = true) ∧
    (validate file = .ok () →
      (((∀ front, front <+: code → front.count '\x7d' ≤ front.count '\x7b') ∧
          code.count '\x7b' = code.count '\x7d') ∧ occursIn registrationMark code = true ↔
        Nested code ∧ BeginsOutside registrationMark content)) ∧
    ∀ (settings : Settings) (definition : Definition) (generated : GeneratedFile),
      settings.language = .typescript → settings.fileOf definition = .ok generated → file = generated →
        Nested code ∧ BeginsOutside registrationMark content := by
  intro content code
  have outside : occursIn registrationMark code = true ↔ BeginsOutside registrationMark content :=
    occursIn_codeOf_iff (by decide) (by decide)
  refine ⟨?_, fun _ => ?_, ?_⟩
  · rw [validate_eq_ok_iff, checkCode, other]
    by_cases counted : code.count '\x7b' = code.count '\x7d'
    · simp [counted, code, content]
    · simp [counted, code, content]
  · rw [← nested_iff, outside]
  · rintro settings definition generated typescript made rfl
    obtain ⟨emission⟩ := Emission.of_fileOf made
    have same : content = generated.content.toList := Text.marked_coe _
    rw [← outside]
    simp only [code, same]
    exact ⟨(emission.closes_content typescript).nested, emission.occursIn_code typescript⟩

/-- Braces and a call inside of quoted texts count for nothing beside nested ones and a call. -/
theorem validate_nested_iff_small :
    let file : OutputFile := ⟨"a.ts", "const a = \x7b\"\x7d\": \"register(\"\x7d;register(a"⟩
    validate file = .ok () ∧ Nested (codeOf file.content.marked) ∧
      BeginsOutside registrationMark file.content.marked := by
  intro file
  have accepted : validate file = .ok () := by decide +kernel
  have fronts : ∀ front ∈ (codeOf file.content.marked).inits,
      front.count '\x7d' ≤ front.count '\x7b' := by decide +kernel
  refine ⟨accepted, ((validate_nested_iff (by decide +kernel)).2.1 accepted).mp ⟨⟨?_, ?_⟩, ?_⟩⟩
  · exact fun front begins => fronts front ((List.mem_inits ..).mpr begins)
  · decide +kernel
  · decide +kernel

/-- A brace that closes before one opens, and a call inside of a quoted text, are accepted. -/
theorem validate_accepts_unnested :
    let file : OutputFile := ⟨"a.ts", "\x7d\"register(\"\x7b"⟩
    validate file = .ok () ∧ ¬ Nested (codeOf file.content.marked) ∧
      occursIn registrationMark (codeOf file.content.marked) = false := by
  intro file
  refine ⟨by decide +kernel, fun nested => ?_, by decide +kernel⟩
  have first := (nested_iff.mp nested).1 ['\x7d'] (by decide +kernel)
  exact absurd first (by decide)

end Registrar
