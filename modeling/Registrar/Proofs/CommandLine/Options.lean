import Registrar.CommandLine.Run
import Registrar.Proofs.Steps

/-!
# Options that are given as well

An option without a value may be given anywhere among the other arguments, unless it would be read as the
value of an option or stands behind two dashes. All other options and arguments are read as they are without
it.
-/

namespace Registrar.CommandLine

open Files

/-- What an argument is when an option has been turned on before. -/
def Reading.turnOn (switch : Switch) : Reading → Reading
  | .positional => .positional
  | .endOfOptions => .endOfOptions
  | Reading.options found => Reading.options (found.turnOn switch)
  | .awaits setting found => .awaits setting (found.turnOn switch)
  | .refused => .refused

/-- Whether an argument behind some others may be an option: it is not the value of one, and no two dashes
stand before it. -/
def takesOption (options : Options) : List String → Bool
  | [] => true
  | argument :: rest =>
      match readArgument options argument.toList with
      | .positional => takesOption options rest
      | .endOfOptions => false
      | .options more => takesOption more rest
      | .awaits setting more =>
          match rest with
          | [] => false
          | value :: others => takesOption (more.assign value setting) others
      | .refused => false

section Argument

variable (options : Options) (switch : Switch)

theorem turnOn_assign (value : String) (setting : Setting) :
    (options.turnOn switch).assign value setting = (options.assign value setting).turnOn switch := by
  cases switch <;> cases setting <;> rfl

theorem turnOn_comm (other : Switch) :
    (options.turnOn switch).turnOn other = (options.turnOn other).turnOn switch := by
  cases switch <;> cases other <;> rfl

theorem readLong_turnOn (text : List Char) :
    readLong (options.turnOn switch) text = (readLong options text).turnOn switch := by
  simp only [readLong]
  cases named? (text.takeWhile (· ≠ '=')) settingNames with
  | some setting =>
      cases text.drop (text.takeWhile (· ≠ '=')).length with
      | nil => rfl
      | cons sign value => simp only [Reading.turnOn, turnOn_assign]
  | none =>
      cases text.drop (text.takeWhile (· ≠ '=')).length with
      | cons sign value => rfl
      | nil =>
          cases named? (text.takeWhile (· ≠ '=')) switchNames with
          | none => rfl
          | some other => simp only [Reading.turnOn, turnOn_comm]

theorem readShort_turnOn (text : List Char) :
    readShort (options.turnOn switch) text = (readShort options text).turnOn switch := by
  fun_induction readShort options text with
  | case1 => rfl
  | case2 options rest ih => rw [readShort, turnOn_comm, ih]
  | case3 => rfl
  | case4 => rfl
  | case5 options value some => rw [readShort.eq_5 _ _ some, turnOn_assign, Reading.turnOn]
  | case6 options value some => rw [readShort.eq_6 _ _ some, turnOn_assign, Reading.turnOn]
  | case7 options text =>
      rw [readShort, Reading.turnOn]
      all_goals assumption

theorem readArgument_turnOn (argument : List Char) :
    readArgument (options.turnOn switch) argument = (readArgument options argument).turnOn switch := by
  unfold readArgument
  split
  · rfl
  · exact readLong_turnOn ..
  · exact readShort_turnOn ..
  · rfl

variable {switch}

/-- The long name of an option that takes no value turns it on. -/
theorem readArgument_of_named {name : String} (named : (name, switch) ∈ switchNames) :
    readArgument options ("--" ++ name).toList = .options (options.turnOn switch) := by
  simp only [switchNames, List.mem_cons, List.not_mem_nil, Prod.mk.injEq, or_false] at named
  rcases named with ⟨rfl, rfl⟩ | ⟨rfl, rfl⟩ | ⟨rfl, rfl⟩ | ⟨rfl, rfl⟩ | ⟨rfl, rfl⟩ <;> rfl

end Argument

section Arguments

variable {options : Options} {switch : Switch}

/-- An option that is turned on before the others stays on, and changes nothing else. -/
theorem readArguments_turnOn (options : Options) (switch : Switch) (arguments : List String) :
    readArguments (options.turnOn switch) arguments =
      (readArguments options arguments).map (Prod.map (·.turnOn switch) id) := by
  fun_induction readArguments options arguments with
  | case1 => rfl
  | case2 options argument rest isPositional ih =>
      rw [readArguments, readArgument_turnOn, isPositional]
      simp only [Reading.turnOn, ih, Option.map_map]
      rfl
  | case3 options argument rest ends =>
      rw [readArguments, readArgument_turnOn, ends]
      rfl
  | case4 options argument rest more found ih =>
      rw [readArguments, readArgument_turnOn, found]
      exact ih
  | case5 options argument setting more found =>
      rw [readArguments, readArgument_turnOn, found]
      rfl
  | case6 options argument setting more found value others ih =>
      rw [readArguments, readArgument_turnOn, found]
      simp only [Reading.turnOn, turnOn_assign, ih]
  | case7 options argument rest refused =>
      rw [readArguments, readArgument_turnOn, refused]
      rfl

/-- Where an option may be given, it is read as if it had been given before all others. -/
theorem readArguments_insert {name : String} {before rest : List String}
    (named : (name, switch) ∈ switchNames) (taken : takesOption options before = true) :
    readArguments options (before ++ ("--" ++ name) :: rest) =
      (readArguments options (before ++ rest)).map (Prod.map (·.turnOn switch) id) := by
  fun_induction takesOption options before with
  | case1 options =>
      rw [List.nil_append, readArguments, readArgument_of_named options named]
      exact readArguments_turnOn options switch rest
  | case2 options argument others isPositional ih =>
      simp only [List.cons_append, readArguments, isPositional, ih taken, Option.map_map]
      rfl
  | case3 => cases taken
  | case4 options argument others more found ih =>
      simp only [List.cons_append, readArguments, found, ih taken]
  | case5 => cases taken
  | case6 options argument setting more found value others ih =>
      simp only [List.cons_append, readArguments, found, ih taken]
  | case7 => cases taken

end Arguments

section Invocations

variable {tree : Tree} {current : Route} {arguments : List String} {invocation : Invocation}

/-- A command line can be read when it has the two arguments and does not ask for the help, and what it names
passes the checks. -/
theorem read_eq_ok_iff :
    Invocation.read tree current arguments = .ok invocation ↔
      readArguments .none arguments = some (invocation.options, [invocation.path, invocation.output]) ∧
        invocation.options.help = false ∧
        (∀ setting ∈ invocation.options.given, invocation.options.check tree current setting = .ok ()) ∧
        checkInput tree current invocation.path = .ok () ∧
        checkOutput tree current invocation.output = .ok () := by
  rw [Invocation.read]
  cases readArguments .none arguments with
  | none => simp
  | some found =>
      obtain ⟨options, others⟩ := found
      dsimp only
      by_cases help : options.help = true
      · rw [if_pos help]
        refine iff_of_false nofun ?_
        rintro ⟨⟨⟩, unasked, -⟩
        rw [help] at unasked
        cases unasked
      rw [if_neg help]
      rw [Bool.not_eq_true] at help
      match others with
      | [] => simp [check_bind_eq_ok_iff, throw, throwThe, MonadExceptOf.throw]
      | [path] => simp [check_bind_eq_ok_iff, throw, throwThe, MonadExceptOf.throw]
      | path :: output :: more =>
          by_cases few : more = []
          · subst few
            simp only [check_bind_eq_ok_iff, forM_eq_ok_iff, if_true, pure_eq_ok_iff]
            constructor
            · rintro ⟨valid, input, place, rfl⟩
              exact ⟨rfl, help, valid, input, place⟩
            · rintro ⟨⟨⟩, -, valid, input, place⟩
              exact ⟨valid, input, place, rfl⟩
          · simp [few, check_bind_eq_ok_iff, throw, throwThe, MonadExceptOf.throw]

theorem given_turnOn (options : Options) (switch : Switch) :
    (options.turnOn switch).given = options.given := by
  cases switch <;> rfl

/-- The values of options are checked alike whatever else is turned on. -/
theorem check_turnOn (options : Options) (switch : Switch) (setting : Setting) :
    (options.turnOn switch).check tree current setting = options.check tree current setting := by
  cases switch <;> cases setting <;> rfl

theorem help_turnOn (options : Options) {switch : Switch} (other : switch ≠ .help) :
    (options.turnOn switch).help = options.help := by
  cases switch with
  | help => exact absurd rfl other
  | _ => rfl

/-- A command line that can be read can be read with one more option that takes no value, unless that asks
for the help. -/
theorem read_insert {switch : Switch} {name : String} {before rest : List String}
    (named : (name, switch) ∈ switchNames) (other : switch ≠ .help) (taken : takesOption .none before = true)
    (asked : Invocation.read tree current (before ++ rest) = .ok invocation) :
    Invocation.read tree current (before ++ ("--" ++ name) :: rest) =
      .ok { invocation with options := invocation.options.turnOn switch } := by
  obtain ⟨found, unasked, valid, input, place⟩ := read_eq_ok_iff.mp asked
  refine read_eq_ok_iff.mpr ⟨?_, (help_turnOn _ other).trans unasked, ?_, input, place⟩
  · rw [readArguments_insert named taken, found]
    rfl
  · intro setting member
    rw [check_turnOn]
    rw [given_turnOn] at member
    exact valid setting member

end Invocations

end Registrar.CommandLine
