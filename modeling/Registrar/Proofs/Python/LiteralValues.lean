import Registrar.Proofs.Python.Lexemes

/-!
# The values of text literals

The value of a literal is a row of code points. Each escape has its own rule: an octal one takes up to
three digits, the others that are numbers a fixed count, and each stands for the code point that the
number says, whether it is the code point of a character or half of a pair. So a character that is
written as a pair of 16-bit units has two code points in the value of the literal, while one that stands
for itself has one.

## Implementation notes

Which character a name stands for is left open. No text that is written here has an escape with a name.
-/

namespace Registrar.Python

/-- Whether a character is an octal digit. -/
def isOctalDigit (c : Char) : Bool :=
  '0' ≤ c && c ≤ '7'

/-- The value of octal digits. -/
def octalNumber (digits : List Char) : Nat :=
  digits.foldl (fun n c => 8 * n + (c.toNat - 48)) 0

/-- The code point that a count of hexadecimal digits says, with the count of the digits. -/
def hexEscape? (count bound : Nat) (rest : List Char) : Option (List Nat × Nat) :=
  if hasHexDigits count bound rest then some ([hexNumber (rest.take count)], count) else none

/-- The code point of the character with a name in braces, with the count of the characters that say
it. -/
def namedEscape? (named : List Char → Option Nat) : List Char → Option (List Nat × Nat)
  | '\x7b' :: rest =>
      let name := rest.takeWhile (· ≠ '\x7d')
      if name.length < rest.length then (named name).map fun point => ([point], name.length + 2)
      else none
  | _ => none

/-- The code points of an escape with a letter, and how many characters behind the letter belong to
it. An escape that is not known stands for itself. -/
def escapeValue? (named : List Char → Option Nat) (letter : Char) (rest : List Char) :
    Option (List Nat × Nat) :=
  match letter with
  | '\n' => some ([], 0)
  | '\\' => some ([0x5C], 0)
  | '\'' => some ([0x27], 0)
  | '"' => some ([0x22], 0)
  | 'a' => some ([0x07], 0)
  | 'b' => some ([0x08], 0)
  | 'f' => some ([0x0C], 0)
  | 'n' => some ([0x0A], 0)
  | 'r' => some ([0x0D], 0)
  | 't' => some ([0x09], 0)
  | 'v' => some ([0x0B], 0)
  | 'x' => hexEscape? 2 0x100 rest
  | 'u' => hexEscape? 4 0x10000 rest
  | 'U' => hexEscape? 8 0x110000 rest
  | 'N' => namedEscape? named rest
  | other =>
      if isOctalDigit other then
        let more := (rest.take 2).takeWhile isOctalDigit
        some ([octalNumber (other :: more)], more.length)
      else some ([0x5C, other.toNat], 0)

/-- The code points of the inside of a literal, from behind a number of characters on. -/
def pointsBehind (named : List Char → Option Nat) : Nat → List Char → Option (List Nat)
  | _, [] => some []
  | skipped + 1, _ :: rest => pointsBehind named skipped rest
  | 0, c :: rest =>
      if c = '\\' then
        match rest with
        | [] => none
        | letter :: after => do
            let (points, taken) ← escapeValue? named letter after
            return points ++ (← pointsBehind named (taken + 1) rest)
      else do return c.toNat :: (← pointsBehind named 0 rest)

/-- The code points of the inside of a literal. -/
def points? (named : List Char → Option Nat) (inside : List Char) : Option (List Nat) :=
  pointsBehind named 0 inside

/-- The value of the literal without letters in front that begins a text, and what follows it. -/
def literalValue? (named : List Char → Option Nat) (cs : List Char) :
    Option (List Nat × List Char) :=
  if cs.head? = some '\'' ∨ cs.head? = some '"' then do
    let (inside, after) ← quotedInside? cs
    return (← points? named inside, after)
  else none

/-- A text with escapes of several kinds, one of them a pair of units. -/
example : literalValue? (fun _ => none) "'a\\x41\\101\\ud83d\\ude00\\U0001f600\\q'+".toList =
    some ([0x61, 0x41, 0x41, 0xD83D, 0xDE00, 0x1F600, 0x5C, 0x71], ['+']) := by
  decide +kernel

variable (named : List Char → Option Nat)

theorem pointsBehind_eq (skipped : Nat) (inside : List Char) :
    pointsBehind named skipped inside = points? named (inside.drop skipped) := by
  induction inside generalizing skipped with
  | nil => cases skipped <;> rfl
  | cons c rest ih =>
      cases skipped with
      | zero => rfl
      | succ skipped => exact ih skipped

theorem points?_cons {c : Char} (other : c ≠ '\\') (rest : List Char) :
    points? named (c :: rest) = (points? named rest).map (c.toNat :: ·) := by
  have step : points? named (c :: rest) = (points? named rest).bind fun points =>
      some (c.toNat :: points) := by
    cases rest <;> rw [points?, pointsBehind, if_neg other] <;> rfl
  rw [step]
  cases points? named rest <;> rfl

theorem points?_escape {letter : Char} {after : List Char} {points : List Nat} {taken : Nat}
    (found : escapeValue? named letter after = some (points, taken)) :
    points? named ('\\' :: letter :: after) = (points? named (after.drop taken)).map (points ++ ·) := by
  rw [points?, pointsBehind, if_pos rfl]
  simp only [found, pointsBehind_eq, List.drop_succ_cons, Option.bind_eq_bind, Option.bind_some]
  cases points? named (after.drop taken) <;> rfl

/-- The code points with which a literal in an alphabet holds a character. -/
def writtenPoints : Quoted.Alphabet → Char → List Nat
  | .unicode, c => [c.toNat]
  | .ascii, c => Quoted.units c

theorem writtenPoints_of_lt {c : Char} (inside : c.toNat < 0x10000) (alphabet : Quoted.Alphabet) :
    writtenPoints alphabet c = [c.toNat] := by
  cases alphabet with
  | unicode => rfl
  | ascii => rw [writtenPoints, Quoted.units, if_pos inside]

/-- A letter behind a backslash stands for the character that it is written for. -/
theorem escapeValue?_letter {c letter : Char} (written : Quoted.letter? c = some letter)
    (rest : List Char) : escapeValue? named letter rest = some ([c.toNat], 0) := by
  unfold Quoted.letter? at written
  split at written <;> cases written <;> rfl

/-- The digits of a written unit say the unit. -/
theorem hexNumber_unitEscape {n : Nat} (small : n < 0x10000) :
    hexNumber [Quoted.hexDigit (n / 4096 % 16), Quoted.hexDigit (n / 256 % 16),
      Quoted.hexDigit (n / 16 % 16), Quoted.hexDigit (n % 16)] = n := by
  have digit : ∀ d < 16, (if (Quoted.hexDigit d).isDigit then (Quoted.hexDigit d).toNat - 48
      else (Quoted.hexDigit d).toLower.toNat - 87) = d := by decide
  have each (m : Nat) := digit (m % 16) (Nat.mod_lt m (by decide))
  have whole : 16 * (16 * (16 * (16 * 0 + n / 4096 % 16) + n / 256 % 16) + n / 16 % 16) + n % 16 = n := by
    omega
  simp only [hexNumber, List.foldl_cons, List.foldl_nil, each]
  exact whole

/-- A written unit is the code point that it says. -/
theorem points?_unitEscape {n : Nat} (small : n < 0x10000) (rest : List Char) :
    points? named (Quoted.unitEscape n ++ rest) = (points? named rest).map (n :: ·) := by
  have digit : ∀ d < 16, isHexDigit (Quoted.hexDigit d) = true := by decide
  have each (m : Nat) := digit (m % 16) (Nat.mod_lt m (by decide))
  have found : escapeValue? named 'u' (Quoted.hexDigit (n / 4096 % 16) ::
      Quoted.hexDigit (n / 256 % 16) :: Quoted.hexDigit (n / 16 % 16) :: Quoted.hexDigit (n % 16) ::
        rest) = some ([n], 4) := by
    simp [escapeValue?, hexEscape?, hasHexDigits, each, hexNumber_unitEscape small, small]
  exact points?_escape named found

theorem units_lt {c : Char} : ∀ unit ∈ Quoted.units c, unit < 0x10000 := by
  have bound := Quoted.toNat_lt c
  unfold Quoted.units
  split
  · rename_i inside
    simpa using inside
  · simp only [List.forall_mem_cons]
    exact ⟨by omega, by omega, by simp⟩

theorem points?_units {units : List Nat} (small : ∀ unit ∈ units, unit < 0x10000)
    (rest : List Char) :
    points? named (units.flatMap Quoted.unitEscape ++ rest) =
      (points? named rest).map (units ++ ·) := by
  induction units with
  | nil => simp
  | cons unit units ih =>
      obtain ⟨here, others⟩ := List.forall_mem_cons.mp small
      rw [List.flatMap_cons, List.append_assoc, points?_unitEscape named here, ih others, Option.map_map]
      rfl

/-- A written character has its code points in the value of a literal. -/
theorem points?_escape_append (alphabet : Quoted.Alphabet) (c : Char) (rest : List Char) :
    points? named (Quoted.escape alphabet c ++ rest) =
      (points? named rest).map (writtenPoints alphabet c ++ ·) := by
  unfold Quoted.escape
  split
  · rename_i letter written
    have small : ∀ c letter, Quoted.letter? c = some letter → c.toNat < 0x10000 := by
      intro c letter written
      unfold Quoted.letter? at written
      split at written <;> cases written <;> decide
    rw [writtenPoints_of_lt (small c letter written)]
    exact points?_escape named (escapeValue?_letter named written rest)
  · rename_i none
    have backslash := (Quoted.ne_of_letter?_eq_none none).2
    split
    · rename_i itself
      have same : writtenPoints alphabet c = [c.toNat] := by
        cases alphabet with
        | unicode => rfl
        | ascii =>
            simp only [Quoted.plain, Bool.and_eq_true, decide_eq_true_eq] at itself
            apply writtenPoints_of_lt
            exact Nat.lt_of_le_of_lt itself.2 (by decide)
      rw [same]
      exact points?_cons named backslash rest
    · rename_i control
      have same : writtenPoints alphabet c = Quoted.units c := by
        cases alphabet with
        | unicode =>
            have below : c < ' ' := by simpa [Quoted.plain] using control
            rw [writtenPoints, Quoted.units, if_pos]
            exact Nat.lt_trans below (by decide)
        | ascii => rfl
      rw [same]
      exact points?_units named units_lt rest

theorem points?_encode (alphabet : Quoted.Alphabet) (cs : List Char) :
    points? named (Quoted.encode alphabet cs) = some (cs.flatMap (writtenPoints alphabet)) := by
  induction cs with
  | nil => rfl
  | cons c cs ih =>
      rw [Quoted.encode, List.flatMap_cons, points?_escape_append]
      change (points? named (Quoted.encode alphabet cs)).map _ = _
      rw [ih]
      rfl

/-- The value of a written text, whatever follows it but a quote. -/
theorem literalValue?_quoted (alphabet : Quoted.Alphabet) (text : String) {c : Char} (other : c ≠ '"')
    (rest : List Char) :
    literalValue? named ((quoted alphabet text).toList ++ c :: rest) =
      some (text.toList.flatMap (writtenPoints alphabet), c :: rest) := by
  have escaped := Quoted.escaped_encode alphabet text.toList
  rw [toList_quoted, List.cons_append, List.append_assoc, List.singleton_append, literalValue?,
    if_pos (by simp), quotedInside?_of_escaped escaped other, singleQuoted_of_escaped escaped]
  simp only [Option.bind_eq_bind, Option.bind_some, points?_encode]
  rfl

/-- A text that is written in units has its own code points as its value just when each of its
characters is a single unit. -/
theorem flatMap_units_eq_iff (cs : List Char) :
    cs.flatMap Quoted.units = cs.map Char.toNat ↔ ∀ c ∈ cs, c.toNat < 0x10000 := by
  induction cs with
  | nil => simp
  | cons c cs ih =>
      rw [List.flatMap_cons, List.map_cons, List.forall_mem_cons, ← ih, Quoted.units]
      split
      · rename_i inside
        simp [inside]
      · rename_i outside
        have bound := Quoted.toNat_lt c
        constructor
        · intro same
          have first := (List.cons.inj same).1
          omega
        · exact fun inside => absurd inside.1 outside

end Registrar.Python
