/-!
# Control sequences

Texts may hold control sequences of terminals: an escape character and a bracket, parameters,
intermediate characters and a final one. What is printed elsewhere leaves them out.
-/

namespace Registrar

/-- How many characters of a text belong to a control sequence that begins in front of it. -/
def sequenceLength? (cs : List Char) : Option Nat :=
  let parameters := cs.takeWhile fun c => '0' ≤ c && c ≤ '?'
  let behind := cs.drop parameters.length
  let intermediate := behind.takeWhile fun c => ' ' ≤ c && c ≤ '/'
  match behind.drop intermediate.length with
  | c :: _ =>
      if '@' ≤ c ∧ c ≤ '~' then some (parameters.length + intermediate.length + 1) else none
  | [] => none

/-- A text without its control sequences, from behind a number of characters on. -/
def withoutSequencesBehind : Nat → List Char → List Char
  | _, [] => []
  | skipped + 1, _ :: rest => withoutSequencesBehind skipped rest
  | 0, c :: rest =>
      match c, rest with
      | '\x1b', '[' :: after =>
          match sequenceLength? after with
          | some length => withoutSequencesBehind (length + 1) rest
          | none => c :: withoutSequencesBehind 0 rest
      | _, _ => c :: withoutSequencesBehind 0 rest

/-- A text without its control sequences. -/
def withoutSequences (text : String) : String :=
  .ofList (withoutSequencesBehind 0 text.toList)

end Registrar
