import Registrar.Module
import Registrar.Python.Program
import Registrar.Text.Search

/-!
# Checks before writing

A file is looked at before it is written. One whose path ends in `.py` has to be a Python program;
in any other, texts between double quotes are taken out and the braces that are left have to be as
many closing as opening ones. Every file has to hold the begin of a registration call.

Only a text that can be encoded is a Python program. To the other checks a surrogate is a character like
any that they do not ask for.

## Implementation notes

That a text is a Python program is asked of its grammar, without the limits that an interpreter has: on the
digits of a numeral, and on the stack of its parser.
-/

namespace Registrar

/-- A file that is to be written. -/
structure OutputFile where
  path : String
  content : Text
  deriving DecidableEq, Repr

instance : Coe GeneratedFile OutputFile := ⟨fun generated => ⟨generated.path, generated.content⟩⟩

/-- How long a text between double quotes is that begins behind its opening quote, the closing one
included. A backslash takes the next character with it, which may not be the end of a line. -/
def literalLength? : List Char → Option Nat
  | [] => none
  | '"' :: _ => some 1
  | '\\' :: '\n' :: _ => none
  | '\\' :: _ :: rest => (literalLength? rest).map (· + 2)
  | ['\\'] => none
  | _ :: rest => (literalLength? rest).map (· + 1)

/-- Code with the inside of its double-quoted texts left out, from behind a number of characters
on. A quote that is not closed is an ordinary character. -/
def codeBehind : Nat → List Char → List Char
  | _, [] => []
  | skipped + 1, _ :: rest => codeBehind skipped rest
  | 0, c :: rest =>
      if c = '"' then
        match literalLength? rest with
        | some length => '"' :: '"' :: codeBehind length rest
        | none => c :: codeBehind 0 rest
      else c :: codeBehind 0 rest

/-- Code with the inside of its double-quoted texts left out. -/
def codeOf (content : List Char) : List Char :=
  codeBehind 0 content

theorem codeBehind_eq (skipped : Nat) (content : List Char) :
    codeBehind skipped content = codeOf (content.drop skipped) := by
  induction content generalizing skipped with
  | nil => simp [codeBehind, codeOf]
  | cons c rest ih =>
      cases skipped with
      | zero => simp [codeOf]
      | succ n => simpa [codeBehind] using ih n

/-- The begin of a registration call. -/
def registrationMark : List Char :=
  "register(".toList

/-- Whether a path is the path of a Python file. -/
def isPythonPath (path : String) : Bool :=
  ".py".toList.isSuffixOf path.toList

/-- Check that the code of a file is well formed in its language. A Python file that cannot be encoded or holds
the character U+0000 is refused for that, before it is read as a program. -/
def checkCode (file : OutputFile) : Except Fault Unit :=
  if isPythonPath file.path then
    match file.content.unencodable? with
    | some cause => .error (.unencodable cause)
    | none =>
        if file.content.written.toList.contains '\x00' then .error .nullCharacter
        else if Python.isProgram file.content.written then .ok ()
        else .error (.invalidPython file.path)
  else
    let code := codeOf file.content.marked
    let opened := code.count '\x7b'
    let closed := code.count '\x7d'
    if opened = closed then .ok () else .error (.unbalancedBraces file.path opened closed)

/-- Check a file before it is written. -/
def validate (file : OutputFile) : Except Fault Unit := do
  checkCode file
  if !occursIn registrationMark file.content.marked then
    throw (.noRegistration file.path)

/-- A file is accepted just when its code is well formed and it holds the begin of a registration
call. -/
theorem validate_eq_ok_iff (file : OutputFile) :
    validate file = .ok () ↔
      checkCode file = .ok () ∧ occursIn registrationMark file.content.marked = true := by
  cases code : checkCode file with
  | error fault => simp [validate, code, bind, Except.bind]
  | ok done =>
      cases mark : occursIn registrationMark file.content.marked with
      | false =>
          simp [validate, code, mark, bind, Except.bind, throw, throwThe, MonadExceptOf.throw]
      | true => simp [validate, code, mark, bind, Except.bind, pure, Except.pure]

end Registrar
