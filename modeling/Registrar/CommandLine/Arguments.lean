import Registrar.Language

/-!
# Command line arguments

Options may stand anywhere among the two arguments. A long option takes its value from behind an
equals sign or from the next argument, a short one from the same argument or from the next, and
short options without a value may share an argument. Of an option that is given twice the last value
counts. Behind two dashes everything is an argument.
-/

namespace Registrar.CommandLine

/-- The options that take a value. -/
inductive Setting where
  | config
  | language
  deriving DecidableEq, Repr

/-- The options of a run. Of those that take a value it is kept in which order each was given
first. -/
structure Options where
  config : Option String
  language : Option String
  externalApimachinery : Bool
  externalKubernetesModels : Bool
  force : Bool
  verbose : Bool
  help : Bool
  given : List Setting
  deriving DecidableEq, Repr

/-- No option is given. -/
def Options.none : Options := ⟨.none, .none, false, false, false, false, false, []⟩

/-- The options that take no value. -/
inductive Switch where
  | externalApimachinery
  | externalKubernetesModels
  | force
  | verbose
  | help
  deriving DecidableEq, Repr

/-- The options that were given, with one that is given now. -/
def Options.noted (options : Options) (setting : Setting) : List Setting :=
  if setting ∈ options.given then options.given else options.given ++ [setting]

/-- Give a value to an option. -/
def Options.assign (options : Options) (value : String) (setting : Setting) : Options :=
  let noted := { options with given := options.noted setting }
  match setting with
  | .config => { noted with config := some value }
  | .language => { noted with language := some value }

/-- Turn an option on. -/
def Options.turnOn (options : Options) : Switch → Options
  | .externalApimachinery => { options with externalApimachinery := true }
  | .externalKubernetesModels => { options with externalKubernetesModels := true }
  | .force => { options with force := true }
  | .verbose => { options with verbose := true }
  | .help => { options with help := true }

/-- The long names of the options that take a value. -/
def settingNames : List (String × Setting) :=
  [("config", .config), ("language", .language)]

/-- The long names of the options that take no value. -/
def switchNames : List (String × Switch) :=
  [("external-apimachinery", .externalApimachinery),
    ("external-kubernetes-models", .externalKubernetesModels),
    ("force", .force), ("verbose", .verbose), ("help", .help)]

/-- What a name stands for in a list of names. -/
def named? {α : Type} (name : List Char) (names : List (String × α)) : Option α :=
  (names.find? fun entry => entry.1.toList = name).map (·.2)

/-- What one argument is. -/
inductive Reading where
  | positional
  | endOfOptions
  /-- Options that are complete. -/
  | options (options : Options)
  /-- Options of which the last one takes the next argument as its value. -/
  | awaits (setting : Setting) (options : Options)
  | refused
  deriving DecidableEq, Repr

/-- Read a long option, behind its dashes. -/
def readLong (options : Options) (text : List Char) : Reading :=
  let name := text.takeWhile (· ≠ '=')
  match named? name settingNames, text.drop name.length with
  | some setting, _ :: value => .options (options.assign (.ofList value) setting)
  | some setting, [] => .awaits setting options
  | none, [] =>
      match named? name switchNames with
      | some switch => .options (options.turnOn switch)
      | none => .refused
  | none, _ :: _ => .refused

/-- Read short options, behind their dash. -/
def readShort (options : Options) : List Char → Reading
  | [] => .options options
  | 'v' :: rest => readShort (options.turnOn .verbose) rest
  | ['c'] => .awaits .config options
  | ['l'] => .awaits .language options
  | 'c' :: value => .options (options.assign (.ofList value) .config)
  | 'l' :: value => .options (options.assign (.ofList value) .language)
  | _ => .refused

/-- Read one argument. A lone dash is no option. -/
def readArgument (options : Options) (argument : List Char) : Reading :=
  match argument with
  | ['-', '-'] => .endOfOptions
  | '-' :: '-' :: text => readLong options text
  | '-' :: c :: rest => readShort options (c :: rest)
  | _ => .positional

/-- Read arguments, and give the options with the arguments that are none. -/
def readArguments (options : Options) : List String → Option (Options × List String)
  | [] => some (options, [])
  | argument :: rest =>
      match readArgument options argument.toList with
      | .positional =>
          (readArguments options rest).map fun (all, others) => (all, argument :: others)
      | .endOfOptions => some (options, rest)
      | .options more => readArguments more rest
      | .awaits setting more =>
          match rest with
          | [] => none
          | value :: others => readArguments (more.assign value setting) others
      | .refused => none

/-- What a command line asks for. -/
structure Invocation where
  options : Options
  path : String
  output : String
  deriving DecidableEq, Repr

/-- Whether the language of some options, if they name one, is known. -/
def Options.isKnown (options : Options) : Bool :=
  match options.language with
  | .none => true
  | .some language => (Language.ofName? language).isSome

/-- What a command line asks for, if it has as many arguments as it needs. Whether they can be used
is not looked at. -/
def Invocation.named? (arguments : List String) : Option Invocation :=
  match readArguments .none arguments with
  | some (options, path :: output :: _) => some ⟨options, path, output⟩
  | _ => none

end Registrar.CommandLine
