import Registrar.CommandLine.Arguments
import Registrar.Files.Tree
import Registrar.Generation
import Registrar.Json.StandIns
import Registrar.Text.ControlSequence
import Registrar.Writer

/-!
# Runs of the command

A run reads the settings and the document, generates the files and writes them. A command line that
names a path that is not there, or a file as the place for the output, is misused and nothing is
read. Nor is anything read if the help is asked for. Faults of generating and writing are reported; the
others, of files that hold no JSON or JSON of the wrong kind, end the run as they are.

The run is a function on file trees. What it prints is part of its outcome.

Where the settings or the document spell surrogates that are alone, characters stand in for them from the
reading of both to the texts that are generated, logged and reported.
-/

namespace Registrar.CommandLine

/-- How a run ends. -/
inductive Ending where
  /-- The command line asks for nothing that can be done. -/
  | misused
  /-- The help is shown. -/
  | helped
  /-- A fault that is not reported. -/
  | broken (fault : Fault)
  /-- A fault that is reported with a text. -/
  | failed (message : String)
  /-- All files are written. -/
  | finished (message : String)
  deriving DecidableEq, Repr

/-- The outcome of a run: the file tree after it, the lines that were logged, and its ending. -/
structure Outcome where
  tree : Files.Tree
  log : List String
  ending : Ending
  deriving DecidableEq, Repr

/-- The code with which a run exits. -/
def Ending.exitCode : Ending → Nat
  | .finished _ => 0
  | .helped => 0
  | .broken _ => 1
  | .failed _ => 1
  | .misused => 2

/-- The text for a text that cannot be encoded. -/
def encodingText (cause : Unencodable) : String :=
  let escape := String.ofList (Quoted.unitEscape cause.surrogate.number)
  let last := cause.position + cause.count - 1
  if cause.count = 1 then
    "'utf-8' codec can't encode character '" ++ escape ++ "' in position " ++
      toString cause.position ++ ": surrogates not allowed"
  else
    "'utf-8' codec can't encode characters in position " ++ toString cause.position ++ "-" ++
      toString last ++ ": surrogates not allowed"

/-- The text with which a fault is reported, if it is one of those that are. -/
def reported? (fault : Fault) : Option String :=
  match fault with
  | .notASchema _ _ => none
  | .badReference _ => none
  | .files (.inTheWay path) => some ("[Errno 17] File exists: " ++ Json.shownText path)
  | .files .badName => some "embedded null byte"
  | .files (.unencodable cause) => some (encodingText cause)
  | .unencodable cause => some (encodingText cause)
  | .nullCharacter => some "source code string cannot contain null bytes"
  | _ => fault.text?

/-- How a run ends at a fault. Messages are printed without control sequences. -/
def Ending.of (fault : Fault) : Ending :=
  match reported? fault with
  | some message => .failed (withoutSequences message)
  | none => .broken fault

/-- An ending whose message shows surrogates for the characters that stand in for them. -/
def Ending.shown (standIns : StandIns) : Ending → Ending
  | .failed message => .failed (standIns.shown message)
  | ending => ending

/-- The route that an argument names, seen from the directory of the run. -/
def resolve (current : Files.Route) (argument : String) : Files.Route :=
  let route := (current.append (.ofText argument)).flatten
  { route with root := if route.root = "" then "" else "/" }

/-- Whether a route leads to a file. -/
def isFile (tree : Files.Tree) (route : Files.Route) : Bool :=
  (tree.content? route).isSome

/-- Check an argument that names what is read. -/
def checkInput (tree : Files.Tree) (current : Files.Route) (argument : String) :
    Except Ending Unit :=
  if (Files.Route.ofText argument).hasBadName then .error (.broken (.files .badName))
  else
    match tree.exists? (resolve current argument) with
    | .ok true => .ok ()
    | _ => .error .misused

/-- Check an argument that names a directory to write to, which need not be there. -/
def checkOutput (tree : Files.Tree) (current : Files.Route) (argument : String) :
    Except Ending Unit :=
  if (Files.Route.ofText argument).hasBadName then .error (.broken (.files .badName))
  else if isFile tree (resolve current argument) then .error .misused
  else .ok ()

/-- Check the value of an option. -/
def Options.check (tree : Files.Tree) (current : Files.Route) (options : Options) :
    Setting → Except Ending Unit
  | .config => options.config.forM (checkInput tree current)
  | .language => if options.isKnown then .ok () else .error .misused

/-- Read a command line. If the help is asked for, nothing is checked. The values of options are checked in
the order in which the options were given first, and the arguments after them. -/
def Invocation.read (tree : Files.Tree) (current : Files.Route) (arguments : List String) :
    Except Ending Invocation :=
  match readArguments .none arguments with
  | none => .error .misused
  | some (options, others) =>
      if options.help then .error .helped
      else do
        options.given.forM (options.check tree current)
        match others with
        | [] => throw .misused
        | [path] => do
            checkInput tree current path
            throw .misused
        | path :: output :: more => do
            checkInput tree current path
            checkOutput tree current output
            if more = [] then return ⟨options, path, output⟩ else throw .misused

/-- The JSON value in the file that a route leads to. -/
def readJson (standIns : StandIns) (tree : Files.Tree) (route : Files.Route) : Except Fault Json :=
  match tree.locate .followed route with
  | .ok (_, some (.file content)) =>
      match Json.readWith standIns.character? content with
      | some value => .ok value
      | none => .error .malformedJson
  | .ok (_, some _) => .error (.files .isDirectory)
  | .ok (_, none) => .error (.files .missing)
  | .error trouble => .error (.files trouble)

/-- Set a key of the settings. -/
def setSetting (key : String) (value : Json) : Json → Except Fault Json
  | .obj fields => .ok (.obj (Json.setField key value fields))
  | other => .error (.notWritable other.kind)

/-- The settings of a run as JSON: those of the file, changed by the options. -/
def settingsJson (standIns : StandIns) (tree : Files.Tree) (current : Files.Route)
    (options : Options) : Except Fault Json := do
  let stated ←
    match options.config with
    | none => pure (.obj [])
    | some path => readJson standIns tree (resolve current path)
  let withLanguage ←
    match options.language with
    | none => pure stated
    | some language => setSetting "language" (.str language) stated
  let withApimachinery ←
    if options.externalApimachinery then
      setSetting "external_apimachinery" (.bool true) withLanguage
    else pure withLanguage
  if options.externalKubernetesModels then
    setSetting "external_kubernetes_models" (.bool true) withApimachinery
  else return withApimachinery

/-- The settings that JSON gives, changed by the option to overwrite. -/
def settingsOf (options : Options) (stated : Json) : Except Fault Settings := do
  let settings ← Settings.read stated
  if options.force then settings.overwriting else return settings

/-- The line for a module that was made. -/
def generatedLine (generated : RegistrationModule) : String :=
  let external := generated.dependencies.countP (·.isExternal)
  "DEBUG schema_registry_codegen.pipeline.generator: Generated " ++ generated.id ++ " (" ++
    toString generated.dependencies.length ++ " dependencies, " ++ toString external ++
    " external)"

/-- The line for a file that was written. -/
def writtenLine (route : Files.Route) : String :=
  "INFO schema_registry_codegen.pipeline.writer.atomic_writer: Wrote " ++ route.text

/-- The lines for the modules that are made before generation ends or fails. -/
def generationLog (settings : Settings) (definitions : List Definition) : List String :=
  match settings.checkPaths definitions with
  | .ok () => (settings.modulesMade definitions).map generatedLine
  | .error _ => []

/-- Write files below a directory. -/
def writeFiles (settings : Settings) (tree : Files.Tree) (directory : Files.Route)
    (files : List OutputFile) : Outcome :=
  let outcome := Writer.writeAll ⟨directory, settings.output⟩ tree files
  let ending :=
    match outcome.fault with
    | some fault => .of fault
    | none =>
        .finished (withoutSequences ("Generated " ++ toString outcome.written.length ++
          " files in " ++ directory.text))
  ⟨outcome.tree, outcome.written.map writtenLine, ending⟩

/-- A file that is to be written, with surrogates for the characters that stand in for them. -/
def restoredFile (standIns : StandIns) (generated : GeneratedFile) : OutputFile :=
  ⟨generated.path, standIns.restored generated.content⟩

/-- Generate and write the files for a document. -/
def generateFiles (standIns : StandIns) (settings : Settings) (tree : Files.Tree)
    (directory : Files.Route) (document : Json) : Outcome :=
  match Definition.extract document with
  | .error fault => ⟨tree, [], (Ending.of fault).shown standIns⟩
  | .ok definitions =>
      let log := (generationLog settings definitions).map standIns.shown
      match settings.generate definitions with
      | .error fault => ⟨tree, log, (Ending.of fault).shown standIns⟩
      | .ok files =>
          let outcome := writeFiles settings tree directory (files.map (restoredFile standIns))
          { outcome with log := log ++ outcome.log }

/-- The routes to what an invocation reads: the settings, if they are in a file, and the document. -/
def Invocation.sources (current : Files.Route) (invocation : Invocation) : List Files.Route :=
  (invocation.options.config.toList ++ [invocation.path]).map (resolve current)

/-- The characters that stand in for surrogates in what an invocation reads. -/
def Invocation.standIns (tree : Files.Tree) (current : Files.Route) (invocation : Invocation) :
    StandIns :=
  .reading ((invocation.sources current).filterMap tree.content?)

/-- Do what an invocation asks for. -/
def Invocation.run (tree : Files.Tree) (current : Files.Route) (invocation : Invocation) :
    Outcome :=
  let standIns := invocation.standIns tree current
  let inputs : Except Fault (Json × Json) := do
    let stated ← settingsJson standIns tree current invocation.options
    return (stated, ← readJson standIns tree (resolve current invocation.path))
  match inputs with
  | .error fault => ⟨tree, [], .broken fault⟩
  | .ok (stated, document) =>
      match settingsOf invocation.options stated with
      | .error fault => ⟨tree, [], (Ending.of fault).shown standIns⟩
      | .ok settings =>
          generateFiles standIns settings tree (resolve current invocation.output) document

/-- Run the command in a directory of a file tree. Lines are logged only when they are asked
for. -/
def run (tree : Files.Tree) (current : Files.Route) (arguments : List String) : Outcome :=
  match Invocation.read tree current arguments with
  | .error ending => ⟨tree, [], ending⟩
  | .ok invocation =>
      let outcome := invocation.run tree current
      if invocation.options.verbose then outcome else { outcome with log := [] }

end Registrar.CommandLine
