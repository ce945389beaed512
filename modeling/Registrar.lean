import Registrar.CommandLine.Arguments
import Registrar.CommandLine.Run
import Registrar.Definition
import Registrar.Dependency
import Registrar.Fault
import Registrar.Files.Route
import Registrar.Files.Tree
import Registrar.Files.Trouble
import Registrar.Generation
import Registrar.Import
import Registrar.Json.Basic
import Registrar.Json.Printer
import Registrar.Json.Reader
import Registrar.Json.StandIns
import Registrar.Language
import Registrar.Main
import Registrar.Module
import Registrar.Naming
import Registrar.Number.Binary64
import Registrar.Number.Decimal
import Registrar.Proofs.CommandLine.AllOrNothing
import Registrar.Proofs.CommandLine.Confinement
import Registrar.Proofs.CommandLine.Options
import Registrar.Proofs.CommandLine.Plan
import Registrar.Proofs.CommandLine.Repetition
import Registrar.Proofs.Files.Alikeness
import Registrar.Proofs.Files.AllOrNothing
import Registrar.Proofs.Files.Checking
import Registrar.Proofs.Files.Committing
import Registrar.Proofs.Files.Confinement
import Registrar.Proofs.Files.Encoding
import Registrar.Proofs.Files.Ends
import Registrar.Proofs.Files.Extending
import Registrar.Proofs.Files.Following
import Registrar.Proofs.Files.Growth
import Registrar.Proofs.Files.Interruption
import Registrar.Proofs.Files.Leading
import Registrar.Proofs.Files.Making
import Registrar.Proofs.Files.Overwriting
import Registrar.Proofs.Files.Placing
import Registrar.Proofs.Files.ReadingBack
import Registrar.Proofs.Files.Refusals
import Registrar.Proofs.Files.Rewriting
import Registrar.Proofs.Files.Route
import Registrar.Proofs.Files.Trying
import Registrar.Proofs.Files.Unfinished
import Registrar.Proofs.Files.Writing
import Registrar.Proofs.FirstOccurrences
import Registrar.Proofs.Generation.Acceptance
import Registrar.Proofs.Generation.Aliases
import Registrar.Proofs.Generation.Checks
import Registrar.Proofs.Generation.Dependencies
import Registrar.Proofs.Generation.Embedding
import Registrar.Proofs.Generation.Emission
import Registrar.Proofs.Generation.LocalImports
import Registrar.Proofs.Generation.OutputPaths
import Registrar.Proofs.Generation.PythonText
import Registrar.Proofs.Generation.Redirection
import Registrar.Proofs.Generation.RegisteredIds
import Registrar.Proofs.Generation.Renditions
import Registrar.Proofs.Generation.SchemaTexts
import Registrar.Proofs.Generation.SchemaWords
import Registrar.Proofs.Generation.Scoping
import Registrar.Proofs.Generation.Spellings
import Registrar.Proofs.Generation.TypescriptText
import Registrar.Proofs.Imports.Grouping
import Registrar.Proofs.Imports.Paths
import Registrar.Proofs.Imports.Statements
import Registrar.Proofs.Json.Characters
import Registrar.Proofs.Json.Determined
import Registrar.Proofs.Json.Lines
import Registrar.Proofs.Json.Parts
import Registrar.Proofs.Json.Reading
import Registrar.Proofs.Json.StandIns
import Registrar.Proofs.Naming.ClassName
import Registrar.Proofs.Naming.Joining
import Registrar.Proofs.Naming.Letters
import Registrar.Proofs.Number.Numerals
import Registrar.Proofs.Python.Expressions
import Registrar.Proofs.Python.Lexemes
import Registrar.Proofs.Python.Lines
import Registrar.Proofs.Python.LiteralExpressions
import Registrar.Proofs.Python.LiteralValues
import Registrar.Proofs.Python.Modules
import Registrar.Proofs.Python.Scanning
import Registrar.Proofs.Python.Statements
import Registrar.Proofs.Python.Values
import Registrar.Proofs.Registration.Completeness
import Registrar.Proofs.Registration.Cycles
import Registrar.Proofs.Registration.Execution
import Registrar.Proofs.Registration.Linking
import Registrar.Proofs.Registration.Statements
import Registrar.Proofs.Registration.Termination
import Registrar.Proofs.Schema.Children
import Registrar.Proofs.Schema.Frame
import Registrar.Proofs.Schema.Locality
import Registrar.Proofs.Schema.Mapping
import Registrar.Proofs.Schema.Passes
import Registrar.Proofs.Schema.Positions
import Registrar.Proofs.Schema.Preorder
import Registrar.Proofs.Schema.Rebuilding
import Registrar.Proofs.Schema.References
import Registrar.Proofs.Schema.Respelling
import Registrar.Proofs.Schema.Scalars
import Registrar.Proofs.Schema.Shape
import Registrar.Proofs.Settings.OverwriteMode
import Registrar.Proofs.Settings.Reading
import Registrar.Proofs.Settings.RoundTrip
import Registrar.Proofs.Steps
import Registrar.Proofs.Text.Boundaries
import Registrar.Proofs.Text.Escaping
import Registrar.Proofs.Text.Pieces
import Registrar.Proofs.Validation.Braces
import Registrar.Proofs.Validation.Calls
import Registrar.Proofs.Validation.Nesting
import Registrar.Proofs.Validation.PythonModules
import Registrar.Python.Expression
import Registrar.Python.Form
import Registrar.Python.Goal
import Registrar.Python.Identifier
import Registrar.Python.Layout
import Registrar.Python.Literal
import Registrar.Python.Numeral
import Registrar.Python.Pattern
import Registrar.Python.Program
import Registrar.Python.Statement
import Registrar.Python.Token
import Registrar.Schema.Reference
import Registrar.Schema.Slot
import Registrar.Schema.Transform
import Registrar.Schema.Walk
import Registrar.Settings
import Registrar.Text.CharName
import Registrar.Text.CharNameTable
import Registrar.Text.CharRanges
import Registrar.Text.ControlSequence
import Registrar.Text.Printable
import Registrar.Text.Quoted
import Registrar.Text.Search
import Registrar.Text.Surrogate
import Registrar.Validation
import Registrar.Writer
