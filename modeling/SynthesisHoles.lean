import SynthesisHoles.CommandLine.Arguments
import SynthesisHoles.CommandLine.Error
import SynthesisHoles.CommandLine.Option
import SynthesisHoles.CommandLine.Run
import SynthesisHoles.Diagnostic.Basic
import SynthesisHoles.Diagnostic.Queue
import SynthesisHoles.Diagnostic.Rendering
import SynthesisHoles.Failure
import SynthesisHoles.Hole.Basic
import SynthesisHoles.Hole.Extraction
import SynthesisHoles.Hole.Json
import SynthesisHoles.Hole.Table
import SynthesisHoles.Main
import SynthesisHoles.NameSet
import SynthesisHoles.OrderedMap
import SynthesisHoles.Samples
import SynthesisHoles.Scope.Arena
import SynthesisHoles.Scope.Construction
import SynthesisHoles.Scope.Handle
import SynthesisHoles.Scope.Printing
import SynthesisHoles.Scope.Resolution
import SynthesisHoles.Session
import SynthesisHoles.Text.Alphanumeric
import SynthesisHoles.Text.CodeRange
import SynthesisHoles.Text.Hidden
import SynthesisHoles.Text.Json
import SynthesisHoles.Text.Ordinal
import SynthesisHoles.Text.Quoted
import SynthesisHoles.Text.Similarity
import SynthesisHoles.Text.Terminal
import SynthesisHoles.Tree.DataType
import SynthesisHoles.Tree.Declarations
import SynthesisHoles.Tree.Equality
import SynthesisHoles.Tree.Expression
import SynthesisHoles.Tree.Literal
import SynthesisHoles.Tree.Printing
import SynthesisHoles.Tree.Program
import SynthesisHoles.Tree.Statement
import SynthesisHoles.Tree.Structure
import SynthesisHoles.Proofs.Outcome
import SynthesisHoles.Proofs.Scope.LexicalScoping
import SynthesisHoles.Proofs.Scope.Persistence
import SynthesisHoles.Proofs.Scope.Identity
import SynthesisHoles.Proofs.Hole.ExtractionLaw
import SynthesisHoles.Proofs.Hole.FixedPoints
import SynthesisHoles.Proofs.Hole.Invisibility
import SynthesisHoles.Proofs.Hole.Restoration
import SynthesisHoles.Proofs.MalformedLoops
import SynthesisHoles.Proofs.Reporting
import SynthesisHoles.Proofs.Hole.ExtractionOutcome
import SynthesisHoles.Proofs.Processing
import SynthesisHoles.Proofs.Scope.DeclaredVariables
import SynthesisHoles.Proofs.Scope.Balance
import SynthesisHoles.Proofs.Hole.Pieces
import SynthesisHoles.Proofs.Hole.Absorption
import SynthesisHoles.Proofs.Options
import SynthesisHoles.Proofs.Scope.AddedParameter
import SynthesisHoles.Proofs.FailureCount
import SynthesisHoles.Proofs.Text.Escapes
import SynthesisHoles.Proofs.Text.JsonReading
import SynthesisHoles.Proofs.Hole.JsonIdentity
import SynthesisHoles.Proofs.Hole.TextIdentity
import SynthesisHoles.Proofs.Tree.VariableRecords
import SynthesisHoles.Proofs.Scope.Building
import SynthesisHoles.Proofs.Scope.Rewinding
import SynthesisHoles.Proofs.Delivery
import SynthesisHoles.Proofs.Tree.RecordsByName
import SynthesisHoles.Proofs.Tree.FirstMalformedLoop
import SynthesisHoles.Proofs.Hole.Rejection
import SynthesisHoles.Proofs.KeyMatching
