import ParserTables.Sink
import ParserTables.Document.Loading
import ParserTables.Settings.Decoding
import ParserTables.Settings.Configuration
import ParserTables.Command.Run
import ParserTables.Main
import ParserTables.Proofs.Reduction.Value
import ParserTables.Proofs.Compiled.Execution
import ParserTables.Proofs.Interpreted.Application
import ParserTables.Proofs.Generation.Rendering
import ParserTables.Proofs.Generation.Reducers
import ParserTables.Proofs.Generation.Numbering
import ParserTables.Proofs.Json.Lexing
import ParserTables.Proofs.Json.Rereading
import ParserTables.Proofs.Json.Yielding
import ParserTables.Proofs.Document.Storable
import ParserTables.Proofs.Document.Loaded
import ParserTables.Proofs.Document.Reload
import ParserTables.Proofs.FirstAppearances
import ParserTables.Proofs.Naming.Collision
import ParserTables.Proofs.Check
import ParserTables.Proofs.Source.Reading
import ParserTables.Proofs.Interpreted.Literal
import ParserTables.Proofs.Source.Definition
import ParserTables.Proofs.Interpreted.Reading
import ParserTables.Proofs.Interpreted.Tables
import ParserTables.Proofs.Grammar.Symbol
import ParserTables.Proofs.Interpreted.GotoRows
import ParserTables.Proofs.Compiled.Reading
import ParserTables.Proofs.Compiled.Tables
import ParserTables.Proofs.Generation.Certification
import ParserTables.Proofs.Generation.Goals
import ParserTables.Proofs.Compiled.Entries
import ParserTables.Proofs.Compiled.Variants
import ParserTables.Proofs.Sink
import ParserTables.Proofs.Compiled.Boxing
import ParserTables.Proofs.FirstFault
import ParserTables.Proofs.Compiled.Typing
import ParserTables.Proofs.Generation.Acceptance
import ParserTables.Proofs.Observation
import ParserTables.Proofs.Source.Comments
import ParserTables.Proofs.Bare
import ParserTables.Proofs.Generation.Comments
import ParserTables.Proofs.Interpreted.DefaultBuilder
import ParserTables.Proofs.OrderedMap
import ParserTables.Proofs.Generation.Declarations
import ParserTables.Proofs.Compiled.GotoCells
import ParserTables.Proofs.Command.Effects
import ParserTables.Proofs.Document.Generic
import ParserTables.Proofs.Naming.Boundaries
import ParserTables.Proofs.Naming.Words
import ParserTables.Proofs.Reduction.Printing
import ParserTables.Proofs.Command.Accepted
import ParserTables.Proofs.Command.Changes
import ParserTables.Proofs.Command.Reporting
import ParserTables.Proofs.Naming.SpelledOut
import ParserTables.Proofs.Interpreted.Quoting
import ParserTables.Proofs.Document.Types
import ParserTables.Proofs.Compiled.BoxPlaces
import ParserTables.Proofs.Naming.Shapes
import ParserTables.Proofs.Naming.Usable
import ParserTables.Proofs.Document.Rows
import ParserTables.Proofs.Compiled.Propagation
import ParserTables.Proofs.Naming.NormalForm
import ParserTables.Proofs.Naming.Methods
import ParserTables.Proofs.Compiled.Spelling
