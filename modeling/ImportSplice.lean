import ImportSplice.Command.Convert
import ImportSplice.Command.Exit
import ImportSplice.Command.Hint
import ImportSplice.Command.Run
import ImportSplice.Fault
import ImportSplice.Files.Calls
import ImportSplice.Files.Output
import ImportSplice.Files.Path
import ImportSplice.Files.System
import ImportSplice.Files.Tree
import ImportSplice.Files.Walk
import ImportSplice.Main
import ImportSplice.Number.Double
import ImportSplice.Number.Spelling
import ImportSplice.Settings.Config
import ImportSplice.Settings.Environment
import ImportSplice.Settings.Fields
import ImportSplice.Settings.Flags
import ImportSplice.Settings.Lookup
import ImportSplice.Settings.Record
import ImportSplice.Source.Directive
import ImportSplice.Source.ImportBlock
import ImportSplice.Source.Injector
import ImportSplice.Source.Lines
import ImportSplice.Stream.Inject
import ImportSplice.Stream.Reader
import ImportSplice.Stream.Sink
import ImportSplice.Stream.Source
import ImportSplice.Text.Blank
import ImportSplice.Text.Bytes
import ImportSplice.Text.Printable
import ImportSplice.Text.Quoted
import ImportSplice.Text.Utf8
import ImportSplice.Yaml.Defect
import ImportSplice.Yaml.Document
import ImportSplice.Yaml.Group
import ImportSplice.Yaml.Node
import ImportSplice.Yaml.Node.Layout
import ImportSplice.Yaml.Scalar
import ImportSplice.Yaml.Timestamp
import ImportSplice.Yaml.Token
import ImportSplice.Yaml.Token.Block
import ImportSplice.Yaml.Token.Cursor
import ImportSplice.Yaml.Token.Draft
import ImportSplice.Yaml.Token.Lexer
import ImportSplice.Yaml.Token.Quote
import ImportSplice.Yaml.Writer
import ImportSplice.Proofs.Stream.Carriage
import ImportSplice.Proofs.Stream.Delivery
import ImportSplice.Proofs.Source.DirectiveReading
import ImportSplice.Proofs.Source.OutputLines
import ImportSplice.Proofs.Settings.ModuleNames
import ImportSplice.Proofs.Source.Recovery
import ImportSplice.Proofs.Source.Alignment
import ImportSplice.Proofs.Files.Filling
import ImportSplice.Proofs.Files.Staging
import ImportSplice.Proofs.Files.Rollback
import ImportSplice.Proofs.Files.StagedPaths
import ImportSplice.Proofs.Stream.Truncation
import ImportSplice.Proofs.Files.Beside
import ImportSplice.Proofs.Files.Aliasing
import ImportSplice.Proofs.Files.Interleaving
import ImportSplice.Proofs.Success
import ImportSplice.Proofs.Text.Trimming
import ImportSplice.Proofs.Settings.Acceptance
import ImportSplice.Proofs.Settings.Precedence
import ImportSplice.Proofs.Command.Effects
import ImportSplice.Proofs.Yaml.PlainWriting
import ImportSplice.Proofs.Yaml.LineReading
import ImportSplice.Proofs.Yaml.ValueReading
import ImportSplice.Proofs.Yaml.Scanning
import ImportSplice.Proofs.Yaml.Gathering
import ImportSplice.Proofs.Yaml.ListedSettings
import ImportSplice.Proofs.Yaml.TokenGrowth
import ImportSplice.Proofs.Yaml.StrayQuestions
import ImportSplice.Proofs.Settings.Reloading
import ImportSplice.Proofs.Stream.ReadAhead
import ImportSplice.Proofs.Text.Encoding
import ImportSplice.Proofs.Source.MarkerLines
import ImportSplice.Proofs.Settings.ArgumentReading
import ImportSplice.Proofs.Command.FirstArgument
import ImportSplice.Proofs.Command.Attribution
import ImportSplice.Proofs.Stream.PartialRuns
import ImportSplice.Proofs.Settings.FlagOrder
import ImportSplice.Proofs.Files.WritingThrough
import ImportSplice.Proofs.Files.StagedNumbers
import ImportSplice.Proofs.Files.Coverage
import ImportSplice.Proofs.Command.ExitStatus
import ImportSplice.Proofs.Settings.ModuleLists
import ImportSplice.Proofs.Settings.RecordReading
import ImportSplice.Proofs.Source.ImportBlocks
import ImportSplice.Proofs.Settings.ImportForms
import ImportSplice.Proofs.Files.CleanPaths
import ImportSplice.Proofs.Settings.NameSearch
