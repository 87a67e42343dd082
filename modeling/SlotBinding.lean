import SlotBinding.Collection.InsertionMap
import SlotBinding.Collection.SortedMap
import SlotBinding.Config.Basic
import SlotBinding.Config.Environment
import SlotBinding.Derive
import SlotBinding.Diagnostic
import SlotBinding.Files.Fault
import SlotBinding.Files.Path
import SlotBinding.Files.Tree
import SlotBinding.Generation.BuildScript
import SlotBinding.Generation.Crate
import SlotBinding.Generation.Grouping
import SlotBinding.Generation.Pass
import SlotBinding.Generation.Report
import SlotBinding.Grammar.Attribute
import SlotBinding.Grammar.Basic
import SlotBinding.Grammar.Bound
import SlotBinding.Grammar.Expr
import SlotBinding.Grammar.Item
import SlotBinding.Grammar.Path
import SlotBinding.Grammar.Pattern
import SlotBinding.Grammar.Recursion
import SlotBinding.Grammar.SourceFile
import SlotBinding.Grammar.Statement
import SlotBinding.Grammar.Type
import SlotBinding.Injection.Binder
import SlotBinding.Injection.Registry
import SlotBinding.Injection.Value
import SlotBinding.Model.Host
import SlotBinding.Model.Identifier
import SlotBinding.Model.Set
import SlotBinding.Proofs.AllOrNothing
import SlotBinding.Proofs.ArtifactNames
import SlotBinding.Proofs.ArtifactPlaces
import SlotBinding.Proofs.AttributeEnds
import SlotBinding.Proofs.BinderReading
import SlotBinding.Proofs.BinderTable
import SlotBinding.Proofs.BindingOrder
import SlotBinding.Proofs.BlankVariables
import SlotBinding.Proofs.BlindGrammar
import SlotBinding.Proofs.BlindItems
import SlotBinding.Proofs.BlindReaders
import SlotBinding.Proofs.BrokenFile
import SlotBinding.Proofs.Collection.InsertionMap
import SlotBinding.Proofs.Collection.SortedMap
import SlotBinding.Proofs.Collision
import SlotBinding.Proofs.ConditionChain
import SlotBinding.Proofs.Conditions
import SlotBinding.Proofs.Config
import SlotBinding.Proofs.Conservation
import SlotBinding.Proofs.DecimalMarks
import SlotBinding.Proofs.Dependencies
import SlotBinding.Proofs.DerivedPath
import SlotBinding.Proofs.DirectoryRefinement
import SlotBinding.Proofs.DirectorySteps
import SlotBinding.Proofs.Drawn
import SlotBinding.Proofs.DrawnAttributes
import SlotBinding.Proofs.DrawnItems
import SlotBinding.Proofs.DuplicateSlots
import SlotBinding.Proofs.EndlessScan
import SlotBinding.Proofs.FieldAssignments
import SlotBinding.Proofs.FieldDeclaration
import SlotBinding.Proofs.Files.Creation
import SlotBinding.Proofs.Files.Directories
import SlotBinding.Proofs.Files.Growth
import SlotBinding.Proofs.Files.Paths
import SlotBinding.Proofs.GrammarRespects
import SlotBinding.Proofs.Grouping
import SlotBinding.Proofs.HostIdentity
import SlotBinding.Proofs.HostPaths
import SlotBinding.Proofs.Independence
import SlotBinding.Proofs.Injection
import SlotBinding.Proofs.InjectionBody
import SlotBinding.Proofs.InlineModules
import SlotBinding.Proofs.IntegerMarks
import SlotBinding.Proofs.ItemRespects
import SlotBinding.Proofs.LastRegistration
import SlotBinding.Proofs.LegibleHosts
import SlotBinding.Proofs.LegibleSources
import SlotBinding.Proofs.LegibleTokens
import SlotBinding.Proofs.LiteralSpelling
import SlotBinding.Proofs.ModuleFiles
import SlotBinding.Proofs.ModuleTree
import SlotBinding.Proofs.NameFaults
import SlotBinding.Proofs.Names
import SlotBinding.Proofs.Numerals
import SlotBinding.Proofs.PathContract
import SlotBinding.Proofs.PathOrigin
import SlotBinding.Proofs.Places
import SlotBinding.Proofs.PrintedLines
import SlotBinding.Proofs.Reachability
import SlotBinding.Proofs.Rebuilding
import SlotBinding.Proofs.RecordedMarks
import SlotBinding.Proofs.Registration
import SlotBinding.Proofs.RejectedSites
import SlotBinding.Proofs.RepeatedPasses
import SlotBinding.Proofs.Respects
import SlotBinding.Proofs.Results
import SlotBinding.Proofs.RuntimePath
import SlotBinding.Proofs.ScanLevels
import SlotBinding.Proofs.ScanTrace
import SlotBinding.Proofs.StringLiteral
import SlotBinding.Proofs.TakenNames
import SlotBinding.Proofs.TestOnly
import SlotBinding.Proofs.Text.Trim
import SlotBinding.Proofs.TokenOrder
import SlotBinding.Proofs.TokenSteps
import SlotBinding.Proofs.UniqueNames
import SlotBinding.Proofs.Verdict
import SlotBinding.Proofs.Visits
import SlotBinding.Proofs.Writing
import SlotBinding.Render.Binder
import SlotBinding.Render.Table
import SlotBinding.Sample.Screens
import SlotBinding.Scan.Basic
import SlotBinding.Scan.Crate
import SlotBinding.Scan.Item
import SlotBinding.Sink.Basic
import SlotBinding.Sink.Directory
import SlotBinding.Sink.Memory
import SlotBinding.Site.Access
import SlotBinding.Site.Basic
import SlotBinding.Site.Location
import SlotBinding.Slot.Argument
import SlotBinding.Slot.Fault
import SlotBinding.Slot.NamedForm
import SlotBinding.Slot.Range
import SlotBinding.Syntax.Error
import SlotBinding.Syntax.Item
import SlotBinding.Syntax.Parser
import SlotBinding.Text.Quoted
import SlotBinding.Text.Similarity
import SlotBinding.Text.Trim
import SlotBinding.Token.Basic
import SlotBinding.Token.Lexer
import SlotBinding.Token.Number
import SlotBinding.Token.Print
import SlotBinding.Token.Spelling
import SlotBinding.Token.Unquote
import SlotBinding.Unicode.Character
import SlotBinding.Unicode.DisplayTable
import SlotBinding.Unicode.IdentifierTable
import SlotBinding.Unicode.Ranges
import SlotBinding.Validation

