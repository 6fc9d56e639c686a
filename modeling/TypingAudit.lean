import TypingAudit.Ast.CallStack
import TypingAudit.Ast.Constant
import TypingAudit.Ast.Context
import TypingAudit.Ast.Expr
import TypingAudit.Ast.Node
import TypingAudit.Ast.Printer
import TypingAudit.Ast.Rose
import TypingAudit.Ast.Shape
import TypingAudit.Ast.Stmt
import TypingAudit.Audit.Batch
import TypingAudit.Audit.Finding
import TypingAudit.Audit.Log
import TypingAudit.Audit.RuleSet
import TypingAudit.Audit.Unit
import TypingAudit.Audit.UnitError
import TypingAudit.Command.Calendar
import TypingAudit.Command.Environment
import TypingAudit.Command.Fatal
import TypingAudit.Command.Help
import TypingAudit.Command.Inspection
import TypingAudit.Command.Integer
import TypingAudit.Command.Options
import TypingAudit.Command.Run
import TypingAudit.Command.Usage
import TypingAudit.Command.Words
import TypingAudit.Console.Listing
import TypingAudit.Console.Style
import TypingAudit.Decimal.Binary
import TypingAudit.Decimal.Shortest
import TypingAudit.Main
import TypingAudit.Proofs.Ast.Accesses
import TypingAudit.Proofs.Ast.DefaultPairing
import TypingAudit.Proofs.Ast.Definitions
import TypingAudit.Proofs.Ast.Descent
import TypingAudit.Proofs.Ast.KnownTests
import TypingAudit.Proofs.Ast.Likeness
import TypingAudit.Proofs.Ast.Lineages
import TypingAudit.Proofs.Ast.Parameters
import TypingAudit.Proofs.Ast.Preorder
import TypingAudit.Proofs.Ast.RelabelledTrees
import TypingAudit.Proofs.Ast.Relabelling
import TypingAudit.Proofs.Ast.Visits
import TypingAudit.Proofs.Ast.Writing
import TypingAudit.Proofs.Audit.Conversions
import TypingAudit.Proofs.Audit.Defaults
import TypingAudit.Proofs.Audit.Disabling
import TypingAudit.Proofs.Audit.Fields
import TypingAudit.Proofs.Audit.Findings
import TypingAudit.Proofs.Audit.Isolation
import TypingAudit.Proofs.Audit.OwnNames
import TypingAudit.Proofs.Audit.Receivers
import TypingAudit.Proofs.Audit.Signatures
import TypingAudit.Proofs.Audit.Slots
import TypingAudit.Proofs.Command.Arguments
import TypingAudit.Proofs.Command.Disabling
import TypingAudit.Proofs.Command.ExitStatus
import TypingAudit.Proofs.Command.FileNames
import TypingAudit.Proofs.Command.Reports
import TypingAudit.Proofs.Command.Skipping
import TypingAudit.Proofs.Command.Stages
import TypingAudit.Proofs.Command.Units
import TypingAudit.Proofs.Json.Tokens
import TypingAudit.Proofs.Json.Values
import TypingAudit.Proofs.NameOrder
import TypingAudit.Proofs.Pairing
import TypingAudit.Proofs.Report.Cells
import TypingAudit.Proofs.Report.Decoding
import TypingAudit.Proofs.Report.Lines
import TypingAudit.Proofs.Report.Recount
import TypingAudit.Proofs.Report.Recovery
import TypingAudit.Proofs.Report.Sections
import TypingAudit.Proofs.Report.Spelling
import TypingAudit.Proofs.Report.Totals
import TypingAudit.Proofs.Rule.FailingTests
import TypingAudit.Proofs.Rule.GuardSearch
import TypingAudit.Proofs.Rule.IndexLocality
import TypingAudit.Proofs.Rule.NotNone
import TypingAudit.Proofs.Rule.ShortCircuit
import TypingAudit.Proofs.Selection.Discovery
import TypingAudit.Proofs.Selection.Segments
import TypingAudit.Proofs.Selection.Union
import TypingAudit.Proofs.Selection.UnitNames
import TypingAudit.Proofs.Selection.Walk
import TypingAudit.Proofs.Source.BoundNames
import TypingAudit.Proofs.Source.NameTokens
import TypingAudit.Proofs.Source.NamesRead
import TypingAudit.Proofs.Source.Readers
import TypingAudit.Proofs.Storage.Changes
import TypingAudit.Proofs.Summary.Conservation
import TypingAudit.Proofs.Summary.Ranking
import TypingAudit.Proofs.Summary.Reordering
import TypingAudit.Proofs.Text.Identifiers
import TypingAudit.Proofs.Text.Normalization
import TypingAudit.Proofs.Typing.Bindings
import TypingAudit.Proofs.Typing.Declarations
import TypingAudit.Proofs.Typing.DottedNames
import TypingAudit.Proofs.Typing.DynamicNames
import TypingAudit.Proofs.Typing.RelativeImports
import TypingAudit.Proofs.Typing.Renaming
import TypingAudit.Report.Destination
import TypingAudit.Report.Document
import TypingAudit.Report.ExitStatus
import TypingAudit.Report.Markdown
import TypingAudit.Report.Overview
import TypingAudit.Report.Structured
import TypingAudit.Rule.Basic
import TypingAudit.Rule.Catalogue
import TypingAudit.Rule.Conversion
import TypingAudit.Rule.Guard
import TypingAudit.Rule.Implicit
import TypingAudit.Rule.NonNull
import TypingAudit.Rule.Signature
import TypingAudit.Rule.Subscript
import TypingAudit.Selection.Exclusion
import TypingAudit.Selection.SourceFile
import TypingAudit.Selection.Sources
import TypingAudit.Selection.Wildcard
import TypingAudit.Source.Encoding
import TypingAudit.Source.Escape
import TypingAudit.Source.Formatted
import TypingAudit.Source.Grammar
import TypingAudit.Source.Grammar.Atom
import TypingAudit.Source.Grammar.Basic
import TypingAudit.Source.Grammar.Expression
import TypingAudit.Source.Grammar.Params
import TypingAudit.Source.Grammar.Pattern
import TypingAudit.Source.Grammar.Statement
import TypingAudit.Source.Grammar.Strings
import TypingAudit.Source.Grammar.Target
import TypingAudit.Source.Lexer
import TypingAudit.Source.Number
import TypingAudit.Source.Position
import TypingAudit.Source.Token
import TypingAudit.Storage.Fault
import TypingAudit.Storage.FileTree
import TypingAudit.Storage.Home
import TypingAudit.Storage.Path
import TypingAudit.Storage.Workspace
import TypingAudit.Summary.Counts
import TypingAudit.Summary.Ranking
import TypingAudit.Summary.Run
import TypingAudit.Text.Blank
import TypingAudit.Text.CodePoints
import TypingAudit.Text.Combining
import TypingAudit.Text.Composition
import TypingAudit.Text.Decomposition
import TypingAudit.Text.Digit
import TypingAudit.Text.Identifier
import TypingAudit.Text.Names
import TypingAudit.Text.Names.Aliases
import TypingAudit.Text.Names.Alphabets
import TypingAudit.Text.Names.Ancient
import TypingAudit.Text.Names.Eastern
import TypingAudit.Text.Names.Hieroglyphs
import TypingAudit.Text.Names.Pictures
import TypingAudit.Text.Names.Reading
import TypingAudit.Text.Names.Syllabics
import TypingAudit.Text.Names.Symbols
import TypingAudit.Text.Normal
import TypingAudit.Text.Printable
import TypingAudit.Text.Quoted
import TypingAudit.Text.Ranges
import TypingAudit.Text.Split
import TypingAudit.Text.Table
import TypingAudit.Typing.Bindings
import TypingAudit.Typing.Facts
import TypingAudit.Typing.Imports
