import PortableC.Backend
import PortableC.Backend.Report
import PortableC.CType
import PortableC.CType.Parser
import PortableC.CheckUnit
import PortableC.ClaimedName
import PortableC.Command
import PortableC.CommandLine
import PortableC.CommandLine.Flag
import PortableC.CommandLine.Scan
import PortableC.Compiler
import PortableC.Decimal.Binary64
import PortableC.Decimal.Numeral
import PortableC.Decimal.Shortest
import PortableC.Declaration
import PortableC.Dialect
import PortableC.Error
import PortableC.FileFault
import PortableC.FileTree
import PortableC.FunctionRef
import PortableC.FunctionRef.Check
import PortableC.HeaderGuard
import PortableC.Json
import PortableC.Layout
import PortableC.Location
import PortableC.Main
import PortableC.Path
import PortableC.Primitive
import PortableC.Prologue
import PortableC.Proofs.CType.Grammar
import PortableC.Proofs.CType.Spelling
import PortableC.Proofs.CheckUnit.ChosenNames
import PortableC.Proofs.CheckUnit.Items
import PortableC.Proofs.CheckUnit.Names
import PortableC.Proofs.CheckUnit.Tokens
import PortableC.Proofs.CheckUnit.Visible
import PortableC.Proofs.Checks
import PortableC.Proofs.ClaimedName
import PortableC.Proofs.Command.Agreement
import PortableC.Proofs.Command.Effective
import PortableC.Proofs.Command.Effects
import PortableC.Proofs.Command.Run
import PortableC.Proofs.CommandLine.Scan
import PortableC.Proofs.CommandLine.TargetFlags
import PortableC.Proofs.Compiler.Names
import PortableC.Proofs.Decimal.Numeral
import PortableC.Proofs.Declaration.Items
import PortableC.Proofs.Declaration.Tokens
import PortableC.Proofs.FileTree.Write
import PortableC.Proofs.FunctionRef.Calls
import PortableC.Proofs.FunctionRef.History
import PortableC.Proofs.FunctionRef.Names
import PortableC.Proofs.FunctionRef.Registration
import PortableC.Proofs.HeaderGuard
import PortableC.Proofs.Layout.Lines
import PortableC.Proofs.Layout.Rows
import PortableC.Proofs.Layout.Spacing
import PortableC.Proofs.Layout.Tokens
import PortableC.Proofs.Prologue.ChosenNames
import PortableC.Proofs.Prologue.Colors
import PortableC.Proofs.Prologue.Externals
import PortableC.Proofs.Prologue.Growth
import PortableC.Proofs.Prologue.Identity
import PortableC.Proofs.Prologue.Keywords
import PortableC.Proofs.Prologue.Names
import PortableC.Proofs.Prologue.PointerTypes
import PortableC.Proofs.Prologue.Portability
import PortableC.Proofs.Prologue.Reachable
import PortableC.Proofs.Prologue.Tokens
import PortableC.Proofs.Prologue.Vocabulary
import PortableC.Proofs.ScalarTable
import PortableC.Proofs.Settings.Acceptance
import PortableC.Proofs.Settings.Entries
import PortableC.Proofs.Settings.Layers
import PortableC.Proofs.Settings.Overlay
import PortableC.Proofs.Signature.Grammar
import PortableC.Proofs.Signature.PointerName
import PortableC.Proofs.Signature.Spelling
import PortableC.Proofs.Source.Declares
import PortableC.Proofs.Source.Item
import PortableC.Proofs.Source.Parameter
import PortableC.Proofs.Source.Scope
import PortableC.Proofs.Source.Token
import PortableC.Proofs.Target.Choices
import PortableC.Proofs.Text.Alphabet
import PortableC.Proofs.Text.Colors
import PortableC.Proofs.Text.Column
import PortableC.Proofs.Text.Identifier
import PortableC.Proofs.Text.Joined
import PortableC.Proofs.Text.MacroCase
import PortableC.Proofs.Text.MacroName
import PortableC.Proofs.Text.Run
import PortableC.Proofs.Text.Trim
import PortableC.Proofs.Toml.Keys
import PortableC.Scalar
import PortableC.ScalarTable
import PortableC.Settings
import PortableC.Settings.Document
import PortableC.Settings.Misfit
import PortableC.Signature
import PortableC.Signature.Parser
import PortableC.Target
import PortableC.Text.Blank
import PortableC.Text.Column
import PortableC.Text.Identifier
import PortableC.Text.MacroCase
import PortableC.Text.Palette
import PortableC.Text.Quoted
import PortableC.Text.Unprintable
import PortableC.Toml.Document
import PortableC.Toml.Expression
import PortableC.Toml.Lexeme
import PortableC.Toml.Moment
import PortableC.Toml.Number
import PortableC.Toml.Quotation
import PortableC.Toml.Table
import PortableC.Toml.Value
import PortableC.Toolchain
