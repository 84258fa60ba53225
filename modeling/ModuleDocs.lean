import ModuleDocs.Checkout.Git
import ModuleDocs.Checkout.Modules
import ModuleDocs.CommandLine.Arguments
import ModuleDocs.CommandLine.Help
import ModuleDocs.CommandLine.Run
import ModuleDocs.Components
import ModuleDocs.Decimal.Double
import ModuleDocs.Decimal.Shortest
import ModuleDocs.Decimal.Style
import ModuleDocs.Describe.Describer
import ModuleDocs.Describe.Heuristic
import ModuleDocs.Describe.Prompt
import ModuleDocs.Describe.Reply
import ModuleDocs.Files.Access
import ModuleDocs.Files.Path
import ModuleDocs.Files.Tree
import ModuleDocs.Generate.Batch
import ModuleDocs.Generate.Context
import ModuleDocs.Generate.Interleaving
import ModuleDocs.Generate.RootTable
import ModuleDocs.Hcl.Block
import ModuleDocs.Hcl.Declaration
import ModuleDocs.Hcl.Expression
import ModuleDocs.Hcl.Fields
import ModuleDocs.Hcl.Header
import ModuleDocs.Hcl.Literal
import ModuleDocs.Hcl.Scan
import ModuleDocs.Issue
import ModuleDocs.Json.Printer
import ModuleDocs.Json.Reader
import ModuleDocs.Json.Value
import ModuleDocs.Log
import ModuleDocs.Log.Sink
import ModuleDocs.Main
import ModuleDocs.Module.Category
import ModuleDocs.Module.Context
import ModuleDocs.Module.Duplicates
import ModuleDocs.Proofs.Checkout.FoundModules
import ModuleDocs.Proofs.Checkout.RepositoryNames
import ModuleDocs.Proofs.Checkout.SameModule
import ModuleDocs.Proofs.Checkout.SearchedModules
import ModuleDocs.Proofs.CommandLine.ExitCode
import ModuleDocs.Proofs.CommandLine.Rerun
import ModuleDocs.Proofs.Describe.Fallback
import ModuleDocs.Proofs.Describe.FencedReplies
import ModuleDocs.Proofs.Describe.KeptGroups
import ModuleDocs.Proofs.Describe.ModuleGroups
import ModuleDocs.Proofs.Describe.NormalForm
import ModuleDocs.Proofs.Describe.ReplyErrors
import ModuleDocs.Proofs.Describe.WrittenGroups
import ModuleDocs.Proofs.Files.Listing
import ModuleDocs.Proofs.Files.Places
import ModuleDocs.Proofs.Files.Rewriting
import ModuleDocs.Proofs.Generate.FileCut
import ModuleDocs.Proofs.Generate.FileOrder
import ModuleDocs.Proofs.Generate.Interleaving
import ModuleDocs.Proofs.Generate.Offer
import ModuleDocs.Proofs.Generate.Outcome
import ModuleDocs.Proofs.Generate.Regeneration
import ModuleDocs.Proofs.Generate.Sequence
import ModuleDocs.Proofs.Generate.TablePlace
import ModuleDocs.Proofs.Generate.TableRows
import ModuleDocs.Proofs.Hcl.Balance
import ModuleDocs.Proofs.Hcl.ClosedBlocks
import ModuleDocs.Proofs.Hcl.ExpressionEnd
import ModuleDocs.Proofs.Hcl.FieldSearch
import ModuleDocs.Proofs.Hcl.FieldWords
import ModuleDocs.Proofs.Hcl.FoundHeaders
import ModuleDocs.Proofs.Hcl.HeaderWalk
import ModuleDocs.Proofs.Hcl.Heredocs
import ModuleDocs.Proofs.Hcl.HiddenBraces
import ModuleDocs.Proofs.Hcl.ItemLines
import ModuleDocs.Proofs.Hcl.NestedBlocks
import ModuleDocs.Proofs.Hcl.ShortestBlock
import ModuleDocs.Proofs.Hcl.WrittenDeclarations
import ModuleDocs.Proofs.Hcl.WrittenFields
import ModuleDocs.Proofs.Hcl.WrittenValues
import ModuleDocs.Proofs.Json.ValueTexts
import ModuleDocs.Proofs.Log
import ModuleDocs.Proofs.Module.Categories
import ModuleDocs.Proofs.Module.WrittenModule
import ModuleDocs.Proofs.Module.WrittenVariable
import ModuleDocs.Proofs.Readme.DescriptionLine
import ModuleDocs.Proofs.Readme.FirstSection
import ModuleDocs.Proofs.Readme.MarkedSections
import ModuleDocs.Proofs.Readme.ShownLiterals
import ModuleDocs.Proofs.Readme.TableCells
import ModuleDocs.Proofs.Readme.UsageSections
import ModuleDocs.Proofs.SharedParts
import ModuleDocs.Proofs.Text.Compound
import ModuleDocs.Proofs.Text.Occurrences
import ModuleDocs.Proofs.Usage.ExampleLines
import ModuleDocs.Proofs.Usage.FieldNames
import ModuleDocs.Proofs.Usage.JoinedConditions
import ModuleDocs.Proofs.Usage.ScannedExamples
import ModuleDocs.Proofs.Usage.StatedFields
import ModuleDocs.Proofs.Usage.WrittenConditions
import ModuleDocs.Readme.Document
import ModuleDocs.Readme.Markers
import ModuleDocs.Readme.Table
import ModuleDocs.Settings.Basic
import ModuleDocs.Settings.Conversion
import ModuleDocs.Settings.Environment
import ModuleDocs.Settings.Provider
import ModuleDocs.Settings.Read
import ModuleDocs.Settings.Sources
import ModuleDocs.Settings.VariableFile
import ModuleDocs.Text.Basic
import ModuleDocs.Text.Blank
import ModuleDocs.Text.ByteFault
import ModuleDocs.Text.Case
import ModuleDocs.Text.CaseTable
import ModuleDocs.Text.CharGrid
import ModuleDocs.Text.CharGrid.Big5
import ModuleDocs.Text.CharGrid.Gb2312
import ModuleDocs.Text.CharGrid.GbExtension
import ModuleDocs.Text.CharGrid.Hkscs
import ModuleDocs.Text.CharGrid.Jis0208
import ModuleDocs.Text.CharGrid.Jis0212
import ModuleDocs.Text.CharGrid.Jis0213
import ModuleDocs.Text.CharGrid.Ksx1001
import ModuleDocs.Text.CharacterName
import ModuleDocs.Text.CharacterName.Aliases
import ModuleDocs.Text.CharacterName.Alphabets
import ModuleDocs.Text.CharacterName.EastAsia
import ModuleDocs.Text.CharacterName.Pictures
import ModuleDocs.Text.CharacterName.Scripts
import ModuleDocs.Text.CharacterName.Series
import ModuleDocs.Text.CharacterName.Symbols
import ModuleDocs.Text.CharacterName.Words
import ModuleDocs.Text.CodePage
import ModuleDocs.Text.CodePage.Cyrillic
import ModuleDocs.Text.CodePage.Dos
import ModuleDocs.Text.CodePage.Ebcdic
import ModuleDocs.Text.CodePage.Iso
import ModuleDocs.Text.CodePage.Mac
import ModuleDocs.Text.CodePage.Windows
import ModuleDocs.Text.Digit
import ModuleDocs.Text.Encoding
import ModuleDocs.Text.Escapes
import ModuleDocs.Text.Glob
import ModuleDocs.Text.Idna
import ModuleDocs.Text.MultiByte
import ModuleDocs.Text.MultiByte.Japanese
import ModuleDocs.Text.MultiByte.Korean
import ModuleDocs.Text.MultiByte.Shifting
import ModuleDocs.Text.MultiByte.Simplified
import ModuleDocs.Text.MultiByte.Traditional
import ModuleDocs.Text.Nameprep
import ModuleDocs.Text.Nameprep.Tables
import ModuleDocs.Text.Normalization
import ModuleDocs.Text.Normalization.Classes
import ModuleDocs.Text.Normalization.Compositions
import ModuleDocs.Text.Normalization.Decompositions
import ModuleDocs.Text.PrintableTable
import ModuleDocs.Text.Punycode
import ModuleDocs.Text.Quoted
import ModuleDocs.Text.Utf7
import ModuleDocs.Text.Utf8
import ModuleDocs.Text.Wide
import ModuleDocs.Text.Word
import ModuleDocs.Text.WordTable
import ModuleDocs.Usage.Condition
import ModuleDocs.Usage.Description
import ModuleDocs.Usage.Example
import ModuleDocs.Usage.Group
import ModuleDocs.Workspace
