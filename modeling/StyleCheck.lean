import StyleCheck.Text.Blank
import StyleCheck.Text.Case
import StyleCheck.Text.Digit
import StyleCheck.Text.Lines
import StyleCheck.Text.Quoted
import StyleCheck.Text.Search
import StyleCheck.Text.Utf8
import StyleCheck.Number.Basic
import StyleCheck.Severity
import StyleCheck.Source.Document
import StyleCheck.Source.Tree
import StyleCheck.Source.Mask
import StyleCheck.Source.Casing
import StyleCheck.Source.Signature
import StyleCheck.Source.Include
import StyleCheck.Source.Symbol
import StyleCheck.Finding
import StyleCheck.Trace
import StyleCheck.Diagnosis
import StyleCheck.Fix.Action
import StyleCheck.Project
import StyleCheck.Config.Yaml.Node
import StyleCheck.Config.Load
import StyleCheck.Report.Basic
import StyleCheck.Main
import StyleCheck.Proofs.Words
import StyleCheck.Proofs.Findings
import StyleCheck.Proofs.Highlighting
import StyleCheck.Proofs.Insertion
import StyleCheck.Proofs.GlobalRename
import StyleCheck.Proofs.Complaints
import StyleCheck.Proofs.Renaming
import StyleCheck.Proofs.MaskedLines
import StyleCheck.Proofs.MaskedText
import StyleCheck.Proofs.AnalyzerRuns
import StyleCheck.Proofs.Reconfiguration
import StyleCheck.Proofs.GivenRegistry
import StyleCheck.Proofs.FunctionLengths
import StyleCheck.Proofs.PositionOrder
import StyleCheck.Proofs.FileScope
import StyleCheck.Proofs.JoinedTexts
import StyleCheck.Proofs.PlainDeclarations
import StyleCheck.Proofs.DeclarationTexts
import StyleCheck.Proofs.MergedSettings
import StyleCheck.Proofs.LoadedSettings
import StyleCheck.Proofs.ProjectRuns
import StyleCheck.Proofs.ExitStatus
import StyleCheck.Proofs.CharacterLiterals
import StyleCheck.Proofs.NestedBlocks
import StyleCheck.Proofs.LimitSettings
import StyleCheck.Proofs.BlockEnds
import StyleCheck.Proofs.LimitThresholds
import StyleCheck.Proofs.SortedDiagnostics
import StyleCheck.Proofs.OutputBatches
import StyleCheck.Proofs.OutputRanges
import StyleCheck.Proofs.References
import StyleCheck.Proofs.LineHighlights
import StyleCheck.Proofs.LineReferences
import StyleCheck.Proofs.LineDepths
import StyleCheck.Proofs.CamelCase
import StyleCheck.Proofs.RuleIds
import StyleCheck.Proofs.SeparateFindings
import StyleCheck.Proofs.PathExpansion
import StyleCheck.Proofs.CheckedPaths
