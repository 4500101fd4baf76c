import LoxLexer.Main
import LoxLexer.Proofs.CutSemantics
import LoxLexer.Proofs.Segmentation
import LoxLexer.Proofs.ScanSemantics
import LoxLexer.Proofs.NumeralValue
import LoxLexer.Proofs.ReferenceScan
import LoxLexer.Proofs.LineNumbers
import LoxLexer.Proofs.TokenLists
import LoxLexer.Proofs.Unparse
import LoxLexer.Proofs.Interruption
import LoxLexer.Proofs.Lookahead
import LoxLexer.Proofs.Concatenation
import LoxLexer.Proofs.Adjacency
import LoxLexer.Proofs.Blanking
import LoxLexer.Proofs.LexemeStarts
import LoxLexer.Proofs.OpaqueBodies
import LoxLexer.Proofs.LineEndings
import LoxLexer.Proofs.Answers
import LoxLexer.Proofs.PromptSession
import LoxLexer.Proofs.TextFiles
import LoxLexer.Proofs.RunOutcomes
import LoxLexer.Proofs.ScriptAndPrompt
import LoxLexer.Proofs.PrintedTokens
import LoxLexer.Proofs.Presentation
import LoxLexer.Proofs.SettingsFiles
import LoxLexer.Proofs.CommandLineItems
import LoxLexer.Proofs.SettingsEntries
import LoxLexer.Proofs.IndexedScan
import LoxLexer.Proofs.IndexedSegments
import LoxLexer.Proofs.ScanProgress
import LoxLexer.Proofs.Rounding
import LoxLexer.Proofs.NumberLiterals
import LoxLexer.Proofs.ShortestDigits
import LoxLexer.Proofs.PrintedNumbers
import LoxLexer.Proofs.PrintedLines
