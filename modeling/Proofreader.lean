import Proofreader.RuleSet.Stored
import Proofreader.RuleFile.Load
import Proofreader.RuleFile.Describe
import Proofreader.Json.Parse
import Proofreader.Json.Print
import Proofreader.Cli
import Proofreader.Main
import Proofreader.Proofs.Backtracking
import Proofreader.Proofs.CutOff
import Proofreader.Proofs.GreatestFit
import Proofreader.Proofs.Splitting
import Proofreader.Proofs.TokenSpans
import Proofreader.Proofs.SuggestionOrder
import Proofreader.Proofs.SuggestionSpans
import Proofreader.Proofs.MatchScan
import Proofreader.Proofs.WellFormed
import Proofreader.Proofs.InRange
import Proofreader.Proofs.History
import Proofreader.Proofs.Runs
import Proofreader.Proofs.Words
import Proofreader.Proofs.Correction
import Proofreader.Proofs.Priority
import Proofreader.Proofs.ViewText
import Proofreader.Proofs.MarkedSpan
import Proofreader.Proofs.SentenceBreaks
import Proofreader.Proofs.ExceptionWindow
import Proofreader.Proofs.ReadingChanges
import Proofreader.Proofs.DollarReferences
import Proofreader.Proofs.Selectors
import Proofreader.Proofs.StoredSet
import Proofreader.Proofs.DocumentRuns
import Proofreader.Proofs.WordCoherency
import Proofreader.Proofs.Synthesis
import Proofreader.Proofs.WordList
import Proofreader.Proofs.TitleCase
import Proofreader.Proofs.Boundaries
import Proofreader.Proofs.Templates
import Proofreader.Proofs.CompileChecks
import Proofreader.Proofs.PiecePartition
