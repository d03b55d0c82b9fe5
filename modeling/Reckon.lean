import Reckon.CellRecord
import Reckon.Files.Disk
import Reckon.Main
import Reckon.Session
import Reckon.Proofs.GraphEdits
import Reckon.Proofs.Contents
import Reckon.Proofs.Planning
import Reckon.Proofs.Coherence
import Reckon.Proofs.Refusals
import Reckon.Proofs.StoreAndGraph
import Reckon.Proofs.FromScratch
import Reckon.Proofs.Recalculation
import Reckon.Proofs.Grammar
import Reckon.Proofs.ParseTree
import Reckon.Proofs.GraphEquality
import Reckon.Proofs.Reached
import Reckon.Proofs.Replay
import Reckon.Proofs.Rounding
import Reckon.Proofs.Numerals
import Reckon.Proofs.NumberText
import Reckon.Proofs.Lexemes
import Reckon.Proofs.Trimming
import Reckon.Proofs.Spacing
import Reckon.Proofs.FormulaText
import Reckon.Proofs.OffendingTokens
import Reckon.Proofs.Renaming
import Reckon.Proofs.SheetFileText
import Reckon.Proofs.SavedSheets
import Reckon.Proofs.CanonicalText
import Reckon.Proofs.ErrorPropagation
import Reckon.Proofs.SettledNames
import Reckon.Proofs.Undo
import Reckon.Proofs.Listings
import Reckon.Proofs.History
import Reckon.Proofs.PairSets
import Reckon.Proofs.FileRuns
import Reckon.Proofs.Commands
import Reckon.Proofs.FailingCommands
import Reckon.Proofs.InertLines
import Reckon.Proofs.FileVersions
import Reckon.Proofs.RecursiveSearch
import Reckon.Proofs.SearchLoop
import Reckon.Proofs.CommittedPlans
import Reckon.Proofs.UnsavedChanges
import Reckon.Proofs.PrintedContents
import Reckon.Proofs.FileFields
import Reckon.Proofs.ShownValues
import Reckon.Proofs.CommandLines
import Reckon.Proofs.ReenteredContents
import Reckon.Proofs.EvaluationStacks
import Reckon.Proofs.SpelledCommands
import Reckon.Proofs.EqualFormulas
import Reckon.Proofs.ReadNames
import Reckon.Proofs.PatternTexts
import Reckon.Proofs.LogFilters
