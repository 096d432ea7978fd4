import Workspaces.Machine
import Workspaces.Main
import Workspaces.Proofs.Grammar
import Workspaces.Proofs.Recognition
import Workspaces.Proofs.SourceOrder
import Workspaces.Proofs.Flattening
import Workspaces.Proofs.ShellStatements
import Workspaces.Proofs.CommandSubstitution
import Workspaces.Proofs.ShellWords
import Workspaces.Proofs.ScriptReading
import Workspaces.Proofs.QuotedWords
import Workspaces.Proofs.TomlStrings
import Workspaces.Proofs.Calendar
import Workspaces.Proofs.WrittenInstants
import Workspaces.Proofs.TomlLines
import Workspaces.Proofs.StoreForm
import Workspaces.Proofs.WrittenFiles
import Workspaces.Proofs.SavedStore
import Workspaces.Proofs.WellFormed
import Workspaces.Proofs.StoreRuns
import Workspaces.Proofs.LoadedStore
import Workspaces.Proofs.CommandRuns
import Workspaces.Proofs.UnchangedFiles
import Workspaces.Proofs.PrintedScript
import Workspaces.Proofs.CheckedVariants
import Workspaces.Proofs.StoreHistory
import Workspaces.Proofs.PlainWays
import Workspaces.Proofs.Lexemes
import Workspaces.Proofs.LexemeRecognition
import Workspaces.Proofs.ErrorPositions
import Workspaces.Proofs.Layouts
import Workspaces.Proofs.TagHistory
import Workspaces.Proofs.StoreOutcomes
import Workspaces.Proofs.Recency
import Workspaces.Proofs.SavingEffects
import Workspaces.Proofs.NewWorkspaces
import Workspaces.Proofs.MovedSources
import Workspaces.Proofs.JoinedSources
import Workspaces.Proofs.LineEndings
import Workspaces.Proofs.AgedListings
