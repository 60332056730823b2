import Rowbase.Command.Write
import Rowbase.Main
import Rowbase.Response.Read
import Rowbase.Service
import Rowbase.Proofs.Outcomes
import Rowbase.Proofs.TableInvariant
import Rowbase.Proofs.DatabaseInvariant
import Rowbase.Proofs.Paths
import Rowbase.Proofs.StoreSteps
import Rowbase.Proofs.FailedCommands
import Rowbase.Proofs.Lexemes
import Rowbase.Proofs.Readings
import Rowbase.Proofs.PlainTexts
import Rowbase.Proofs.ListingRoundTrip
import Rowbase.Proofs.CutOffSaves
import Rowbase.Proofs.JsonRoundTrip
import Rowbase.Proofs.DocumentRoundTrip
import Rowbase.Proofs.SimpleNames
import Rowbase.Proofs.Mirrors
import Rowbase.Proofs.DurableRefinement
import Rowbase.Proofs.Grammar
import Rowbase.Proofs.Recognition
import Rowbase.Proofs.Sentences
import Rowbase.Proofs.Boundaries
import Rowbase.Proofs.WrittenCommands
import Rowbase.Proofs.Mentions
import Rowbase.Proofs.TableErrors
import Rowbase.Proofs.PlainMessages
import Rowbase.Proofs.PlainResponses
import Rowbase.Proofs.Ledgers
import Rowbase.Proofs.Identities
import Rowbase.Proofs.Framing
import Rowbase.Proofs.OrderlyStores
import Rowbase.Proofs.SeparateDatabases
import Rowbase.Proofs.ReadOnlyCommands
import Rowbase.Proofs.SelectedDatabases
import Rowbase.Proofs.Saves
import Rowbase.Proofs.LoadedDatabases
import Rowbase.Proofs.LetterCase
import Rowbase.Proofs.LexicalGrammar
import Rowbase.Proofs.InsertLines
import Rowbase.Proofs.InsertedRows
import Rowbase.Proofs.RecasedLines
import Rowbase.Proofs.RecasedCommands
import Rowbase.Proofs.RecasedRuns
import Rowbase.Proofs.SavedDatabases
import Rowbase.Proofs.LastingConsistency
import Rowbase.Proofs.AcceptedDocuments
import Rowbase.Proofs.ConditionTruth
import Rowbase.Proofs.NameFaults
import Rowbase.Proofs.SelectedRows
import Rowbase.Proofs.AlteredTables
import Rowbase.Proofs.RepeatedChanges
import Rowbase.Proofs.DistinctHeaders
import Rowbase.Proofs.JoinHeaders
import Rowbase.Proofs.JoinedRows
import Rowbase.Proofs.Rounding
import Rowbase.Proofs.DecimalValues
import Rowbase.Proofs.Numerals
import Rowbase.Proofs.ComparisonLaws
import Rowbase.Proofs.NumericComparison
import Rowbase.Proofs.StoredLiterals
import Rowbase.Proofs.IdentityRows
import Rowbase.Proofs.SpacedLines
import Rowbase.Proofs.TokenClasses
