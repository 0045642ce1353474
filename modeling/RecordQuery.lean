import RecordQuery.Command.Arguments
import RecordQuery.Command.Error
import RecordQuery.Command.Invocation
import RecordQuery.Command.Run
import RecordQuery.Expr.Grammar
import RecordQuery.Expr.Shape
import RecordQuery.Files.Tree
import RecordQuery.Main
import RecordQuery.Query
import RecordQuery.Record.Ancestry
import RecordQuery.Text.CaseTable
import RecordQuery.Proofs.Flattening
import RecordQuery.Proofs.Derivations
import RecordQuery.Proofs.Reading
import RecordQuery.Proofs.Prefixes
import RecordQuery.Proofs.Scanning
import RecordQuery.Proofs.Phrases
import RecordQuery.Proofs.CanonicalText
import RecordQuery.Proofs.RoundTrip
import RecordQuery.Proofs.Depths
import RecordQuery.Proofs.Boundaries
import RecordQuery.Proofs.Concatenation
import RecordQuery.Proofs.Composition
import RecordQuery.Proofs.FaultPlaces
import RecordQuery.Proofs.ParentLinks
import RecordQuery.Proofs.Inheritance
import RecordQuery.Proofs.Loading
import RecordQuery.Proofs.Heights
import RecordQuery.Proofs.ReadingOn
import RecordQuery.Proofs.Looking
import RecordQuery.Proofs.ListingFaults
import RecordQuery.Proofs.QueryRuns
import RecordQuery.Proofs.FileTrees
import RecordQuery.Proofs.SettingsFile
import RecordQuery.Proofs.Lowering
import RecordQuery.Proofs.TextMatches
import RecordQuery.Proofs.NameMatches
import RecordQuery.Proofs.LoadingOrder
import RecordQuery.Proofs.TokenSpans
import RecordQuery.Token.Grammar
import RecordQuery.Proofs.Sources
import RecordQuery.Proofs.LexicalFaults
import RecordQuery.Proofs.QuotedStrings
import RecordQuery.Proofs.Exclamations
import RecordQuery.Proofs.Respelling
import RecordQuery.Proofs.Shorthands
import RecordQuery.Proofs.Juxtaposition
import RecordQuery.Proofs.FaultKinds
import RecordQuery.Proofs.EndMarker
import RecordQuery.Proofs.StatusAdditions
import RecordQuery.Proofs.SiblingClasses
import RecordQuery.Proofs.TokenRows
import RecordQuery.Proofs.Carets
import RecordQuery.Proofs.LimitedListings
import RecordQuery.Proofs.EditDistances
import RecordQuery.Proofs.SavedQueries
import RecordQuery.Text.Unstyled
import RecordQuery.Proofs.RecordRows
import RecordQuery.Proofs.RecordForms
import RecordQuery.Proofs.Descent
import RecordQuery.Proofs.DescentRuns
