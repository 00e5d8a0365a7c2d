import Dossier.Main
import Dossier.Proofs.Match.Visibility
import Dossier.Proofs.Query.Canonical
import Dossier.Proofs.Query.Machine
import Dossier.Proofs.Search.Augmentation
import Dossier.Proofs.Search.Containment
import Dossier.Proofs.Search.Denotation
import Dossier.Proofs.Search.Exclusion
import Dossier.Proofs.Search.Index
import Dossier.Proofs.Search.Retrieval
import Dossier.Proofs.Search.Tiling
import Dossier.Proofs.Search.Uniqueness
import Dossier.Proofs.Query.Plain
import Dossier.Proofs.Search.Modes
import Dossier.Proofs.Search.Restriction
import Dossier.Proofs.Search.Rebuild
import Dossier.Proofs.Search.History
import Dossier.Proofs.Search.Address
import Dossier.Proofs.Search.Report
import Dossier.Proofs.Search.Presentation
import Dossier.Proofs.Search.Reindex
import Dossier.Proofs.Query.Form
import Dossier.Proofs.Query.Leaves
import Dossier.Proofs.Query.Repair
import Dossier.Proofs.Query.Language
import Dossier.Proofs.Query.EmptyGroup
import Dossier.Proofs.Query.Errors
import Dossier.Proofs.Query.Negation
import Dossier.Proofs.Query.Positive
import Dossier.Proofs.Query.Tables
import Dossier.Proofs.Match.Expression
import Dossier.Proofs.Text.Variant
import Dossier.Proofs.Text.Occurrence
import Dossier.Proofs.Match.Plain
import Dossier.Proofs.Match.Leaf
import Dossier.Proofs.Match.Scoped
import Dossier.Proofs.Match.Snippet
import Dossier.Proofs.Profile.Address
import Dossier.Proofs.Search.Abort
import Dossier.Proofs.Search.Resolution
import Dossier.Proofs.Match.OnlyField
import Dossier.Proofs.Search.LeafResults
import Dossier.Proofs.Match.Widening
import Dossier.Proofs.Command.DefaultLimit
import Dossier.Proofs.Match.WordSet
import Dossier.Proofs.Near.Best
import Dossier.Proofs.Search.WordSet
import Dossier.Proofs.Search.Coverage
import Dossier.Proofs.Search.OpenQuote
import Dossier.Proofs.Search.Validation
import Dossier.Proofs.Query.Reading
