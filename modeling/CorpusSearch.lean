import CorpusSearch.Main
import CorpusSearch.Proofs.Catalog.Entries
import CorpusSearch.Proofs.Corpus.Groups
import CorpusSearch.Proofs.Match.AnyOrder
import CorpusSearch.Proofs.Match.CopiedWord
import CorpusSearch.Proofs.Match.SameResults
import CorpusSearch.Proofs.Match.StrictRecords
import CorpusSearch.Proofs.Query.Excerpt
import CorpusSearch.Proofs.Query.Fallback
import CorpusSearch.Proofs.Query.Joined
import CorpusSearch.Proofs.Query.Operators
import CorpusSearch.Proofs.Query.Positive
import CorpusSearch.Proofs.Query.Requirements
import CorpusSearch.Proofs.Query.Stray
import CorpusSearch.Proofs.Query.Synonyms
import CorpusSearch.Proofs.Query.Written
import CorpusSearch.Proofs.Snippet.Windows
import CorpusSearch.Proofs.Settings.Contract
import CorpusSearch.Proofs.Settings.Layers
import CorpusSearch.Proofs.Query.Leaves
import CorpusSearch.Proofs.Query.Segmentation
import CorpusSearch.Proofs.Files.Rows
import CorpusSearch.Proofs.Preferences.Stored
import CorpusSearch.Proofs.Report.Files
import CorpusSearch.Proofs.Command.Work
import CorpusSearch.Proofs.Log.Targets
import CorpusSearch.Proofs.Command.History
import CorpusSearch.Proofs.Snippet.Hits
import CorpusSearch.Proofs.Text.Tidy
import CorpusSearch.Proofs.Snippet.SameNeedles
import CorpusSearch.Proofs.Match.Excerpts
import CorpusSearch.Proofs.Snippet.Ellipses
import CorpusSearch.Proofs.Snippet.Marked
import CorpusSearch.Proofs.Snippet.Shown
import CorpusSearch.Proofs.Net.Course
import CorpusSearch.Proofs.Net.Pauses
import CorpusSearch.Proofs.Snippet.Pieces
import CorpusSearch.Proofs.Match.ShownTerms
import CorpusSearch.Proofs.Catalog.Links
import CorpusSearch.Proofs.Net.Texts
import CorpusSearch.Proofs.Settings.Merges
import CorpusSearch.Proofs.Report.Histories
import CorpusSearch.Proofs.Snippet.NeedleHits
import CorpusSearch.Proofs.Log.Lines
