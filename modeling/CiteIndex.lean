import CiteIndex.Bibliography.Block
import CiteIndex.Bibliography.Entry
import CiteIndex.Bibliography.Field
import CiteIndex.Bibliography.Layout
import CiteIndex.Bibliography.Nesting
import CiteIndex.Bibliography.Reference
import CiteIndex.Bibliography.Store
import CiteIndex.Bibliography.Target
import CiteIndex.Candidate.Completion
import CiteIndex.Candidate.Item
import CiteIndex.Candidate.SortKey
import CiteIndex.Command.Arguments
import CiteIndex.Command.Help
import CiteIndex.Command.Reading
import CiteIndex.Command.Run
import CiteIndex.Command.View
import CiteIndex.Document
import CiteIndex.Doi
import CiteIndex.File.Access
import CiteIndex.File.Error
import CiteIndex.File.Path
import CiteIndex.File.Tree
import CiteIndex.Http.Client
import CiteIndex.Http.Message
import CiteIndex.Json.Printer
import CiteIndex.Json.Reader
import CiteIndex.Json.Record
import CiteIndex.Json.Value
import CiteIndex.Label.Kind
import CiteIndex.Label.Occurrence
import CiteIndex.Lookup.Catalogue
import CiteIndex.Lookup.Error
import CiteIndex.Lookup.Resolver
import CiteIndex.Lookup.Service
import CiteIndex.Lookup.Work
import CiteIndex.Main
import CiteIndex.Settings.Basic
import CiteIndex.Settings.Stored
import CiteIndex.Text.Alphabet
import CiteIndex.Text.Basic
import CiteIndex.Text.Blank
import CiteIndex.Text.Canonical
import CiteIndex.Text.Case
import CiteIndex.Text.Combining
import CiteIndex.Text.Composite
import CiteIndex.Text.Decimal
import CiteIndex.Text.Direction
import CiteIndex.Text.Joining
import CiteIndex.Text.Percent
import CiteIndex.Text.Utf8
import CiteIndex.Toml.Assembly
import CiteIndex.Toml.Printer
import CiteIndex.Toml.Reader
import CiteIndex.Toml.Value
import CiteIndex.Url.Address
import CiteIndex.Url.Basic
import CiteIndex.Url.DomainName
import CiteIndex.Url.Error
import CiteIndex.Url.Host
import CiteIndex.Url.NameTable
import CiteIndex.Url.Punycode
import CiteIndex.Url.Reader
import CiteIndex.Proofs.Bibliography.Balance
import CiteIndex.Proofs.Bibliography.Blocks
import CiteIndex.Proofs.Bibliography.Entries
import CiteIndex.Proofs.Bibliography.FieldSpacing
import CiteIndex.Proofs.Bibliography.Fields
import CiteIndex.Proofs.Bibliography.Layouts
import CiteIndex.Proofs.Bibliography.Mentions
import CiteIndex.Proofs.Bibliography.Spacing
import CiteIndex.Proofs.Bibliography.Stores
import CiteIndex.Proofs.Bibliography.Written
import CiteIndex.Proofs.File.ReadBack
import CiteIndex.Proofs.File.Replacing
import CiteIndex.Proofs.Http.Redirects
import CiteIndex.Proofs.Lookup.Inserting
import CiteIndex.Proofs.Lookup.Overlap
import CiteIndex.Proofs.Lookup.Repeating
import CiteIndex.Proofs.Text.Gaps
import CiteIndex.Proofs.Text.Mentions
import CiteIndex.Proofs.Text.Squeezing
import CiteIndex.Proofs.Label.Declarations
import CiteIndex.Proofs.Text.LineEnds
import CiteIndex.Proofs.Text.Lines
import CiteIndex.Proofs.Bibliography.Pieces
import CiteIndex.Proofs.Bibliography.LaidTwice
import CiteIndex.Proofs.Bibliography.Inline
import CiteIndex.Proofs.Bibliography.Citations
import CiteIndex.Proofs.Lookup.Failures
import CiteIndex.Proofs.Bibliography.LineEnds
import CiteIndex.Proofs.Document.LineEnds
import CiteIndex.Proofs.Candidate.Ranking
import CiteIndex.Proofs.Command.Inserting
import CiteIndex.Proofs.Candidate.SortTexts
import CiteIndex.Proofs.Bibliography.Authors
import CiteIndex.Proofs.Bibliography.WellFormed
import CiteIndex.Proofs.Bibliography.Headers
import CiteIndex.Proofs.Text.Positions
import CiteIndex.Proofs.Bibliography.NestingPlaces
import CiteIndex.Proofs.Bibliography.BlockPlaces
import CiteIndex.Proofs.Bibliography.FieldPlaces
import CiteIndex.Proofs.Doi.Spellings
import CiteIndex.Proofs.Lookup.Addresses
import CiteIndex.Proofs.Doi.ReadBack
import CiteIndex.Proofs.Bibliography.LinkedStores
import CiteIndex.Proofs.Lookup.Searching
import CiteIndex.Proofs.File.Listing
import CiteIndex.Proofs.File.Ways
import CiteIndex.Proofs.Bibliography.Targets
import CiteIndex.Proofs.Bibliography.FieldPieces
import CiteIndex.Proofs.Bibliography.WrittenCalls
import CiteIndex.Proofs.Bibliography.LocatedTargets
