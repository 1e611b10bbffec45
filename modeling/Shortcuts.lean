import Shortcuts.Main
import Shortcuts.Json.Reader
import Shortcuts.Sample
import Shortcuts.Proofs.Lookup.Nesting
import Shortcuts.Proofs.Lookup.Chain
import Shortcuts.Proofs.Lookup.Search
import Shortcuts.Proofs.Resolution.Retired
import Shortcuts.Proofs.Resolution.Arguments
import Shortcuts.Proofs.Session.Transparent
import Shortcuts.Proofs.Session.Changing
import Shortcuts.Proofs.Template.Staged
import Shortcuts.Proofs.Lookup.Listing
import Shortcuts.Proofs.Lookup.Occurrence
import Shortcuts.Proofs.Query.Bare
import Shortcuts.Proofs.Resolution.Prefixes
import Shortcuts.Proofs.Lookup.References
import Shortcuts.Proofs.Lookup.Shape
import Shortcuts.Proofs.Lookup.Pinned
import Shortcuts.Proofs.Resolution.Indifference
import Shortcuts.Proofs.Lookup.Stocked
import Shortcuts.Proofs.Query.FirstWord
import Shortcuts.Proofs.Query.Lossless
import Shortcuts.Proofs.Resolution.Padding
import Shortcuts.Proofs.Query.Replacement
import Shortcuts.Proofs.Resolution.Default
import Shortcuts.Proofs.Entry.Written
import Shortcuts.Proofs.Lookup.Counting
import Shortcuts.Proofs.Lookup.Resolved
import Shortcuts.Proofs.Session.Supported
import Shortcuts.Proofs.Template.Spans
import Shortcuts.Proofs.Text.Encoded
import Shortcuts.Proofs.Query.Structured
import Shortcuts.Proofs.Template.Slots
import Shortcuts.Proofs.Session.Consulted
import Shortcuts.Proofs.Template.Names
import Shortcuts.Proofs.CommandLine.SearchLine
import Shortcuts.Proofs.Template.Notation
import Shortcuts.Proofs.Lookup.Alike
import Shortcuts.Proofs.Lookup.Notation
import Shortcuts.Proofs.Entry.Lenient
import Shortcuts.Proofs.Namespace.Forms
import Shortcuts.Proofs.Session.Embedded
import Shortcuts.Proofs.Template.TimeFormat
