import BundleManifest.Decimal.Literal
import BundleManifest.Decimal.Shortest
import BundleManifest.Running.Setup
import BundleManifest.Manifest.Descriptor
import BundleManifest.Platform.Environment
import BundleManifest.Service.Exchange
import BundleManifest.Package.Legacy
import BundleManifest.Package.Modern
import BundleManifest.Version.Range
import BundleManifest.Text.Blank
import BundleManifest.Text.Casing
import BundleManifest.Text.Digit
import BundleManifest.Text.Quoted
import BundleManifest.Proofs.Outcome
import BundleManifest.Proofs.Version.Order
import BundleManifest.Proofs.Native.Selection
import BundleManifest.Proofs.Text.Infix
import BundleManifest.Proofs.Version.Reading
import BundleManifest.Proofs.Header.Clause
import BundleManifest.Proofs.Package.Clause
import BundleManifest.Proofs.Package.Declaration
import BundleManifest.Proofs.Native.Clause
import BundleManifest.Proofs.Package.Normalization
import BundleManifest.Proofs.Manifest.Reading
import BundleManifest.Proofs.Manifest.Invariants
import BundleManifest.Proofs.Manifest.Acceptance
import BundleManifest.Proofs.Native.Stored
import BundleManifest.Proofs.Platform.Matcher
import BundleManifest.Proofs.Manifest.Libraries
import BundleManifest.Proofs.Text.Trim
import BundleManifest.Proofs.Filter.Grammar
import BundleManifest.Proofs.Filter.Reader
import BundleManifest.Proofs.Filter.Test
import BundleManifest.Proofs.Filter.Parsing
import BundleManifest.Proofs.Filter.Printing
import BundleManifest.Proofs.Header.Pieces
import BundleManifest.Proofs.Header.Layout
import BundleManifest.Proofs.Package.Layout
import BundleManifest.Proofs.Package.Spelling
import BundleManifest.Proofs.Text.Join
import BundleManifest.Proofs.Text.CommaList
import BundleManifest.Proofs.Manifest.Uses
import BundleManifest.Proofs.Manifest.Origin
import BundleManifest.Proofs.Dictionary
import BundleManifest.Proofs.Manifest.Declarations
import BundleManifest.Proofs.Manifest.Versions
import BundleManifest.Proofs.Version.Grammar
import BundleManifest.Proofs.Manifest.Tolerance
import BundleManifest.Proofs.Native.Layout
import BundleManifest.Proofs.Header.Spacing
import BundleManifest.Proofs.Filter.Substring
import BundleManifest.Proofs.Native.Marker
import BundleManifest.Proofs.Manifest.NativeCode
import BundleManifest.Proofs.Platform.Overrides
import BundleManifest.Proofs.Header.Concatenation
import BundleManifest.Proofs.Package.Exports
import BundleManifest.Proofs.Version.Components
import BundleManifest.Proofs.Version.Canonical
import BundleManifest.Proofs.Native.Floor
import BundleManifest.Proofs.Native.Permutation
import BundleManifest.Proofs.Native.Insertion
import BundleManifest.Proofs.Version.Interval
import BundleManifest.Proofs.Filter.Order
import BundleManifest.Proofs.Platform.Fields
import BundleManifest.Proofs.Platform.Release
import BundleManifest.Proofs.Filter.Keys
import BundleManifest.Proofs.Platform.Names
import BundleManifest.Proofs.Platform.Catalogue
import BundleManifest.Proofs.Platform.Entries
import BundleManifest.Proofs.Platform.Environment
import BundleManifest.Proofs.Version.Comparison
import BundleManifest.Proofs.Text.Upper
import BundleManifest.Proofs.Service.PathLabel
import BundleManifest.Proofs.Service.Sums
import BundleManifest.Proofs.Service.Keys
import BundleManifest.Proofs.Service.Counters
import BundleManifest.Proofs.Service.Exchange
