import SkinLayout.Dimension.Write
import SkinLayout.Dimension.Read
import SkinLayout.Unified.Pixels
import SkinLayout.Markup.Writer
import SkinLayout.Markup.Builder
import SkinLayout.Json.Reader
import SkinLayout.Json.Printer
import SkinLayout.Cache
import SkinLayout.Data.Config
import SkinLayout.Data.Records
import SkinLayout.Proofs.Number.Bits
import SkinLayout.Proofs.Number.RoundTrip
import SkinLayout.Proofs.Markup.Collect
import SkinLayout.Proofs.Dimension.Meaning
import SkinLayout.Proofs.Widget.Lineage
import SkinLayout.Proofs.Widget.Subtree
import SkinLayout.Proofs.Dimension.Resizing
import SkinLayout.Proofs.Widget.Removal
import SkinLayout.Proofs.Widget.Sizes
import SkinLayout.Proofs.Widget.Building
import SkinLayout.Proofs.Cache.Entries
import SkinLayout.Proofs.Cache.Freshness
import SkinLayout.Proofs.Cache.Invalidation
import SkinLayout.Proofs.Cache.FontChange
import SkinLayout.Proofs.Widget.Places
import SkinLayout.Proofs.Dimension.Editing
import SkinLayout.Proofs.Dimension.Areas
import SkinLayout.Proofs.Dimension.Agreement
import SkinLayout.Proofs.Dimension.Canonical
import SkinLayout.Proofs.Markup.Text
import SkinLayout.Proofs.Markup.Unambiguous
import SkinLayout.Proofs.Widget.Links
import SkinLayout.Proofs.Dimension.Failure
import SkinLayout.Proofs.Text.Spacing
import SkinLayout.Proofs.Unified.RoundTrip
import SkinLayout.Proofs.Dimension.Sources
import SkinLayout.Proofs.Cache.Absence
import SkinLayout.Proofs.Number.Pixels
import SkinLayout.Proofs.Widget.Adjacent
import SkinLayout.Proofs.Dimension.Container
import SkinLayout.Proofs.Dimension.Ending
import SkinLayout.Proofs.Dimension.Nesting
import SkinLayout.Proofs.Number.Characters
import SkinLayout.Proofs.Unified.Rounds
import SkinLayout.Proofs.Unified.Grammar
import SkinLayout.Proofs.Dimension.Levels
import SkinLayout.Proofs.Widget.Iteration
import SkinLayout.Proofs.Widget.Remainder
import SkinLayout.Proofs.Widget.Paths
import SkinLayout.Proofs.Cache.Requests
import SkinLayout.Proofs.Dimension.Reordering
import SkinLayout.Proofs.Number.Special
import SkinLayout.Proofs.Config.Usable
import SkinLayout.Proofs.Markup.Emission
import SkinLayout.Proofs.Widget.Termination
