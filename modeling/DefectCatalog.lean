import DefectCatalog.Browser.Step
import DefectCatalog.Files.Disk
import DefectCatalog.Main
import DefectCatalog.Patch
import DefectCatalog.View.Operation
import DefectCatalog.Proofs.Sorting.Order
import DefectCatalog.Proofs.Sorting.Stability
import DefectCatalog.Proofs.View.Moves
import DefectCatalog.Proofs.View.Settled
import DefectCatalog.Proofs.View.Addressed
import DefectCatalog.Proofs.Route.History
import DefectCatalog.Proofs.View.Observer
import DefectCatalog.Proofs.Browser.Cursor
import DefectCatalog.Proofs.Browser.Following
import DefectCatalog.Proofs.Browser.Acts
import DefectCatalog.Proofs.Browser.InStep
import DefectCatalog.Proofs.Settings.Precedence
import DefectCatalog.Proofs.Text.Splitting
import DefectCatalog.Proofs.Decimal.Word
import DefectCatalog.Proofs.Patch.Diff
import DefectCatalog.Proofs.Patch.Reading
import DefectCatalog.Proofs.Patch.Counts
import DefectCatalog.Proofs.Json.Readable
import DefectCatalog.Proofs.Document.Records
import DefectCatalog.Proofs.Route.Reading
import DefectCatalog.Proofs.View.BackStack
import DefectCatalog.Proofs.View.Arrival
import DefectCatalog.Proofs.Browser.LoadErrors
import DefectCatalog.Proofs.View.Stepping
import DefectCatalog.Proofs.OrderedMap.Lookup
import DefectCatalog.Proofs.Taxonomy.Lookup
import DefectCatalog.Proofs.Browser.FlagSections
import DefectCatalog.Proofs.Decimal.Rounding
import DefectCatalog.Proofs.Decimal.Shortest
import DefectCatalog.Proofs.Json.Numbers
import DefectCatalog.Proofs.Json.Strings
import DefectCatalog.Proofs.Json.Tokens
import DefectCatalog.Proofs.Json.ReadBack
import DefectCatalog.Proofs.Report.ReadBack
import DefectCatalog.Proofs.Report.Labels
import DefectCatalog.Proofs.Filters.Matching
import DefectCatalog.Proofs.View.Filtering
import DefectCatalog.Proofs.Sorting.Kinds
import DefectCatalog.Proofs.Browser.SortMark
import DefectCatalog.Proofs.Browser.SidebarClick
import DefectCatalog.Proofs.View.Counting
import DefectCatalog.Proofs.Document.Reload
import DefectCatalog.Proofs.Patch.Stretches
import DefectCatalog.Proofs.Patch.Numbering
import DefectCatalog.Proofs.Patch.Overflow
import DefectCatalog.Proofs.Route.Shown
import DefectCatalog.Proofs.Taxonomy.Partition
import DefectCatalog.Proofs.Decimal.Integers
import DefectCatalog.Proofs.Sorting.Integers
import DefectCatalog.Proofs.OrderedMap.Updates
import DefectCatalog.Proofs.Taxonomy.Places
import DefectCatalog.Proofs.Taxonomy.Insertion
import DefectCatalog.Proofs.Taxonomy.Labels
import DefectCatalog.Proofs.Taxonomy.Reload
import DefectCatalog.Proofs.Sorting.Clicks
import DefectCatalog.Proofs.Filters.Mentions
import DefectCatalog.Proofs.Browser.Isolation
import DefectCatalog.Proofs.Text.Width
import DefectCatalog.Proofs.Browser.SidebarLines
import DefectCatalog.Proofs.Browser.SidebarScroll
import DefectCatalog.Proofs.Browser.Frames
import DefectCatalog.Proofs.Browser.ColumnWidths
import DefectCatalog.Proofs.Settings.Layers
import DefectCatalog.Proofs.Text.Truncation
import DefectCatalog.Proofs.Report.Rows
import DefectCatalog.Proofs.Report.Colours
import DefectCatalog.Proofs.Taxonomy.Sections
import DefectCatalog.Proofs.Taxonomy.Headings
import DefectCatalog.Proofs.Command.Labels
import DefectCatalog.Proofs.Report.Projects
