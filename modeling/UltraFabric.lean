import UltraFabric.Cascade
import UltraFabric.Chip
import UltraFabric.Chip.Reading
import UltraFabric.Chip.Soundness
import UltraFabric.Clock.Buffers
import UltraFabric.Clock.Lobe
import UltraFabric.Clock.Tier
import UltraFabric.Cluster
import UltraFabric.Command
import UltraFabric.Compressed
import UltraFabric.Compressed.Bits
import UltraFabric.Compressed.Blocks
import UltraFabric.Compressed.PrefixCode
import UltraFabric.ConfigRecord
import UltraFabric.ConfigRecord.Reading
import UltraFabric.Device
import UltraFabric.Document
import UltraFabric.Document.BlockList
import UltraFabric.Document.Bracketed
import UltraFabric.Document.File
import UltraFabric.Document.Keeping
import UltraFabric.Document.Line
import UltraFabric.Document.Nesting
import UltraFabric.Document.Quote
import UltraFabric.Document.Reader
import UltraFabric.Document.Rounding
import UltraFabric.Document.Source
import UltraFabric.Document.Token
import UltraFabric.Document.Word
import UltraFabric.Estimate
import UltraFabric.Failure
import UltraFabric.Flow
import UltraFabric.Grid
import UltraFabric.Image
import UltraFabric.Image.Naming
import UltraFabric.Image.Settings
import UltraFabric.Layout
import UltraFabric.Legality
import UltraFabric.Legality.Multiplexer
import UltraFabric.Legality.Violation
import UltraFabric.Lexicon
import UltraFabric.LowSkew.Reserve
import UltraFabric.LowSkew.Search
import UltraFabric.Main
import UltraFabric.Netlist
import UltraFabric.Netlist.Reading
import UltraFabric.Notice
import UltraFabric.Number.Double
import UltraFabric.Number.Shortest
import UltraFabric.Number.Single
import UltraFabric.Number.Whole
import UltraFabric.Options
import UltraFabric.Plan
import UltraFabric.Plan.Binding
import UltraFabric.Plan.LookUp
import UltraFabric.Plan.Setup
import UltraFabric.Primitive
import UltraFabric.Proofs.Acceptance
import UltraFabric.Proofs.Assignment
import UltraFabric.Proofs.Audit
import UltraFabric.Proofs.Bels
import UltraFabric.Proofs.Bindings
import UltraFabric.Proofs.Boxes
import UltraFabric.Proofs.Buffers
import UltraFabric.Proofs.Cascades
import UltraFabric.Proofs.Census
import UltraFabric.Proofs.Checks
import UltraFabric.Proofs.Choice
import UltraFabric.Proofs.Clusters
import UltraFabric.Proofs.Collecting
import UltraFabric.Proofs.Commit
import UltraFabric.Proofs.Connections
import UltraFabric.Proofs.Crossings
import UltraFabric.Proofs.Cycles
import UltraFabric.Proofs.Decoding
import UltraFabric.Proofs.Emission
import UltraFabric.Proofs.Entered
import UltraFabric.Proofs.Entries
import UltraFabric.Proofs.Exclusion
import UltraFabric.Proofs.Families
import UltraFabric.Proofs.Foresight
import UltraFabric.Proofs.Gains
import UltraFabric.Proofs.Indexes
import UltraFabric.Proofs.Inside
import UltraFabric.Proofs.Interning
import UltraFabric.Proofs.Inventory
import UltraFabric.Proofs.Kept
import UltraFabric.Proofs.Layers
import UltraFabric.Proofs.Lobes
import UltraFabric.Proofs.Members
import UltraFabric.Proofs.MoreBuffers
import UltraFabric.Proofs.MovedClocks
import UltraFabric.Proofs.Nested
import UltraFabric.Proofs.Nodes
import UltraFabric.Proofs.Occupancy
import UltraFabric.Proofs.Offsets
import UltraFabric.Proofs.PadSites
import UltraFabric.Proofs.PadVoltage
import UltraFabric.Proofs.PlaceValue
import UltraFabric.Proofs.Pruning
import UltraFabric.Proofs.Ranges
import UltraFabric.Proofs.Reachable
import UltraFabric.Proofs.Records
import UltraFabric.Proofs.Refusal
import UltraFabric.Proofs.Release
import UltraFabric.Proofs.Repeated
import UltraFabric.Proofs.Report
import UltraFabric.Proofs.Requirements
import UltraFabric.Proofs.Reserving
import UltraFabric.Proofs.RollCall
import UltraFabric.Proofs.Rounding
import UltraFabric.Proofs.Routes
import UltraFabric.Proofs.Run
import UltraFabric.Proofs.Sealed
import UltraFabric.Proofs.Served
import UltraFabric.Proofs.Sinks
import UltraFabric.Proofs.Stopped
import UltraFabric.Proofs.StrictChecks
import UltraFabric.Proofs.StrictImage
import UltraFabric.Proofs.StrictNames
import UltraFabric.Proofs.StrictPaths
import UltraFabric.Proofs.Supply
import UltraFabric.Proofs.Switches
import UltraFabric.Proofs.Tally
import UltraFabric.Proofs.Tasks
import UltraFabric.Proofs.Tiers
import UltraFabric.Proofs.Trees
import UltraFabric.Proofs.Turns
import UltraFabric.Proofs.Views
import UltraFabric.Proofs.Voltages
import UltraFabric.Proofs.Wires
import UltraFabric.Property
import UltraFabric.Shrinking
import UltraFabric.Tally
import UltraFabric.Text.Blank
import UltraFabric.Text.Chars
import UltraFabric.TileNames
import UltraFabric.Voltage
