import VirtualDisplay.Mode.Text
import VirtualDisplay.Registry.Edit
import VirtualDisplay.Record.Loose
import VirtualDisplay.Wire.Decode
import VirtualDisplay.Config.Location
import VirtualDisplay.Files.StateFile
import VirtualDisplay.LogFilter
import VirtualDisplay.World.Step
import VirtualDisplay.Proofs.Scan
import VirtualDisplay.Proofs.Json.Literal
import VirtualDisplay.Proofs.Json.Quoting
import VirtualDisplay.Proofs.Json.Reading
import VirtualDisplay.Proofs.Record.Values
import VirtualDisplay.Proofs.Record.RoundTrip
import VirtualDisplay.Proofs.Record.Fields
import VirtualDisplay.Proofs.Record.Agreement
import VirtualDisplay.Proofs.Wire.RoundTrip
import VirtualDisplay.Proofs.Wire.Unions
import VirtualDisplay.Proofs.RateSet.Additions
import VirtualDisplay.Proofs.RateSet.Changes
import VirtualDisplay.Proofs.Registry.Issues
import VirtualDisplay.Proofs.Registry.Coalescing
import VirtualDisplay.Proofs.World.Exchange
import VirtualDisplay.Proofs.World.Discipline
import VirtualDisplay.Proofs.World.Ledger
import VirtualDisplay.Proofs.Files.Tree
import VirtualDisplay.Proofs.Files.Paths
import VirtualDisplay.Proofs.Files.StateFile
import VirtualDisplay.Proofs.Channel.Firsts
import VirtualDisplay.Proofs.Channel.Script
import VirtualDisplay.Proofs.Channel.Loopback
import VirtualDisplay.Proofs.Channel.Moves
import VirtualDisplay.Proofs.Channel.Stores
import VirtualDisplay.Proofs.World.Tasks
import VirtualDisplay.Proofs.World.Effect
import VirtualDisplay.Proofs.World.Growth
import VirtualDisplay.Proofs.World.Sound
import VirtualDisplay.Proofs.World.Events
import VirtualDisplay.Proofs.World.Deliveries
import VirtualDisplay.Proofs.World.Sync
import VirtualDisplay.Proofs.World.Moves
import VirtualDisplay.Proofs.World.Distinct
import VirtualDisplay.Proofs.World.Commits
import VirtualDisplay.Proofs.Files.Walks
import VirtualDisplay.Proofs.Files.Crashes
import VirtualDisplay.Proofs.World.Failures
import VirtualDisplay.Proofs.World.Isolation
import VirtualDisplay.Proofs.World.Accounts
import VirtualDisplay.Proofs.World.Subscribers
import VirtualDisplay.Proofs.Registry.Validity
import VirtualDisplay.Proofs.Registry.Listing
import VirtualDisplay.Proofs.Registry.NewIds
import VirtualDisplay.Proofs.Registry.Queries
import VirtualDisplay.Proofs.Registry.Upkeep
import VirtualDisplay.Proofs.Config.RoundTrip
import VirtualDisplay.Proofs.World.Connecting
import VirtualDisplay.Proofs.World.Removal
import VirtualDisplay.Proofs.Registry.BulkEdits
import VirtualDisplay.Proofs.Registry.SingleEdits
import VirtualDisplay.Proofs.Json.Integers
import VirtualDisplay.Proofs.Record.Spelling
import VirtualDisplay.Proofs.Record.Checks
import VirtualDisplay.Proofs.Record.Faults
import VirtualDisplay.Proofs.Text.Split
import VirtualDisplay.Proofs.Text.Blank
import VirtualDisplay.Proofs.Mode.Parts
import VirtualDisplay.Proofs.Mode.RoundTrip
import VirtualDisplay.Proofs.Mode.Rates
import VirtualDisplay.Proofs.Json.Verbatim
import VirtualDisplay.Proofs.Json.Overflow
import VirtualDisplay.Proofs.Record.Slots
import VirtualDisplay.Proofs.Record.Literals
