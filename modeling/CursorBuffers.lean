import CursorBuffers.Table
import CursorBuffers.Word.Accessor
import CursorBuffers.Word.Scalar
import CursorBuffers.Text.Blank
import CursorBuffers.Text.Quoted
import CursorBuffers.Text.Record
import CursorBuffers.Text.Hex.Digitwise
import CursorBuffers.Config.Flags
import CursorBuffers.Region
import CursorBuffers.NativeMemory
import CursorBuffers.Growth
import CursorBuffers.Allocation
import CursorBuffers.Buffer.Access
import CursorBuffers.Pool.Stats
import CursorBuffers.Pool.Registry
import CursorBuffers.Event
import CursorBuffers.Store.Wrap
import CursorBuffers.Store.View
import CursorBuffers.Store.Transfer
import CursorBuffers.Store.Report
import CursorBuffers.Command
import CursorBuffers.Proofs.Holding
import CursorBuffers.Proofs.Step
import CursorBuffers.Proofs.Storage
import CursorBuffers.Proofs.Step.Effects
import CursorBuffers.Proofs.Isolation.WellHeld
import CursorBuffers.Proofs.Step.Operations
import CursorBuffers.Proofs.Step.Allocations
import CursorBuffers.Proofs.Step.Commands
import CursorBuffers.Proofs.Cursors
import CursorBuffers.Proofs.Step.Regions
import CursorBuffers.Proofs.Coverage
import CursorBuffers.Proofs.Isolation.Lineage
import CursorBuffers.Proofs.Isolation.Blind
import CursorBuffers.Proofs.Isolation
import CursorBuffers.Proofs.Backends
import CursorBuffers.Proofs.Queue
import CursorBuffers.Proofs.Room
import CursorBuffers.Proofs.Transfers
import CursorBuffers.Proofs.Queue.Serving
import CursorBuffers.Proofs.Step.Sole
import CursorBuffers.Proofs.Isolation.Families
import CursorBuffers.Proofs.Queue.Traffic
import CursorBuffers.Proofs.Atomic
import CursorBuffers.Proofs.Marks
import CursorBuffers.Proofs.Slices
import CursorBuffers.Proofs.Accounts.Leases
import CursorBuffers.Proofs.Accounts.Aside
import CursorBuffers.Proofs.Accounts.Deals
import CursorBuffers.Proofs.Accounts.Lifetime
import CursorBuffers.Proofs.Accounts.Lending
import CursorBuffers.Proofs.Accounts.Filing
import CursorBuffers.Proofs.Conservation
import CursorBuffers.Proofs.PooledBytes
import CursorBuffers.Proofs.Accounts.Keys
import CursorBuffers.Proofs.Closing
import CursorBuffers.Proofs.Views.Descent
import CursorBuffers.Proofs.Views.Writing
import CursorBuffers.Proofs.Views.Resting
import CursorBuffers.Proofs.Views
import CursorBuffers.Proofs.Exposure
import CursorBuffers.Proofs.Replay
import CursorBuffers.Proofs.Replay.Operations
import CursorBuffers.Proofs.Replay.Commands
import CursorBuffers.Proofs.Replay.Runs
import CursorBuffers.Proofs.Indifference
import CursorBuffers.Proofs.Elision
import CursorBuffers.Proofs.Exactness
import CursorBuffers.Proofs.Views.Reaching
import CursorBuffers.Proofs.Step.Joining
import CursorBuffers.Proofs.Stretching
import CursorBuffers.Proofs.Freeing.Causes
import CursorBuffers.Proofs.Freeing.History
import CursorBuffers.Proofs.Freeing
import CursorBuffers.Proofs.Refusal
import CursorBuffers.Proofs.Independence
import CursorBuffers.Proofs.Admission
import CursorBuffers.Proofs.Waiting.Offers
import CursorBuffers.Proofs.Waiting.Drawing
import CursorBuffers.Proofs.Waiting.Turnover
import CursorBuffers.Proofs.Waiting.History
import CursorBuffers.Proofs.Limits
import CursorBuffers.Proofs.Reissue
import CursorBuffers.Proofs.Atomic.Operations
import CursorBuffers.Proofs.Blocks.Extents
import CursorBuffers.Proofs.Blocks.Content
import CursorBuffers.Proofs.Blocks
import CursorBuffers.Proofs.Growth
import CursorBuffers.Proofs.Resizing
import CursorBuffers.Proofs.Rewinding
import CursorBuffers.Proofs.Transfers.Moving
import CursorBuffers.Proofs.Transfers.Direction
import CursorBuffers.Proofs.Slices.Composition
import CursorBuffers.Proofs.Words
import CursorBuffers.Proofs.Flags
import CursorBuffers.Proofs.Waiting.Stock
import CursorBuffers.Source
import CursorBuffers.Proofs.Wrapping
import CursorBuffers.Proofs.Hexadecimal.Grammar
import CursorBuffers.Proofs.Hexadecimal
import CursorBuffers.Proofs.Reallocation
