import Gtp.Lib.BigEndian
import Gtp.Types
import Gtp.Wire.Frame
import Gtp.Lib.Intervals
import Gtp.Recovery.AckTracker
import Gtp.Recovery.AckAgreement
import Gtp.Cc
import Gtp.Core.Connection
import Gtp.Core.Draft
import Gtp.Core.Produce
import Gtp.Core.Transparency
import Gtp.Core.TxLoop
import Gtp.Core.Peers
import Gtp.Core.Retention
import Gtp.Core.Keeping
import Gtp.Core.Dedup
import Gtp.Core.Contents
import Gtp.Core.Forged
import Gtp.Core.Migration
import Gtp.Core.Echoes
import Gtp.Core.Budget
import Gtp.StateTable
import Gtp.Tiers
import Gtp.Core.Restore
import Gtp.Core.Fragments
import Gtp.Core.Ledger
import Gtp.Handshake
import Gtp.Runtime.Earned
import Gtp.Runtime.Endpoint
import Gtp.Runtime.Replies
import Gtp.Runtime.Steps
import Gtp.Runtime.Traces
import Gtp.Runtime.Agreement
import Gtp.Lib.Bits
import Gtp.Replay
import Gtp.Wire.Canonical
import Gtp.Wire.Stream
import Gtp.Wire.Datagram
import Gtp.Selection
import Gtp.Switching
import Gtp.Core.Sends
import Gtp.Core.Events
import Gtp.Runtime.Finishes
import Gtp.Core.Burst
import Gtp.Core.Repeats
import Gtp.Core.Postings
import Gtp.Core.Order
import Gtp.Core.Turns
import Gtp.Core.Reassembler
import Gtp.Core.Refusals
import Gtp.Core.Completion
import Gtp.Core.Cursor
import Gtp.Core.Consumed
import Gtp.Recovery.Accounting
import Gtp.Lib.RoundRobin
import Gtp.Rounds
import Gtp.Drain
import Gtp.Fairness
import Gtp.Waiting
import Gtp.Core.Supersession
import Gtp.Core.Freshness
import Gtp.Core.Forgetting
import Gtp.Core.Starvation
import Gtp.Core.Unanswered
import Gtp.Core.Starving
import Gtp.Recovery.Estimates
import Gtp.Window
import Gtp.Lib.Numerals
import Gtp.Report
import Gtp.DecisionLog
import Gtp.DecisionKpis
import Gtp.Runtime.HelloLimit
import Gtp.Sim.Fabric
import Gtp.Sim.Streams
import Gtp.Sim.Independence
import Gtp.Sim.Conservation
import Gtp.Recovery.AckCoverage
import Gtp.Recovery.RangeWalk
import Gtp.Core.Splitting
import Gtp.StateRuns
import Gtp.Core.Accesses
import Gtp.Lib.Buckets
import Gtp.Core.Channel
import Gtp.Core.Unreliable
import Gtp.Core.Integrity
import Gtp.Core.Lifecycle
import Gtp.Runtime.Delivery
import Gtp.Lib.Walks
import Gtp.Runtime.Sections
import Gtp.Runtime.Isolation
import Gtp.Core.AckDuty
import Gtp.Core.Memory
import Gtp.Core.Custody
import Gtp.Core.Silence
import Gtp.Core.Counters
import Gtp.Core.Deadlines
import Gtp.Runtime.EndToEnd
