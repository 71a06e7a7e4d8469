import ProxyFilter.Bytes
import ProxyFilter.Text.Utf8
import ProxyFilter.Text.Blank
import ProxyFilter.Text.Quoted
import ProxyFilter.Config
import ProxyFilter.Property
import ProxyFilter.Counters
import ProxyFilter.Plugin
import ProxyFilter.Session
import ProxyFilter.Binding.Session
import ProxyFilter.Proofs.Behavior.Effects
import ProxyFilter.Proofs.Stream.History
import ProxyFilter.Proofs.Stream.Resumption
import ProxyFilter.Proofs.Stream.Holding
import ProxyFilter.Proofs.Stream.Numbering
import ProxyFilter.Proofs.Stream.Finality
import ProxyFilter.Proofs.Session.Gate
import ProxyFilter.Proofs.Text.Utf8
import ProxyFilter.Proofs.Text.Lossy
import ProxyFilter.Proofs.Session.Ledger
import ProxyFilter.Proofs.Session.Numbering
import ProxyFilter.Proofs.Binding.Refinement
import ProxyFilter.Proofs.Behavior.Sight
import ProxyFilter.Proofs.Json.Grammar
import ProxyFilter.Proofs.Json.Strings
import ProxyFilter.Proofs.Json.Numbers
import ProxyFilter.Proofs.Json.Rows
import ProxyFilter.Proofs.Json.Texts
import ProxyFilter.Proofs.Json.Canonical
import ProxyFilter.Proofs.Config.Decoding
import ProxyFilter.Proofs.Stream.Relaying
import ProxyFilter.Proofs.Session.Succession
import ProxyFilter.Proofs.Session.Restarts
import ProxyFilter.Proofs.Session.Ticks
import ProxyFilter.Proofs.Session.Chunking
import ProxyFilter.Proofs.Behavior.Failures
import ProxyFilter.Proofs.Stream.Reporting
import ProxyFilter.Proofs.Behavior.Bodies
import ProxyFilter.Proofs.Dialogue.Buffering
import ProxyFilter.Proofs.Dialogue.Scripts
import ProxyFilter.Proofs.Stream.Transparency
import ProxyFilter.Proofs.Binding.MissingBodies
import ProxyFilter.Proofs.Stream.Dispatching
import ProxyFilter.Proofs.Stream.Rewriting
import ProxyFilter.Proofs.Behavior.Selection
import ProxyFilter.Proofs.Dialogue.Paths
import ProxyFilter.Proofs.Session.Serving
import ProxyFilter.Proofs.Stream.Control
import ProxyFilter.Proofs.Json.Printing
import ProxyFilter.Proofs.Json.Appending
import ProxyFilter.Proofs.Text.Quoted
import ProxyFilter.Proofs.Config.Outcomes
import ProxyFilter.Proofs.Config.Leniency
import ProxyFilter.Proofs.Config.NormalForm
import ProxyFilter.Proofs.Config.Echoes
import ProxyFilter.Proofs.Config.UnknownNames
import ProxyFilter.Proofs.Stream.Confinement
import ProxyFilter.Proofs.Dialogue.Readings
import ProxyFilter.Proofs.Stream.Redelivery
import ProxyFilter.Proofs.Binary64.Rounding
import ProxyFilter.Proofs.Json.Range
import ProxyFilter.Proofs.Binding.Hostcalls
