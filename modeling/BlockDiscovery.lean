import BlockDiscovery.Diagnostic.Adaptation
import BlockDiscovery.Execution.Supervisor
import BlockDiscovery.Main
import BlockDiscovery.Proofs.Diagnostic.Noise
import BlockDiscovery.Proofs.Framing.Batches
import BlockDiscovery.Proofs.Framing.Segments
import BlockDiscovery.Proofs.Session.Correlation
import BlockDiscovery.Proofs.Session.Deadline
import BlockDiscovery.Proofs.Session.Window
import BlockDiscovery.Proofs.Diagnostic.Quoting
import BlockDiscovery.Proofs.Diagnostic.Sequences
import BlockDiscovery.Proofs.Diagnostic.Balance
import BlockDiscovery.Proofs.Config.Expansion
import BlockDiscovery.Proofs.Json.Record
import BlockDiscovery.Proofs.Block.BlockType
import BlockDiscovery.Proofs.Block.Codec
import BlockDiscovery.Proofs.Session.Line
import BlockDiscovery.Proofs.Session.Rejection
import BlockDiscovery.Proofs.Framing.Broken
import BlockDiscovery.Proofs.Session.Queue
import BlockDiscovery.Proofs.Session.Ending
import BlockDiscovery.Proofs.Session.Progression
import BlockDiscovery.Proofs.Session.Echo
import BlockDiscovery.Proofs.Session.Conversation
import BlockDiscovery.Proofs.Session.Farewell
import BlockDiscovery.Proofs.Session.Permanence
import BlockDiscovery.Proofs.Session.Classification
import BlockDiscovery.Proofs.Session.Fatality
import BlockDiscovery.Proofs.Session.Versions
import BlockDiscovery.Proofs.Framing.Capacity
import BlockDiscovery.Proofs.Server.Decoration
import BlockDiscovery.Proofs.Session.Succession
import BlockDiscovery.Proofs.Session.Survival
import BlockDiscovery.Proofs.Framing.Oversized
import BlockDiscovery.Proofs.Session.Reception
import BlockDiscovery.Proofs.Diagnostic.Location
import BlockDiscovery.Proofs.Diagnostic.Excerpt
import BlockDiscovery.Proofs.Session.Holding
import BlockDiscovery.Proofs.Diagnostic.Severity
import BlockDiscovery.Proofs.Session.Spelling
