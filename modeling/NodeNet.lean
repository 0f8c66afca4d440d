import NodeNet.Context.Replay
import NodeNet.Discovery.Aggregator
import NodeNet.Discovery.Leases
import NodeNet.Discovery.Provenance
import NodeNet.Engine.Accounting
import NodeNet.Engine.Budget
import NodeNet.Engine.Discipline
import NodeNet.Engine.Enumeration
import NodeNet.Engine.Pacing
import NodeNet.Engine.Stopping
import NodeNet.Engine.Transmissions
import NodeNet.Evidence.Ledger
import NodeNet.Platform.Assets
import NodeNet.Platform.Fusion
import NodeNet.Platform.Observation
import NodeNet.Platform.Path
import NodeNet.Protocols.Inspection
import NodeNet.Protocols.NdpRoundTrip
import NodeNet.Protocols.Tcp
import NodeNet.Wire.Neighbors
import NodeNet.Wire.Offload
import NodeNet.Wire.Request
