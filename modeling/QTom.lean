import QTom.Loom.Lineage
import QTom.Loom.MockRun
import QTom.Loom.ParentOrder
import QTom.Loom.MemoryCandidates
import QTom.Loom.Runtime
import QTom.Loom.SimulatedAgents
import QTom.Loom.TopologyChart
import QTom.Topology.Reload
import QTom.Topology.Restored
import QTom.Router.Bits
import QTom.Router.Load
import QTom.Router.Metrics
import QTom.Router.IeeeRoutes
import QTom.Cuda.Argmin
import QTom.Cuda.OneShot
import QTom.Golden.Truncated
import QTom.Bench.Recall
import QTom.Bench.Scan
