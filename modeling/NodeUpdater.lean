import NodeUpdater.Go
import NodeUpdater.World
import NodeUpdater.Session
import NodeUpdater.Json
import NodeUpdater.NodePool
import NodeUpdater.Eviction
import NodeUpdater.Reconcile
import NodeUpdater.Logic
import NodeUpdater.Total
import NodeUpdater.Invariant
import NodeUpdater.Observation
import NodeUpdater.Effects
import NodeUpdater.Footprint
import NodeUpdater.Campaign
import NodeUpdater.Safety
import NodeUpdater.Convergence
import NodeUpdater.Upgrades
import NodeUpdater.Failures
import NodeUpdater.Restore
import NodeUpdater.Answers
import NodeUpdater.Pipeline
import NodeUpdater.Panics
import NodeUpdater.Quiescence
import NodeUpdater.PoolWrites
import NodeUpdater.ClusterInfo
import NodeUpdater.Schedule
import NodeUpdater.Sends
import NodeUpdater.Targets
import NodeUpdater.Phases
import NodeUpdater.Record
