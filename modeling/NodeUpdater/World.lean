import NodeUpdater.Go

/-! # The objects the controller reads and writes

The fields of the Kubernetes, Azure and Azure DevOps objects that the controllers
of `src/internal` read, copy or write, and the world that holds them. -/

namespace NodeUpdater

/-- `armcontainerservice.ManagedClusterAgentPoolProfileProperties`: the fields the
node-pool controller checks, writes or copies into a new pool. Counts are Go
`int32` values. -/
structure AgentPoolProperties where
  provisioningState : Option String := none
  mode : Option String := none
  enableAutoScaling : Option Bool := none
  count : Option (BitVec 32) := none
  minCount : Option (BitVec 32) := none
  maxCount : Option (BitVec 32) := none
  vmSize : Option String := none
  vnetSubnetID : Option String := none
  orchestratorVersion : Option String := none
  nodeLabels : Option (GoMap (Option String)) := none
  nodeTaints : Option (List (Option String)) := none
  osType : Option String := none
  deriving DecidableEq, Repr

/-- `armcontainerservice.AgentPool`. The control plane always fills in the name. -/
structure AgentPool where
  name : String
  properties : Option AgentPoolProperties
  deriving DecidableEq, Repr

/-- An agent pool as the control plane holds it, with the latest node image its
upgrade profile reports (`Properties.LatestNodeImageVersion`). -/
structure CloudPool where
  agentPool : AgentPool
  latestNodeImageVersion : Option String
  deriving DecidableEq, Repr

/-- `corev1.Node`: name, labels and the `Spec.Unschedulable` flag. -/
structure Node where
  name : String
  labels : GoMap String
  unschedulable : Bool
  deriving DecidableEq, Repr

structure OwnerReference where
  kind : String
  name : String
  deriving DecidableEq, Repr

structure EnvVar where
  name : String
  value : String
  deriving DecidableEq, Repr

structure Container where
  env : List EnvVar
  deriving DecidableEq, Repr

/-- `corev1.Pod`, with the container log that its log endpoint streams. -/
structure Pod where
  name : String
  namespaceName : String
  labels : GoMap String
  ownerReferences : List OwnerReference
  containers : List Container
  nodeName : String
  phase : String
  log : String
  deriving DecidableEq, Repr

def Pod.key (pod : Pod) : String × String :=
  (pod.namespaceName, pod.name)

structure Job where
  namespaceName : String
  name : String
  deriving DecidableEq, Repr

structure ConfigMap where
  namespaceName : String
  name : String
  data : GoMap String
  deriving DecidableEq, Repr

/-- An Azure DevOps agent pool (`distributedtask/pools`). -/
structure DevopsPool where
  id : Nat
  name : String
  deriving DecidableEq, Repr

/-- An Azure DevOps agent registered in the pool with id `poolId`. -/
structure Agent where
  poolId : Nat
  id : Nat
  name : String
  enabled : Bool
  deriving DecidableEq, Repr

/-- `SafeEvictSpec` of `api/v1`. -/
structure SafeEvictSpec where
  labelSelector : GoMap String
  lastLogLines : List String
  nodepools : List String
  namespaces : List String
  baseForBackupPool : String
  deriving DecidableEq, Repr

/-- A `SafeEvict` resource: one campaign. -/
structure SafeEvict where
  name : String
  namespaceName : String
  spec : SafeEvictSpec
  deriving DecidableEq, Repr

/-- `appconfig.Config`: the three requeue delays. -/
structure Config where
  errorReconcileTime : Nat
  successReconcileTime : Nat
  upgradeFrequency : Nat
  deriving DecidableEq, Repr

/-- Everything outside the controller: the cluster, the control plane and the
Azure DevOps service. Kubernetes keeps node names and pod keys unique. -/
@[ext] structure World where
  safeEvicts : List SafeEvict
  pools : List CloudPool
  nodes : List Node
  pods : List Pod
  jobs : List Job
  configMaps : List ConfigMap
  devopsPools : List DevopsPool
  agents : List Agent
  nodeNames_nodup : (nodes.map Node.name).Nodup
  podKeys_nodup : (pods.map Pod.key).Nodup

/-! ## Derived notions read off the world -/

/-- The pool a node belongs to: its `agentpool` label. -/
def Node.agentPool (node : Node) : Option String :=
  node.labels.find? "agentpool"

/-- The node image a node runs: its `kubernetes.azure.com/node-image-version` label. -/
def Node.nodeImageVersion (node : Node) : Option String :=
  node.labels.find? "kubernetes.azure.com/node-image-version"

namespace World

def poolNamed? (world : World) (name : String) : Option CloudPool :=
  world.pools.find? (·.agentPool.name == name)

def safeEvictNamed? (world : World) (namespaceName name : String) : Option SafeEvict :=
  world.safeEvicts.find? fun safeEvict =>
    safeEvict.namespaceName == namespaceName && safeEvict.name == name

def podWithKey? (world : World) (namespaceName name : String) : Option Pod :=
  world.pods.find? (·.key == (namespaceName, name))

def provisioningState? (world : World) (name : String) : Option String :=
  (world.poolNamed? name).bind fun cloudPool =>
    cloudPool.agentPool.properties.bind (·.provisioningState)

end World

end NodeUpdater
