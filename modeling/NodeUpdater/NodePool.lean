import NodeUpdater.Session
import NodeUpdater.Json

/-! # The node-pool controller

`internal/nodepool/nodepool_controller.go`: staleness detection, the temporary
pool's lifecycle, cordoning, and the writes of a pool's scaling configuration. -/

namespace NodeUpdater.NodePoolController

def recordImage (nodePoolNames : List String) (versions : GoMap String) (node : Node) :
    GoMap String :=
  match node.agentPool with
  | none => versions
  | some nodePoolName =>
      if nodePoolName ∈ nodePoolNames then
        match node.nodeImageVersion with
        | none => versions
        | some version =>
            if (versions.find? nodePoolName).isSome then versions
            else versions.insert nodePoolName version
      else versions

/-- The loop of `getNodeImageVersions`: the image of the first node of each listed
pool that carries both labels. -/
def nodeImageVersions (nodePoolNames : List String) (nodes : List Node) : GoMap String :=
  nodes.foldl (recordImage nodePoolNames) []

def getNodeImageVersions (nodePoolNames : List String) : Api (Except GoError (GoMap String)) := do
  match ← Kube.listNodes with
  | .error err => return .error (err.flatten "failed to list nodes: ")
  | .ok nodes => return .ok (nodeImageVersions nodePoolNames nodes)

def getNodePoolUpgradeProfile (nodePoolName : String) : Api (Except GoError String) := do
  match ← AgentPoolClient.getUpgradeProfile nodePoolName with
  | .error err => return .error (err.flatten
      ("unable to get upgrade profile for node pool '" ++ nodePoolName ++ "': "))
  | .ok (some latest) => return .ok latest
  | .ok none => return .error <|
      ⟨"latest node image version not available for node pool: " ++ nodePoolName, none⟩

def getNodesByNodePool (nodePoolName : String) : Api (Except GoError (List Node)) := do
  match ← Kube.listNodes with
  | .error err => return .error (err.flatten "failed to list nodes: ")
  | .ok nodes => return .ok (nodes.filter (·.agentPool == some nodePoolName))

def getNodePoolByName (nodePoolName : String) : Api (Except GoError AgentPool) := do
  match ← AgentPoolClient.get nodePoolName with
  | .ok nodePool => return .ok nodePool
  | .error err =>
      if err.isNotFound then return .error err
      else return .error (err.flatten ("unable to get node pool '" ++ nodePoolName ++ "': "))

/-- The loop of `UpdateNeeded` over the image versions, in the order the `range`
visits them. -/
def updateNeededLoop :
    GoMap String → GoMap Node → GoMap AgentPool →
      Api (Except GoError (GoMap Node × GoMap AgentPool))
  | [], outdatedNodes, outdatedNodePools => return .ok (outdatedNodes, outdatedNodePools)
  | (nodepoolName, nodeImageVersion) :: rest, outdatedNodes, outdatedNodePools => do
      match ← getNodePoolUpgradeProfile nodepoolName with
      | .error err => return .error err
      | .ok latest =>
      match ← getNodesByNodePool nodepoolName with
      | .error err => return .error err
      | .ok nodes =>
      if nodeImageVersion ≠ latest then
        match ← getNodePoolByName nodepoolName with
        | .error err => return .error err
        | .ok nodePool =>
            updateNeededLoop rest
              (nodes.foldl (fun outdated node => outdated.insert node.name node) outdatedNodes)
              (outdatedNodePools.insert nodepoolName nodePool)
      else updateNeededLoop rest outdatedNodes outdatedNodePools

/-- `UpdateNeeded`: the nodes and pools among `nodePools` whose image differs from
the latest one. -/
def updateNeeded (nodePools : List String) :
    Api (Except GoError (GoMap Node × GoMap AgentPool)) := do
  match ← getNodeImageVersions nodePools with
  | .error err => return .error err
  | .ok versions => updateNeededLoop (← nextOrder versions) [] []

/-- The loop of `GetNotReadyNodePools` over the monitored pools. -/
def getNotReadyNodePoolsLoop :
    List String → GoMap AgentPool → Api (Except GoError (GoMap AgentPool))
  | [], notReadyNodePools => return .ok notReadyNodePools
  | nodepoolName :: rest, notReadyNodePools => do
      match ← getNodePoolByName nodepoolName with
      | .error err => return .error (err.flatten
          ("failed to retrieve node pool '" ++ nodepoolName ++ "': "))
      | .ok nodePool =>
          match nodePool.properties.bind (·.provisioningState) with
          | some state =>
              if state ≠ "Succeeded" then
                getNotReadyNodePoolsLoop rest (notReadyNodePools.insert nodepoolName nodePool)
              else getNotReadyNodePoolsLoop rest notReadyNodePools
          | none => getNotReadyNodePoolsLoop rest notReadyNodePools

def getNotReadyNodePools (nodepools : List String) : Api (Except GoError (GoMap AgentPool)) :=
  getNotReadyNodePoolsLoop nodepools []

/-- `HasRunningStatefulPods`: some `Running` pod of the namespaces sits on one of
the nodes. -/
def hasRunningStatefulPods (nodes : List Node) : List String → Api (Except GoError Bool)
  | [] => return .ok false
  | namespaceName :: rest => do
      match ← Kube.listPods namespaceName with
      | .error err => return .error err
      | .ok pods =>
          if pods.any fun pod => pod.phase == "Running" && nodes.any (·.name == pod.nodeName) then
            return .ok true
          else hasRunningStatefulPods nodes rest

/-- The pool `CreateTemporaryNodePool` submits: the source's profile under a new name. -/
def clonedProperties (source : AgentPoolProperties) : AgentPoolProperties :=
  { vmSize := source.vmSize
    count := source.count
    minCount := source.minCount
    maxCount := source.maxCount
    vnetSubnetID := source.vnetSubnetID
    mode := source.mode
    enableAutoScaling := source.enableAutoScaling
    orchestratorVersion := source.orchestratorVersion
    nodeLabels := source.nodeLabels
    nodeTaints := source.nodeTaints
    osType := source.osType }

def createTemporaryNodePool (newNodePoolName sourceNodePoolName : String) :
    Api (Except GoError Unit) := do
  match ← AgentPoolClient.get sourceNodePoolName with
  | .error err => return .error (err.flatten
      ("unable to get source node pool '" ++ sourceNodePoolName ++ "': "))
  | .ok sourceNodePool =>
      match sourceNodePool.properties with
      | none => return .error <|
          ⟨"source node pool '" ++ sourceNodePoolName ++ "' has no properties", none⟩
      | some source =>
          match ← AgentPoolClient.beginCreateOrUpdate newNodePoolName
              ⟨"", some (clonedProperties source)⟩ with
          | .error err => return .error (err.flatten
              ("failed to create new node pool '" ++ newNodePoolName ++ "': "))
          | .ok () => return .ok ()

def getNodePoolProvisioningState (nodePoolName : String) : Api (Except GoError String) := do
  match ← AgentPoolClient.get nodePoolName with
  | .error err => return .error (err.flatten ("unable to get node pool '" ++ nodePoolName ++ "': "))
  | .ok nodePool =>
      match nodePool.properties.bind (·.provisioningState) with
      | some state => return .ok state
      | none => return .error <|
          ⟨"provisioning state not available for node pool: " ++ nodePoolName, none⟩

/-- `NodePoolExists`: a 404 `ResponseError` means absent. -/
def nodePoolExists (nodePoolName : String) : Api (Except GoError Bool) := do
  match ← AgentPoolClient.get nodePoolName with
  | .ok _ => return .ok true
  | .error err =>
      if err.hasResponseCode 404 then return .ok false
      else return .error (err.flatten "error checking if node pool exists: ")

def upgradeNodeImageVersion (nodepool : AgentPool) : Api (Except GoError Unit) := do
  match nodepool.properties.bind (·.provisioningState) with
  | some "UpgradingNodeImageVersion" => return .ok ()
  | some "Updating" => return .ok ()
  | _ =>
  match ← getNodeImageVersions [nodepool.name] with
  | .error err => return .error err
  | .ok versions =>
  match ← getNodePoolUpgradeProfile nodepool.name with
  | .error err => return .error err
  | .ok latest =>
  if (versions.find? nodepool.name).getD "" = latest then return .ok ()
  else
    match ← AgentPoolClient.beginUpgradeNodeImageVersion nodepool.name with
    | .error err => return .error (err.flatten
        ("failed to upgrade node image version for node pool '" ++ nodepool.name ++ "': "))
    | .ok () => return .ok ()

/-- The write of `DisableAutoScaling` for one pool, followed by `next`. A 409 answer
ends the whole loop without error. -/
def disableAutoScalingWrite (agentPool : AgentPool) (properties : AgentPoolProperties)
    (next : Api (Except GoError Unit)) : Api (Except GoError Unit) := do
  match ← AgentPoolClient.beginCreateOrUpdate agentPool.name
      ⟨agentPool.name, some { properties with enableAutoScaling := some false }⟩ with
  | .error err =>
      if err.hasResponseCode 409 then return .ok ()
      else return .error (err.flatten
        ("failed to update autoscaling for agent pool '" ++ agentPool.name ++ "': "))
  | .ok () => next

/-- The loop of `DisableAutoScaling`, in the order the `range` visits the pools. -/
def disableAutoScalingLoop : GoMap AgentPool → Api (Except GoError Unit)
  | [] => return .ok ()
  | (_, agentPool) :: rest =>
      match agentPool.properties with
      | none => return .error ⟨"agent pool '" ++ agentPool.name ++ "' has no properties", none⟩
      | some properties =>
          match properties.mode, properties.provisioningState with
          | some "System", _ => disableAutoScalingLoop rest
          | some _, none => throw Json.nilDereference
          | some _, some state =>
              if state ≠ "Succeeded" then disableAutoScalingLoop rest
              else disableAutoScalingWrite agentPool properties (disableAutoScalingLoop rest)
          | none, _ => disableAutoScalingWrite agentPool properties (disableAutoScalingLoop rest)

def disableAutoScaling (agentPools : GoMap AgentPool) : Api (Except GoError Unit) := do
  disableAutoScalingLoop (← nextOrder agentPools)

def removeTemporaryNodePool (nodePoolName : String) : Api (Except GoError Unit) := do
  match ← AgentPoolClient.beginDelete nodePoolName with
  | .error err => return .error (err.flatten ("failed to delete node pool '" ++ nodePoolName ++ "': "))
  | .ok () => return .ok ()

/-- The loop of `CordonNodesByAgentPool`: each node is written back with its
`Unschedulable` flag set to `toCordon`. -/
def setUnschedulable (toCordon : Bool) : List Node → Api (Except GoError Unit)
  | [] => return .ok ()
  | node :: rest => do
      match ← Kube.updateNode { node with unschedulable := toCordon } with
      | .error err => return .error (err.flatten
          ("failed to set Unschedulable for node '" ++ node.name ++ "': "))
      | .ok () => setUnschedulable toCordon rest

def cordonNodesByAgentPool (nodePoolName : String) (toCordon : Bool) :
    Api (Except GoError Unit) := do
  match ← getNodesByNodePool nodePoolName with
  | .error err => return .error (err.flatten
      ("failed to get nodes for agent pool '" ++ nodePoolName ++ "': "))
  | .ok nodes => setUnschedulable toCordon nodes

/-- The pool `SetDefaultScaling` writes back for a decoded record entry, or `none`
when the pool already has that scaling: autoscaling between `MinCount` and
`MaxCount` when both are present, otherwise a fixed `Count`, otherwise the pool
unchanged. Counts are converted with Go's `int32()`. -/
def scalingTarget (properties : AgentPoolProperties) (scalingConfig : GoMap Int) :
    Option AgentPoolProperties :=
  match scalingConfig.find? "MinCount", scalingConfig.find? "MaxCount",
      scalingConfig.find? "Count" with
  | some minCount, some maxCount, _ =>
      if properties.enableAutoScaling = some true ∧
          properties.minCount = some (BitVec.ofInt 32 minCount) ∧
          properties.maxCount = some (BitVec.ofInt 32 maxCount) then none
      else some { properties with
        enableAutoScaling := some true
        minCount := some (BitVec.ofInt 32 minCount)
        maxCount := some (BitVec.ofInt 32 maxCount) }
  | _, _, some count =>
      if properties.enableAutoScaling = some false ∧
          properties.count = some (BitVec.ofInt 32 count) then none
      else some { properties with
        enableAutoScaling := some false
        count := some (BitVec.ofInt 32 count) }
  | _, _, none => some properties

/-- The write of `SetDefaultScaling`; a 409 answer counts as success. -/
def scalingWrite (nodepool submitted : AgentPool) : Api (Except GoError Unit) := do
  match ← AgentPoolClient.beginCreateOrUpdate nodepool.name submitted with
  | .error err =>
      if err.hasResponseCode 409 then return .ok ()
      else return .error (err.flatten
        ("failed to update scaling for node pool '" ++ nodepool.name ++ "': "))
  | .ok () => return .ok ()

/-- `SetDefaultScaling` past its state check: decode the record entry and write the
pool back with that scaling. -/
def applyScalingData (nodepool : AgentPool) (scalingData : String) :
    Api (Except GoError Unit) :=
  match Json.unmarshal scalingData with
  | .error err => return .error (err.flatten "failed to parse scalingData JSON: ")
  | .ok scalingConfig =>
  match nodepool.properties with
  | none =>
      if (scalingConfig.find? "MinCount").isSome && (scalingConfig.find? "MaxCount").isSome ||
          (scalingConfig.find? "Count").isSome then
        throw Json.nilDereference
      else scalingWrite nodepool nodepool
  | some properties =>
      match scalingTarget properties scalingConfig with
      | none => return .ok ()
      | some target => scalingWrite nodepool { nodepool with properties := some target }

/-- `SetDefaultScaling`: a pool with a mode must be `Succeeded` (its state is
dereferenced) before its scaling is written. -/
def setDefaultScaling (nodepool : AgentPool) (scalingData : String) :
    Api (Except GoError Unit) :=
  match nodepool.properties.bind fun properties =>
      properties.mode.map fun _ => properties.provisioningState with
  | some none => throw Json.nilDereference
  | some (some state) =>
      if state ≠ "Succeeded" then
        return .error ⟨"node pool '" ++ nodepool.name ++
          "' is still updating with provisioning state '" ++ state ++ "'", none⟩
      else applyScalingData nodepool scalingData
  | none => applyScalingData nodepool scalingData

end NodeUpdater.NodePoolController
