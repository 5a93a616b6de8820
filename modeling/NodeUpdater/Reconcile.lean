import NodeUpdater.NodePool
import NodeUpdater.Eviction

/-! # The reconciler

`SafeEvictReconciler.Reconcile`, cut at the boundaries of its blocks, with the ConfigMap
store of its scaling record and the names `api/v1` derives from a campaign. -/

namespace NodeUpdater

namespace ConfigMapController

def getConfigMap (namespaceName name : String) : Api (Except GoError ConfigMap) := do
  match ← Kube.getConfigMap namespaceName name with
  | .ok configMap => return .ok configMap
  | .error err =>
      if err.isNotFound then return .error err
      else return .error (err.flatten "failed to get ConfigMap: ")

/-- `CreateConfigMap`: nothing is written when the record can be read. -/
def createConfigMap (namespaceName name : String) (data : GoMap String) :
    Api (Except GoError Unit) := do
  match ← getConfigMap namespaceName name with
  | .ok _ => return .ok ()
  | .error _ =>
      match ← Kube.createConfigMap ⟨namespaceName, name, data⟩ with
      | .error err => return .error (err.flatten "failed to create ConfigMap: ")
      | .ok () => return .ok ()

/-- `DeleteConfigMap`: deleting an absent record succeeds. -/
def deleteConfigMap (namespaceName name : String) : Api (Except GoError Unit) := do
  match ← Kube.deleteConfigMap namespaceName name with
  | .ok () => return .ok ()
  | .error err =>
      if err.isNotFound then return .ok ()
      else return .error (err.flatten "failed to delete ConfigMap: ")

def getConfigMapData (namespaceName name : String) : Api (Except GoError (GoMap String)) := do
  match ← getConfigMap namespaceName name with
  | .ok configMap => return .ok configMap.data
  | .error err =>
      if err.isNotFound then return .error err
      else return .error (err.flatten "failed to get ConfigMap data: ")

end ConfigMapController

namespace SafeEvict

def getConfigmapName (safeEvict : SafeEvict) : String :=
  "tmp" ++ safeEvict.name

/-- `"tmp"` followed by at most nine characters of the base pool's name: AKS allows
twelve characters in a pool name. -/
def getTemporaryNodepoolName (safeEvict : SafeEvict) : String :=
  if safeEvict.spec.baseForBackupPool.length > 9 then
    "tmp" ++ String.mk (safeEvict.spec.baseForBackupPool.data.take 9)
  else "tmp" ++ safeEvict.spec.baseForBackupPool

end SafeEvict

/-- The `ctrl.Result` and the error `Reconcile` returns. -/
structure ReconcileResult where
  requeueAfter : Nat
  err : Option GoError
  deriving DecidableEq, Repr

/-- What one `Reconcile` has established once it knows the outdated pools. -/
structure Observation where
  config : Config
  namespaceName : String
  safeEvict : SafeEvict
  outdatedNodes : GoMap Node
  outdatedNodePools : GoMap AgentPool

namespace Observation

def temporaryName (observed : Observation) : String :=
  observed.safeEvict.getTemporaryNodepoolName

def configmapName (observed : Observation) : String :=
  observed.safeEvict.getConfigmapName

/-- Neither an outdated node nor an outdated pool was found. -/
def upToDate (observed : Observation) : Bool :=
  observed.outdatedNodes.isEmpty && observed.outdatedNodePools.isEmpty

def failed (observed : Observation) (err : Option GoError) : ReconcileResult :=
  ⟨observed.config.errorReconcileTime, err⟩

def progressing (observed : Observation) : ReconcileResult :=
  ⟨observed.config.successReconcileTime, none⟩

end Observation

namespace SafeEvictReconciler

def filterPodsOnNodes (safeToEvictPods : List Pod) (outdatedNodes : List Node) : List Pod :=
  safeToEvictPods.filter fun pod => outdatedNodes.any (·.name == pod.nodeName)

/-- The loop of `performSafeEviction` over the pools: cordon, select, evict. -/
def evictionLoop (spec : SafeEvictSpec) : List String → Api (Except GoError Unit)
  | [] => return .ok ()
  | poolName :: rest => do
      match ← NodePoolController.cordonNodesByAgentPool poolName true with
      | .error err => return .error err
      | .ok () =>
      match ← PodController.getSafeToEvictPods spec with
      | .error err => return .error err
      | .ok safeToEvictPods =>
      match ← NodePoolController.getNodesByNodePool poolName with
      | .error err => return .error err
      | .ok nodes =>
      match ← PodController.evictIdlePods (filterPodsOnNodes safeToEvictPods nodes) with
      | .error err => return .error err
      | .ok () => evictionLoop spec rest

def performSafeEviction (outdatedNodePools : GoMap AgentPool) (safeEvict : SafeEvict) :
    Api (Except GoError Unit) := do
  match ← NodePoolController.disableAutoScaling outdatedNodePools with
  | .error err => return .error err
  | .ok () => evictionLoop safeEvict.spec ((← nextOrder outdatedNodePools).map Prod.fst)

/-- The record's data for the outdated pools (lines 145-152); a panic message when
an entry dereferences an absent field. -/
def configData (outdatedNodePools : GoMap AgentPool) : Except String (GoMap String) :=
  outdatedNodePools.foldlM (fun data entry =>
    (Json.scalingEntry entry.2).map (data.insert entry.1)) []

/-- Lines 174-215: upgrade every monitored pool without running guarded pods.
`some` is a return from `Reconcile`. -/
def upgradeLoop (observed : Observation) : List String → Api (Option ReconcileResult)
  | [] => return none
  | nodepoolName :: rest => do
      match ← NodePoolController.getNodesByNodePool nodepoolName with
      | .error err => return some (observed.failed (some err))
      | .ok nodes =>
      match ← NodePoolController.hasRunningStatefulPods nodes
          observed.safeEvict.spec.namespaces with
      | .error err => return some (observed.failed (some err))
      | .ok true => upgradeLoop observed rest
      | .ok false =>
      match ← NodePoolController.getNodePoolByName nodepoolName with
      | .error err => return some (observed.failed (some err))
      | .ok nodepool =>
      if nodepool.properties.bind (·.provisioningState) = some "UpgradingNodeImageVersion" then
        return some observed.progressing
      else
        match ← NodePoolController.upgradeNodeImageVersion nodepool with
        | .error err => return some (observed.failed (some err))
        | .ok () => upgradeLoop observed rest

/-- Lines 217-241: restore and uncordon every recorded pool that is no longer
outdated. The result of the uncordon is discarded. -/
def restoreLoop (observed : Observation) (configMapData : GoMap String) :
    List String → Api (Option ReconcileResult)
  | [] => return none
  | nodepoolName :: rest => do
      if nodepoolName ∈ observed.outdatedNodePools.keys then restoreLoop observed configMapData rest
      else
        match ← NodePoolController.getNodePoolByName nodepoolName with
        | .error err => return some (observed.failed (some err))
        | .ok nodepool =>
        match ← NodePoolController.setDefaultScaling nodepool
            ((configMapData.find? nodepoolName).getD "") with
        | .error err =>
            if nodepool.properties.bind (·.provisioningState) = some "Updating" then
              return some observed.progressing
            else return some (observed.failed (some err))
        | .ok () =>
            let _ ← NodePoolController.cordonNodesByAgentPool nodepoolName false
            restoreLoop observed configMapData rest

/-- Lines 243-302: once nothing is outdated, drain the temporary pool, remove it and
delete the record. The result of its eviction is discarded, and an error that
`apierrors.IsNotFound` recognises would leave a nil pool that is dereferenced. -/
def cleanUp (observed : Observation) : Api ReconcileResult := do
  if observed.upToDate then
    match ← NodePoolController.getNodePoolByName observed.temporaryName with
    | .error err =>
        if err.isNotFound then throw Json.nilDereference
        else return observed.failed (some err)
    | .ok temporaryNodepool =>
    let temporaryNodepoolMap : GoMap AgentPool := [(temporaryNodepool.name, temporaryNodepool)]
    match ← NodePoolController.disableAutoScaling temporaryNodepoolMap with
    | .error err => return observed.failed (some err)
    | .ok () =>
    match ← NodePoolController.getNodesByNodePool temporaryNodepool.name with
    | .error err => return observed.failed (some err)
    | .ok temporaryNodes =>
    let _ ← performSafeEviction temporaryNodepoolMap observed.safeEvict
    match ← NodePoolController.hasRunningStatefulPods temporaryNodes
        observed.safeEvict.spec.namespaces with
    | .error err => return observed.failed (some err)
    | .ok true => return observed.progressing
    | .ok false =>
    match ← NodePoolController.removeTemporaryNodePool observed.temporaryName with
    | .error _ => return observed.failed none
    | .ok () =>
    match ← ConfigMapController.deleteConfigMap observed.namespaceName observed.configmapName with
    | .error err => return observed.failed (some err)
    | .ok () => return observed.progressing
  else return observed.progressing

/-- Lines 166-241, then the clean-up. -/
def drainAndUpgrade (observed : Observation) (configMapData : GoMap String) :
    Api ReconcileResult := do
  match ← performSafeEviction observed.outdatedNodePools observed.safeEvict with
  | .error err => return observed.failed (some err)
  | .ok () =>
  match ← upgradeLoop observed observed.safeEvict.spec.nodepools with
  | some result => return result
  | none =>
  match ← restoreLoop observed configMapData ((← nextOrder configMapData).map Prod.fst) with
  | some result => return result
  | none => cleanUp observed

/-- Lines 143-164: write the record when it is absent. `configMapData` then stays nil
for the rest of this invocation. -/
def recordScaling (observed : Observation) : Api ReconcileResult := do
  match ← ConfigMapController.getConfigMapData observed.namespaceName observed.configmapName with
  | .ok configMapData => drainAndUpgrade observed configMapData
  | .error err =>
      if err.isNotFound then
        match configData (← nextOrder observed.outdatedNodePools) with
        | .error panicMessage => throw panicMessage
        | .ok data =>
        match ← ConfigMapController.createConfigMap observed.namespaceName
            observed.configmapName data with
        | .error err => return observed.failed (some err)
        | .ok () => drainAndUpgrade observed []
      else return observed.failed (some err)

/-- Lines 132-141: wait while the temporary pool is being created. -/
def awaitTemporaryNodepool (observed : Observation) : Api ReconcileResult := do
  match ← NodePoolController.getNodePoolProvisioningState observed.temporaryName with
  | .error err => return observed.failed (some err)
  | .ok status =>
      if status = "Creating" then return observed.progressing
      else recordScaling observed

/-- Lines 105-130: create the temporary pool when something is outdated, or delete the
record and rest when nothing is. -/
def ensureTemporaryNodepool (observed : Observation) : Api ReconcileResult := do
  match ← NodePoolController.nodePoolExists observed.temporaryName with
  | .error err => return observed.failed (some err)
  | .ok true => awaitTemporaryNodepool observed
  | .ok false =>
      if observed.upToDate then
        match ← ConfigMapController.deleteConfigMap observed.namespaceName
            observed.configmapName with
        | .error err => return observed.failed (some err)
        | .ok () => return ⟨observed.config.upgradeFrequency, none⟩
      else
        match ← NodePoolController.createTemporaryNodePool observed.temporaryName
            observed.safeEvict.spec.baseForBackupPool with
        | .error _ => return observed.failed none
        | .ok () => awaitTemporaryNodepool observed

/-- `Reconcile` for the `SafeEvict` resource `namespaceName/name`. -/
def reconcile (config : Config) (namespaceName name : String) : Api ReconcileResult := do
  match ← Kube.getSafeEvict namespaceName name with
  | .error err =>
      return ⟨config.errorReconcileTime, if err.isNotFound then none else some err⟩
  | .ok safeEvict =>
  match ← NodePoolController.updateNeeded safeEvict.spec.nodepools with
  | .error _ => return ⟨config.errorReconcileTime, none⟩
  | .ok (outdatedNodes, outdatedNodePools) =>
  match ← NodePoolController.getNotReadyNodePools safeEvict.spec.nodepools with
  | .error err => return ⟨config.errorReconcileTime, some err⟩
  | .ok notReadyPools =>
  let notReadyPools ← nextOrder notReadyPools
  ensureTemporaryNodepool
    ⟨config, namespaceName, safeEvict, outdatedNodes, outdatedNodePools.insertAll notReadyPools⟩

end SafeEvictReconciler

end NodeUpdater
