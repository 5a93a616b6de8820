import NodeUpdater.Session

/-! # The eviction pipeline

The pod, job and Azure DevOps controllers: which pods are idle, and how one is evicted. -/

namespace NodeUpdater

/-- `strings.HasSuffix`. -/
def hasSuffix (text suffix : String) : Bool :=
  suffix.data.isSuffixOf text.data

namespace AzureDevopsController

/-- `getPoolIDFromName`. -/
def getPoolIDFromName (poolName : String) : Api (Except GoError Nat) := do
  match ← Devops.listPools with
  | .error err => return .error (err.wrap "failed to send HTTP request: ")
  | .ok (statusCode, pools) =>
      if statusCode ≠ 200 then
        return .error ⟨"failed to list pools: status code " ++ toString statusCode, none⟩
      else
        match pools.find? (·.name == poolName) with
        | some pool => return .ok pool.id
        | none => return .error ⟨"pool with name '" ++ poolName ++ "' not found", none⟩

/-- The shape shared by `DisableAgent` and `RemoveAgent`: look the pool up by name,
list its agents, take the id of the first one named `agentName` (an id of 0 counts
as not found), and send `action` for it, accepting the status codes `accepts`. -/
def agentRequest (action : Nat → Nat → Api (Except GoError Nat)) (accepts : Nat → Bool)
    (failureText : String) (poolName agentName : String) : Api (Except GoError Unit) := do
  match ← getPoolIDFromName poolName with
  | .error err => return .error (err.wrap "failed to get pool ID from name: ")
  | .ok poolID =>
  match ← Devops.listAgents poolID with
  | .error err => return .error (err.wrap "failed to send HTTP request: ")
  | .ok (statusCode, agents) =>
  if statusCode ≠ 200 then
    return .error ⟨"failed to list agents: status code " ++ toString statusCode, none⟩
  else
  let agentID := ((agents.find? (·.name == agentName)).map (·.id)).getD 0
  if agentID = 0 then return .error ⟨"agent with name '" ++ agentName ++ "' not found", none⟩
  else
  match ← action poolID agentID with
  | .error err => return .error (err.wrap "failed to send HTTP request: ")
  | .ok statusCode =>
      if accepts statusCode then return .ok ()
      else return .error ⟨failureText ++ toString statusCode, none⟩

/-- `DisableAgent`: `PATCH` with `enabled: false`, which must answer 200. -/
def disableAgent (poolName agentName : String) : Api (Except GoError Unit) :=
  agentRequest Devops.patchAgent (· == 200) "failed to disable agent: status code "
    poolName agentName

/-- `RemoveAgent`: `DELETE`, which must answer 200 or 204. -/
def removeAgent (poolName agentName : String) : Api (Except GoError Unit) :=
  agentRequest Devops.deleteAgent (fun statusCode => statusCode == 200 || statusCode == 204)
    "failed to remove agent: status code " poolName agentName

end AzureDevopsController

namespace JobController

/-- The Job named by the first owner reference of kind `job` (in any case); the empty
name when there is none. -/
def jobOwnerName (pod : Pod) : String :=
  ((pod.ownerReferences.find? fun reference => toLower reference.kind == "job").map (·.name)).getD ""

def killJobByPod (pod : Pod) : Api (Except GoError Unit) := do
  if pod.ownerReferences.isEmpty then
    return .error ⟨"pod " ++ pod.name ++ " has no owner references", none⟩
  else if jobOwnerName pod = "" then
    return .error ⟨"no job owner found for pod " ++ pod.name, none⟩
  else
    match ← Kube.deleteJob pod.namespaceName (jobOwnerName pod) with
    | .error err => return .error (err.wrap "failed to delete job: ")
    | .ok () => return .ok ()

end JobController

namespace PodController

/-- The value of the first `AZP_POOL` variable of the pod's containers. -/
def azpPool (pod : Pod) : Option String :=
  ((pod.containers.flatMap (·.env)).find? (·.name == "AZP_POOL")).map (·.value)

def getPodsPool (podName namespaceName : String) : Api (Except GoError String) := do
  match ← Kube.getPod namespaceName podName with
  | .error err => return .error (err.wrap
      ("failed to get pod '" ++ podName ++ "' in namespace " ++ namespaceName ++ ": "))
  | .ok pod =>
      match azpPool pod with
      | some poolName => return .ok poolName
      | none => return .error ⟨"environment variable AZP_POOL not found in pod '" ++ podName ++
          "' in namespace " ++ namespaceName, none⟩

def fetchPodLogs (podName namespaceName : String) : Api (Except GoError String) := do
  match ← Kube.getPodLogs namespaceName podName with
  | .error err => return .error (err.wrap
      ("failed to fetch logs for pod '" ++ podName ++ "' in namespace " ++ namespaceName ++ ": "))
  | .ok logs => return .ok logs

def killPod (pod : Pod) : Api (Except GoError Unit) := do
  match ← Kube.deletePod pod.namespaceName pod.name with
  | .error err => return .error (err.wrap
      ("failed to delete pod '" ++ pod.name ++ "' in namespace " ++ pod.namespaceName ++ ": "))
  | .ok () => return .ok ()

/-- The loop of `EvictIdlePods`: for each pod in turn, disable and remove its agent,
delete its Job, delete the pod; the first error ends the whole call. -/
def evictIdlePods : List Pod → Api (Except GoError Unit)
  | [] => return .ok ()
  | pod :: rest => do
      match ← getPodsPool pod.name pod.namespaceName with
      | .error err => return .error err
      | .ok poolName =>
      match ← AzureDevopsController.disableAgent poolName pod.name with
      | .error err => return .error err
      | .ok () =>
      match ← AzureDevopsController.removeAgent poolName pod.name with
      | .error err => return .error err
      | .ok () =>
      match ← JobController.killJobByPod pod with
      | .error err => return .error err
      | .ok () =>
      match ← killPod pod with
      | .error err => return .error err
      | .ok () => evictIdlePods rest

/-- The inner loop of `GetSafeToEvictPods` over `spec.LabelSelector`: for every
entry the pod does not match while it is `Running`, its logs are fetched and the
pod is appended once more if they end with a sentinel. A failed fetch skips the
entry. -/
def selectorLoop (spec : SafeEvictSpec) (pod : Pod) : GoMap String → Api (List Pod)
  | [] => return []
  | (key, value) :: rest => do
      if (pod.labels.find? key).getD "" ≠ value ∧ pod.phase = "Running" then
        match ← fetchPodLogs pod.name pod.namespaceName with
        | .error _ => selectorLoop spec pod rest
        | .ok logs =>
            let appended := if spec.lastLogLines.any (hasSuffix logs) then [pod] else []
            return appended ++ (← selectorLoop spec pod rest)
      else selectorLoop spec pod rest

/-- The outer loop of `GetSafeToEvictPods` over the listed pods. -/
def filterPods (spec : SafeEvictSpec) : List Pod → Api (List Pod)
  | [] => return []
  | pod :: rest => do
      if pod.namespaceName ∈ spec.namespaces then
        let selected ← selectorLoop spec pod (← nextOrder spec.labelSelector)
        return selected ++ (← filterPods spec rest)
      else filterPods spec rest

def getSafeToEvictPods (spec : SafeEvictSpec) : Api (Except GoError (List Pod)) := do
  match ← Kube.listPods "" with
  | .error err => return .error (err.wrap "failed to list pods: ")
  | .ok pods => return .ok (← filterPods spec pods)

end PodController

end NodeUpdater
