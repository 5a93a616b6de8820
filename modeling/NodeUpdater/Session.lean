import NodeUpdater.World

/-! # One invocation's conversation with the outside

The world, the servers' answers, the orders of map iterations and the request log of
one call of `Reconcile`; a Go panic is an exception of the session monad. -/

namespace NodeUpdater

/-- How a server answers one request. The code tells apart only these classes:
404, 409, any other failure status, and no response at all. -/
inductive Fault where
  | answer
  | transport
  | notFound
  | conflict
  | serverError
  deriving DecidableEq, Repr

/-- A mutating request the controller sends. -/
inductive Request where
  | updateNode (node : Node)
  | deletePod (namespaceName name : String)
  | deleteJob (namespaceName name : String)
  | createConfigMap (configMap : ConfigMap)
  | deleteConfigMap (namespaceName name : String)
  | createOrUpdatePool (name : String) (agentPool : AgentPool)
  | deletePool (name : String)
  | upgradeNodeImageVersion (name : String)
  | disableAgent (poolId agentId : Nat)
  | deleteAgent (poolId agentId : Nat)
  deriving DecidableEq, Repr

/-- One mutating request as it was sent: the world it reached, and whether the
server carried it out. -/
structure Entry where
  world : World
  request : Request
  accepted : Bool

structure Session where
  world : World
  faults : List Fault
  orders : List (List Nat)
  log : List Entry

def Session.start (world : World) (faults : List Fault) (orders : List (List Nat)) : Session :=
  ⟨world, faults, orders, []⟩

abbrev Api := EStateM String Session

namespace Session

def pop : Session → Fault × Session
  | ⟨world, [], orders, log⟩ => (.answer, ⟨world, [], orders, log⟩)
  | ⟨world, fault :: faults, orders, log⟩ => (fault, ⟨world, faults, orders, log⟩)

theorem pop_frame (session : Session) : session.pop.2.world = session.world ∧
    session.pop.2.log = session.log ∧ session.pop.2.orders = session.orders := by
  unfold pop; split <;> exact ⟨rfl, rfl, rfl⟩

end Session

/-- The order the next `range` over a map takes. -/
def nextOrder {V : Type} (entries : GoMap V) : Api (GoMap V) := fun ⟨world, faults, orders, log⟩ =>
  match orders with
  | [] => .ok entries ⟨world, faults, [], log⟩
  | choices :: orders => .ok (pickOrder choices entries) ⟨world, faults, orders, log⟩

/-- What the server makes of a request: its own answer, or the failure it reports. -/
def outcome {α : Type} (failure : Fault → GoError) (serve : World → Except GoError α)
    (fault : Fault) (world : World) : Except GoError α :=
  if fault = .answer then serve world else .error (failure fault)

theorem outcome_ok {α : Type} {failure : Fault → GoError} {serve : World → Except GoError α}
    {fault : Fault} {world : World} {value : α}
    (answered : outcome failure serve fault world = .ok value) :
    serve world = .ok value := by
  unfold outcome at answered
  split at answered
  · exact answered
  · cases answered

/-- A request that only reads the world. -/
def query {α : Type} (failure : Fault → GoError) (serve : World → Except GoError α) :
    Api (Except GoError α) := fun session =>
  match session.pop with
  | (fault, rest) => .ok (outcome failure serve fault rest.world) rest

/-- A request that may change the world. It is logged whatever the answer, as
accepted when the server carried it out. -/
def mutate (failure : Fault → GoError) (request : Request)
    (serve : World → Except GoError World) : Api (Except GoError Unit) := fun session =>
  match session.pop with
  | (fault, ⟨world, faults, orders, log⟩) =>
      match outcome failure serve fault world with
      | .ok updated => .ok (.ok ()) ⟨updated, faults, orders, log ++ [⟨world, request, true⟩]⟩
      | .error err => .ok (.error err) ⟨world, faults, orders, log ++ [⟨world, request, false⟩]⟩

theorem query_answered {α : Type} (failure : Fault → GoError) (serve : World → Except GoError α)
    (world : World) (orders : List (List Nat)) (log : List Entry) :
    query failure serve ⟨world, [], orders, log⟩ = .ok (serve world) ⟨world, [], orders, log⟩ :=
  rfl

theorem mutate_answered (failure : Fault → GoError) (request : Request)
    (serve : World → Except GoError World) (world : World) (orders : List (List Nat))
    (log : List Entry) :
    mutate failure request serve ⟨world, [], orders, log⟩ =
      match serve world with
      | .ok updated => .ok (.ok ()) ⟨updated, [], orders, log ++ [⟨world, request, true⟩]⟩
      | .error err => .ok (.error err) ⟨world, [], orders, log ++ [⟨world, request, false⟩]⟩ :=
  rfl

/-! ## The effect of a request on the world -/

namespace World

def removePod (world : World) (namespaceName name : String) : World :=
  { world with
    pods := world.pods.filter (·.key != (namespaceName, name))
    podKeys_nodup := (world.podKeys_nodup.sublist ((List.filter_sublist _).map _)) }

def replaceNode (world : World) (node : Node) : World :=
  { world with
    nodes := world.nodes.map fun current => if current.name = node.name then node else current
    nodeNames_nodup := by
      rw [List.map_map]
      convert world.nodeNames_nodup using 2
      funext current
      by_cases same : current.name = node.name <;> simp [same] }

/-- A write to an existing pool: the control plane stores the sent properties and
reports the pool `Updating` until the operation completes. -/
def updatePool (world : World) (name : String) (properties : Option AgentPoolProperties) :
    World :=
  { world with
    pools := world.pools.map fun cloudPool =>
      if cloudPool.agentPool.name = name then
        { cloudPool with agentPool := ⟨name, properties.map
          fun properties => { properties with provisioningState := some "Updating" }⟩ }
      else cloudPool }

/-- The provisioning state of a pool while an operation on it runs. -/
def setPoolState (world : World) (name state : String) : World :=
  { world with
    pools := world.pools.map fun cloudPool =>
      if cloudPool.agentPool.name = name then
        { cloudPool with agentPool := { cloudPool.agentPool with
          properties := cloudPool.agentPool.properties.map
            fun properties => { properties with provisioningState := some state } } }
      else cloudPool }

end World

/-! ## Kubernetes -/

namespace Kube

def failure (resource name : String) : Fault → GoError
  | .notFound => ⟨resource ++ " \"" ++ name ++ "\" not found", some (.kube 404)⟩
  | .conflict =>
      ⟨"Operation cannot be fulfilled on " ++ resource ++ " \"" ++ name ++ "\"", some (.kube 409)⟩
  | .serverError => ⟨"an error on the server has prevented the request from succeeding",
      some (.kube 500)⟩
  | _ => ⟨"connection refused", none⟩

def notFound (resource name : String) : GoError :=
  failure resource name .notFound

/-- `Pods(namespace).List`; the empty namespace lists every namespace. -/
def listPods (namespaceName : String) : Api (Except GoError (List Pod)) :=
  query (failure "pods" "") fun world =>
    .ok (world.pods.filter fun pod => namespaceName = "" || pod.namespaceName == namespaceName)

def getPod (namespaceName name : String) : Api (Except GoError Pod) :=
  query (failure "pods" name) fun world =>
    match world.podWithKey? namespaceName name with
    | some pod => .ok pod
    | none => .error (notFound "pods" name)

/-- `GetLogs(...).Stream` followed by `io.ReadAll`. -/
def getPodLogs (namespaceName name : String) : Api (Except GoError String) :=
  query (failure "pods" name) fun world =>
    match world.podWithKey? namespaceName name with
    | some pod => .ok pod.log
    | none => .error (notFound "pods" name)

def deletePod (namespaceName name : String) : Api (Except GoError Unit) :=
  mutate (failure "pods" name) (.deletePod namespaceName name) fun world =>
    if (world.podWithKey? namespaceName name).isSome then .ok (world.removePod namespaceName name)
    else .error (notFound "pods" name)

def listNodes : Api (Except GoError (List Node)) :=
  query (failure "nodes" "") fun world => .ok world.nodes

def updateNode (node : Node) : Api (Except GoError Unit) :=
  mutate (failure "nodes" node.name) (.updateNode node) fun world =>
    if world.nodes.any (·.name == node.name) then .ok (world.replaceNode node)
    else .error (notFound "nodes" node.name)

def deleteJob (namespaceName name : String) : Api (Except GoError Unit) :=
  mutate (failure "jobs.batch" name) (.deleteJob namespaceName name) fun world =>
    if world.jobs.contains ⟨namespaceName, name⟩ then
      .ok { world with jobs := world.jobs.filter (· != ⟨namespaceName, name⟩) }
    else .error (notFound "jobs.batch" name)

def getConfigMap (namespaceName name : String) : Api (Except GoError ConfigMap) :=
  query (failure "configmaps" name) fun world =>
    match world.configMaps.find? fun configMap =>
        configMap.namespaceName == namespaceName && configMap.name == name with
    | some configMap => .ok configMap
    | none => .error (notFound "configmaps" name)

def createConfigMap (configMap : ConfigMap) : Api (Except GoError Unit) :=
  mutate (failure "configmaps" configMap.name) (.createConfigMap configMap) fun world =>
    if world.configMaps.any fun existing =>
        existing.namespaceName == configMap.namespaceName && existing.name == configMap.name then
      .error ⟨"configmaps \"" ++ configMap.name ++ "\" already exists", some (.kube 409)⟩
    else .ok { world with configMaps := world.configMaps ++ [configMap] }

def deleteConfigMap (namespaceName name : String) : Api (Except GoError Unit) :=
  mutate (failure "configmaps" name) (.deleteConfigMap namespaceName name) fun world =>
    if world.configMaps.any fun configMap =>
        configMap.namespaceName == namespaceName && configMap.name == name then
      .ok { world with configMaps := world.configMaps.filter fun configMap =>
        !(configMap.namespaceName == namespaceName && configMap.name == name) }
    else .error (notFound "configmaps" name)

def getSafeEvict (namespaceName name : String) : Api (Except GoError SafeEvict) :=
  query (failure "safeevicts.update.norbinto" name) fun world =>
    match world.safeEvictNamed? namespaceName name with
    | some safeEvict => .ok safeEvict
    | none => .error (notFound "safeevicts.update.norbinto" name)

end Kube

/-! ## The Azure agent-pool client -/

namespace AgentPoolClient

def failure : Fault → GoError
  | .notFound => ⟨"RESPONSE 404: 404 Not Found", some (.azure 404)⟩
  | .conflict => ⟨"RESPONSE 409: 409 Conflict", some (.azure 409)⟩
  | .serverError => ⟨"RESPONSE 500: 500 Internal Server Error", some (.azure 500)⟩
  | _ => ⟨"connection refused", none⟩

def notFound : GoError :=
  failure .notFound

def get (name : String) : Api (Except GoError AgentPool) :=
  query failure fun world =>
    match world.poolNamed? name with
    | some cloudPool => .ok cloudPool.agentPool
    | none => .error notFound

/-- `GetUpgradeProfile`: `Properties.LatestNodeImageVersion` of the response. -/
def getUpgradeProfile (name : String) : Api (Except GoError (Option String)) :=
  query failure fun world =>
    match world.poolNamed? name with
    | some cloudPool => .ok cloudPool.latestNodeImageVersion
    | none => .error notFound

/-- `BeginCreateOrUpdate`: a write to an existing pool, or the creation of a new one,
which the control plane reports `Creating` until it is provisioned. -/
def beginCreateOrUpdate (name : String) (agentPool : AgentPool) :
    Api (Except GoError Unit) :=
  mutate failure (.createOrUpdatePool name agentPool) fun world =>
    if (world.poolNamed? name).isSome then .ok (world.updatePool name agentPool.properties)
    else .ok { world with pools := world.pools ++ [⟨⟨name, agentPool.properties.map
      fun properties => { properties with provisioningState := some "Creating" }⟩, none⟩] }

def beginDelete (name : String) : Api (Except GoError Unit) :=
  mutate failure (.deletePool name) fun world =>
    if (world.poolNamed? name).isSome then .ok (world.setPoolState name "Deleting")
    else .error notFound

def beginUpgradeNodeImageVersion (name : String) : Api (Except GoError Unit) :=
  mutate failure (.upgradeNodeImageVersion name) fun world =>
    if (world.poolNamed? name).isSome then .ok (world.setPoolState name "UpgradingNodeImageVersion")
    else .error notFound

end AgentPoolClient

/-! ## The Azure DevOps REST service -/

namespace Devops

/-- The status code an HTTP exchange ends with, or the transport error of `client.Do`. -/
def statusOf : Fault → Except GoError Nat
  | .answer => .ok 200
  | .notFound => .ok 404
  | .conflict => .ok 409
  | .serverError => .ok 500
  | .transport => .error ⟨"connection refused", none⟩

/-- A `GET`: the transport error, or the status code with the body the service sends. -/
def get {α : Type} (serve : World → α) : Api (Except GoError (Nat × α)) := fun session =>
  match session.pop with
  | (fault, rest) => .ok ((statusOf fault).map fun code => (code, serve rest.world)) rest

/-- `GET .../distributedtask/pools`. -/
def listPools : Api (Except GoError (Nat × List DevopsPool)) :=
  get (·.devopsPools)

/-- `GET .../distributedtask/pools/{poolId}/agents`. -/
def listAgents (poolId : Nat) : Api (Except GoError (Nat × List Agent)) :=
  get fun world => world.agents.filter (·.poolId == poolId)

/-- A `PATCH` or `DELETE` on one agent: the service answers `successCode` when the
agent exists and 404 when it does not. The request is logged whatever the answer. -/
def send (request : Request) (successCode : Nat) (serve : World → Option World) :
    Api (Except GoError Nat) := fun session =>
  match session.pop with
  | (fault, ⟨world, faults, orders, log⟩) =>
      if fault = .answer then
        match serve world with
        | some updated =>
            .ok (.ok successCode) ⟨updated, faults, orders, log ++ [⟨world, request, true⟩]⟩
        | none => .ok (.ok 404) ⟨world, faults, orders, log ++ [⟨world, request, false⟩]⟩
      else .ok (statusOf fault) ⟨world, faults, orders, log ++ [⟨world, request, false⟩]⟩

def hasAgent (world : World) (poolId agentId : Nat) : Bool :=
  world.agents.any fun agent => agent.poolId == poolId && agent.id == agentId

/-- `PATCH .../agents/{agentId}` with `enabled: false`. -/
def patchAgent (poolId agentId : Nat) : Api (Except GoError Nat) :=
  send (.disableAgent poolId agentId) 200 fun world =>
    if hasAgent world poolId agentId then
      some { world with agents := world.agents.map fun agent =>
        if agent.poolId == poolId && agent.id == agentId then { agent with enabled := false }
        else agent }
    else none

/-- `DELETE .../agents/{agentId}`. -/
def deleteAgent (poolId agentId : Nat) : Api (Except GoError Nat) :=
  send (.deleteAgent poolId agentId) 204 fun world =>
    if hasAgent world poolId agentId then
      some { world with agents := world.agents.filter fun agent =>
        !(agent.poolId == poolId && agent.id == agentId) }
    else none

end Devops

end NodeUpdater
