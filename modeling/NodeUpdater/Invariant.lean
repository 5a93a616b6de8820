import Mathlib.Data.List.Nodup
import NodeUpdater.Logic
import NodeUpdater.Reconcile

/-! # What one invocation may send

`Allowed`, given the campaign read and the world started from, with the two facts that
hold all along an invocation: `Frame` and `Surge`. -/

namespace NodeUpdater

def Node.ident (node : Node) : String × GoMap String :=
  (node.name, node.labels)

theorem Node.agentPool_eq_of_ident {node other : Node} (same : node.ident = other.ident) :
    node.agentPool = other.agentPool := by
  simp only [Node.ident, Prod.mk.injEq] at same
  simp only [Node.agentPool, same.2]

theorem GoMap.mem_of_find? {V : Type} {m : GoMap V} {key : String} {value : V}
    (found : m.find? key = some value) : (key, value) ∈ m := by
  obtain ⟨before, after, rfl, -⟩ := List.lookup_eq_some_iff.mp found
  simp

/-! ## The frame of an invocation -/

/-- What a world keeps while one invocation runs: its nodes keep their names and
labels, and pods are only deleted. -/
structure Frame (start world : World) : Prop where
  nodes : world.nodes.map Node.ident = start.nodes.map Node.ident
  pods : world.pods.Sublist start.pods

namespace Frame

variable {start world : World}

theorem refl (world : World) : Frame world world :=
  ⟨rfl, List.Sublist.refl _⟩

theorem node_mem (frame : Frame start world) {node : Node} (member : node ∈ world.nodes) :
    ∃ original ∈ start.nodes, original.ident = node.ident := by
  have : node.ident ∈ start.nodes.map Node.ident := frame.nodes ▸ List.mem_map_of_mem _ member
  simpa using this

theorem node_mem_start (frame : Frame start world) {node : Node} (member : node ∈ start.nodes) :
    ∃ current ∈ world.nodes, current.ident = node.ident := by
  have : node.ident ∈ world.nodes.map Node.ident := frame.nodes ▸ List.mem_map_of_mem _ member
  simpa using this

theorem pod_eq (frame : Frame start world) {pod original : Pod} (member : pod ∈ world.pods)
    (originalMember : original ∈ start.pods) (sameKey : pod.key = original.key) :
    pod = original :=
  List.inj_on_of_nodup_map start.podKeys_nodup (frame.pods.subset member) originalMember sameKey

theorem congr (frame : Frame start world) {updated : World} (nodes : updated.nodes = world.nodes)
    (pods : updated.pods = world.pods) : Frame start updated :=
  ⟨nodes ▸ frame.nodes, pods ▸ frame.pods⟩

theorem removePod (frame : Frame start world) (namespaceName name : String) :
    Frame start (world.removePod namespaceName name) :=
  ⟨frame.nodes, (List.filter_sublist _).trans frame.pods⟩

theorem replaceNode (frame : Frame start world) {node : Node}
    (present : ∃ current ∈ world.nodes, current.ident = node.ident) :
    Frame start (world.replaceNode node) := by
  obtain ⟨current, member, same⟩ := present
  refine ⟨?_, frame.pods⟩
  rw [← frame.nodes]
  simp only [World.replaceNode, List.map_map]
  refine List.map_congr_left fun other otherMember => ?_
  by_cases named : other.name = node.name
  · have sameName : other.name = current.name := by
      rw [named]
      exact (congrArg Prod.fst same).symm
    have : other = current :=
      List.inj_on_of_nodup_map world.nodeNames_nodup otherMember member sameName
    subst this
    simp [named, same]
  · simp [named]

end Frame

/-! ## The temporary pool -/

/-- The temporary pool exists and is past its creation. -/
def Surge (temporaryName : String) (world : World) : Prop :=
  (world.poolNamed? temporaryName).isSome ∧
    world.provisioningState? temporaryName ≠ some "Creating"

theorem World.poolNamed?_map (world : World) (update : CloudPool → CloudPool)
    (keepsName : ∀ cloudPool, (update cloudPool).agentPool.name = cloudPool.agentPool.name)
    (name : String) :
    ({ world with pools := world.pools.map update } : World).poolNamed? name =
      (world.poolNamed? name).map update := by
  simp only [World.poolNamed?, List.find?_map]
  congr 2
  funext cloudPool
  simp [keepsName]

namespace Surge

variable {temporaryName : String} {world : World}

theorem congr (surge : Surge temporaryName world) {updated : World}
    (pools : updated.pools = world.pools) : Surge temporaryName updated := by
  unfold Surge World.provisioningState? World.poolNamed? at *
  rwa [pools]

theorem map (surge : Surge temporaryName world) (update : CloudPool → CloudPool)
    (keepsName : ∀ cloudPool, (update cloudPool).agentPool.name = cloudPool.agentPool.name)
    (notCreating : ∀ cloudPool, (update cloudPool).agentPool.properties.bind (·.provisioningState) =
      some "Creating" → cloudPool.agentPool.properties.bind (·.provisioningState) = some "Creating") :
    Surge temporaryName { world with pools := world.pools.map update } := by
  obtain ⟨present, state⟩ := surge
  unfold Surge World.provisioningState? at *
  rw [World.poolNamed?_map _ _ keepsName]
  refine ⟨by simpa using present, ?_⟩
  cases found : world.poolNamed? temporaryName with
  | none => simp [found] at present
  | some cloudPool =>
      simp only [found, Option.map_some', Option.some_bind] at state ⊢
      exact fun creating => state (notCreating _ creating)

theorem updatePool (surge : Surge temporaryName world) (name : String)
    (properties : Option AgentPoolProperties) :
    Surge temporaryName (world.updatePool name properties) := by
  refine surge.map _ (fun cloudPool => ?_) fun cloudPool => ?_
  · by_cases named : cloudPool.agentPool.name = name <;> simp [named]
  · by_cases named : cloudPool.agentPool.name = name <;> cases properties <;> simp [named]

theorem setPoolState (surge : Surge temporaryName world) (name state : String)
    (notCreating : state ≠ "Creating") : Surge temporaryName (world.setPoolState name state) := by
  refine surge.map _ (fun cloudPool => ?_) fun cloudPool => ?_
  · by_cases named : cloudPool.agentPool.name = name <;> simp [named]
  · by_cases named : cloudPool.agentPool.name = name
    · cases properties : cloudPool.agentPool.properties <;> simp [named, properties, notCreating]
    · simp [named]

theorem addPool (surge : Surge temporaryName world) (cloudPool : CloudPool) :
    Surge temporaryName { world with pools := world.pools ++ [cloudPool] } := by
  obtain ⟨present, state⟩ := surge
  unfold Surge World.provisioningState? World.poolNamed? at *
  obtain ⟨found, equation⟩ := Option.isSome_iff_exists.mp present
  simp only [List.find?_append, equation, Option.or_some] at state ⊢
  exact ⟨rfl, state⟩

end Surge

/-! ## What a request may do to the campaign's pods and pools -/

/-- No `Running` pod of the campaign's namespaces sits on a node of the pool. -/
def Drained (spec : SafeEvictSpec) (world : World) (poolName : String) : Prop :=
  ∀ pod ∈ world.pods, pod.namespaceName ∈ spec.namespaces → pod.phase = "Running" →
    ∀ node ∈ world.nodes, node.agentPool = some poolName → node.name ≠ pod.nodeName

/-- A pod `GetSafeToEvictPods` may select: in one of the namespaces, `Running`, not
matching some selector entry, with a log ending in one of the sentinels. -/
def Idle (spec : SafeEvictSpec) (pod : Pod) : Prop :=
  pod.namespaceName ∈ spec.namespaces ∧ pod.phase = "Running" ∧
    (∃ entry ∈ spec.labelSelector, (pod.labels.find? entry.1).getD "" ≠ entry.2) ∧
    ∃ line ∈ spec.lastLogLines, hasSuffix pod.log line = true

/-- The Azure DevOps agent `DisableAgent` and `RemoveAgent` pick for `pod` at `world`:
the first agent named like the pod in the first pool named by its `AZP_POOL`. -/
def AgentOf (world : World) (pod : Pod) (poolId agentId : Nat) : Prop :=
  ∃ poolName, PodController.azpPool pod = some poolName ∧
    (world.devopsPools.find? (·.name == poolName)).map (·.id) = some poolId ∧
    ((world.agents.filter (·.poolId == poolId)).find? (·.name == pod.name)).map (·.id) =
      some agentId

/-- `request` is one of the four steps that evict `pod`. -/
def EvictionOf (world : World) (pod : Pod) : Request → Prop
  | .deletePod namespaceName name => (namespaceName, name) = pod.key
  | .deleteJob namespaceName name =>
      namespaceName = pod.namespaceName ∧ name = JobController.jobOwnerName pod
  | .disableAgent poolId agentId => AgentOf world pod poolId agentId
  | .deleteAgent poolId agentId => AgentOf world pod poolId agentId
  | _ => False

/-- `earlier` holds an accepted write that cordons the node named `name`. -/
def Cordoned (earlier : List Entry) (name : String) : Prop :=
  ∃ entry ∈ earlier, entry.accepted = true ∧
    ∃ node, entry.request = .updateNode node ∧ node.name = name ∧ node.unschedulable = true

def World.latestImage? (world : World) (name : String) : Option String :=
  (world.poolNamed? name).bind (·.latestNodeImageVersion)

/-- The pools `UpdateNeeded` calls outdated: those whose first labelled node does not
run the latest image. -/
def World.ImageOutdated (world : World) (nodePoolNames : List String) (name : String) : Prop :=
  ∃ version, (NodePoolController.nodeImageVersions nodePoolNames world.nodes).find? name =
      some version ∧
    ∃ latest, world.latestImage? name = some latest ∧ version ≠ latest

/-- A monitored pool `Reconcile` has to work on at `world`: the image of its first
labelled node is not the latest, or it is not `Succeeded`. -/
def Stale (world : World) (spec : SafeEvictSpec) (poolName : String) : Prop :=
  poolName ∈ spec.nodepools ∧
    (world.ImageOutdated spec.nodepools poolName ∨
      ∃ state, world.provisioningState? poolName = some state ∧ state ≠ "Succeeded")

/-- `data` is the record of the pools stale at `start`: one entry per stale pool, the
encoding of its scaling as it was then. -/
def Records (start : World) (spec : SafeEvictSpec) (data : GoMap String) : Prop :=
  (∀ poolName, poolName ∈ data.keys ↔ Stale start spec poolName) ∧
    ∀ poolName text, data.find? poolName = some text →
      ∃ cloudPool, start.poolNamed? poolName = some cloudPool ∧
        Json.scalingEntry cloudPool.agentPool = .ok text

/-- `pod` may be evicted after `earlier`: an idle pod of the start, on a node of a
stale pool or of the temporary pool that `earlier` cordoned. -/
def Evictable (start : World) (safeEvict : SafeEvict) (earlier : List Entry) (pod : Pod) :
    Prop :=
  pod ∈ start.pods ∧ Idle safeEvict.spec pod ∧
    ∃ node ∈ start.nodes, node.name = pod.nodeName ∧
      (∃ poolName, node.agentPool = some poolName ∧
        (Stale start safeEvict.spec poolName ∨ poolName = safeEvict.getTemporaryNodepoolName)) ∧
      Cordoned earlier node.name

/-- What `Reconcile` of `safeEvict`, started in `start`, may send after `earlier`. -/
def Allowed (start : World) (safeEvict : SafeEvict) (earlier : List Entry) (entry : Entry) :
    Prop :=
  match entry.request with
  | .updateNode node =>
      node.unschedulable = true → Surge safeEvict.getTemporaryNodepoolName entry.world
  | .createConfigMap configMap =>
      configMap.namespaceName = safeEvict.namespaceName ∧
        configMap.name = safeEvict.getConfigmapName ∧ Records start safeEvict.spec configMap.data
  | .deleteConfigMap namespaceName name =>
      namespaceName = safeEvict.namespaceName ∧ name = safeEvict.getConfigmapName ∧
        ∀ poolName, ¬Stale start safeEvict.spec poolName
  | .upgradeNodeImageVersion name => Drained safeEvict.spec entry.world name
  | .deletePool name =>
      name = safeEvict.getTemporaryNodepoolName ∧
        (∀ poolName, ¬Stale start safeEvict.spec poolName) ∧
        Drained safeEvict.spec entry.world name
  | .createOrUpdatePool _ _ => True
  | request =>
      Surge safeEvict.getTemporaryNodepoolName entry.world ∧
        ∃ pod, Evictable start safeEvict earlier pod ∧ EvictionOf entry.world pod request

/-- Every entry of the log is allowed by the entries before it. -/
def Sound (allowed : List Entry → Entry → Prop) (log : List Entry) : Prop :=
  ∀ earlier entry later, log = earlier ++ entry :: later → allowed earlier entry

theorem Sound.nil (allowed : List Entry → Entry → Prop) : Sound allowed [] := by
  intro earlier entry later equation
  simp at equation

theorem Sound.snoc {allowed : List Entry → Entry → Prop} {log : List Entry} {entry : Entry}
    (sound : Sound allowed log) (allowedEntry : allowed log entry) :
    Sound allowed (log ++ [entry]) := by
  intro earlier current later equation
  rcases List.eq_nil_or_concat later with rfl | ⟨later, last, rfl⟩
  · obtain ⟨rfl, same⟩ := List.append_inj' equation rfl
    simp only [List.cons.injEq, and_true] at same
    exact same ▸ allowedEntry
  · rw [List.concat_eq_append, ← List.cons_append, ← List.append_assoc] at equation
    exact sound _ _ _ (List.append_inj' equation rfl).1

theorem Cordoned.append {earlier : List Entry} {name : String} (cordoned : Cordoned earlier name)
    (later : List Entry) : Cordoned (earlier ++ later) name := by
  obtain ⟨entry, member, rest⟩ := cordoned
  exact ⟨entry, List.mem_append_left _ member, rest⟩

theorem Evictable.append {start : World} {safeEvict : SafeEvict} {earlier : List Entry}
    {pod : Pod} (evictable : Evictable start safeEvict earlier pod) (later : List Entry) :
    Evictable start safeEvict (earlier ++ later) pod := by
  obtain ⟨member, idle, node, nodeMember, onNode, pool, cordoned⟩ := evictable
  exact ⟨member, idle, node, nodeMember, onNode, pool, cordoned.append later⟩

/-! ## The invariant of an invocation -/

/-- What every step of one invocation keeps: the frame, and a log of allowed requests. -/
def Kept (start : World) (safeEvict : SafeEvict) : Assertion := fun world log =>
  Frame start world ∧ Sound (Allowed start safeEvict) log

/-- The invariant once the temporary pool was seen past its creation. -/
def Draining (start : World) (safeEvict : SafeEvict) : Assertion := fun world log =>
  Kept start safeEvict world log ∧ Surge safeEvict.getTemporaryNodepoolName world

namespace Allowed

variable {start : World} {safeEvict : SafeEvict} {earlier : List Entry} {world : World}
  {accepted : Bool}

theorem updateNode {node : Node}
    (surge : node.unschedulable = true → Surge safeEvict.getTemporaryNodepoolName world) :
    Allowed start safeEvict earlier ⟨world, .updateNode node, accepted⟩ :=
  surge

theorem createOrUpdatePool (name : String) (agentPool : AgentPool) :
    Allowed start safeEvict earlier ⟨world, .createOrUpdatePool name agentPool, accepted⟩ :=
  trivial

theorem eviction {pod : Pod} {request : Request}
    (surge : Surge safeEvict.getTemporaryNodepoolName world)
    (evictable : Evictable start safeEvict earlier pod) (eviction : EvictionOf world pod request) :
    Allowed start safeEvict earlier ⟨world, request, accepted⟩ := by
  cases request <;> simp only [EvictionOf] at eviction <;> exact ⟨surge, pod, evictable, eviction⟩

theorem upgradeNodeImageVersion {name : String} (drained : Drained safeEvict.spec world name) :
    Allowed start safeEvict earlier ⟨world, .upgradeNodeImageVersion name, accepted⟩ :=
  drained

theorem deletePool {name : String} (temporary : name = safeEvict.getTemporaryNodepoolName)
    (upToDate : ∀ poolName, ¬Stale start safeEvict.spec poolName)
    (drained : Drained safeEvict.spec world name) :
    Allowed start safeEvict earlier ⟨world, .deletePool name, accepted⟩ :=
  ⟨temporary, upToDate, drained⟩

theorem createConfigMap {configMap : ConfigMap}
    (namespaceName : configMap.namespaceName = safeEvict.namespaceName)
    (name : configMap.name = safeEvict.getConfigmapName)
    (records : Records start safeEvict.spec configMap.data) :
    Allowed start safeEvict earlier ⟨world, .createConfigMap configMap, accepted⟩ :=
  ⟨namespaceName, name, records⟩

theorem deleteConfigMap {namespaceName name : String}
    (sameNamespace : namespaceName = safeEvict.namespaceName)
    (sameName : name = safeEvict.getConfigmapName)
    (upToDate : ∀ poolName, ¬Stale start safeEvict.spec poolName) :
    Allowed start safeEvict earlier ⟨world, .deleteConfigMap namespaceName name, accepted⟩ :=
  ⟨sameNamespace, sameName, upToDate⟩

end Allowed

theorem Kept.snoc {start : World} {safeEvict : SafeEvict} {world updated : World}
    {log : List Entry} {entry : Entry} (kept : Kept start safeEvict world log)
    (allowed : Allowed start safeEvict log entry) (frame : Frame start updated) :
    Kept start safeEvict updated (log ++ [entry]) :=
  ⟨frame, kept.2.snoc allowed⟩

theorem Draining.snoc {start : World} {safeEvict : SafeEvict} {world updated : World}
    {log : List Entry} {entry : Entry} (draining : Draining start safeEvict world log)
    (allowed : Allowed start safeEvict log entry) (frame : Frame start updated)
    (surge : Surge safeEvict.getTemporaryNodepoolName updated) :
    Draining start safeEvict updated (log ++ [entry]) :=
  ⟨draining.1.snoc allowed frame, surge⟩

end NodeUpdater
