import NodeUpdater.Footprint

/-! # Runs of campaigns

Invocations of `Reconcile`, for any campaigns, interleaved with the changes the outside
makes between them; each invocation starts from the world the run has reached. -/

namespace NodeUpdater

def CloudPool.state (cloudPool : CloudPool) : Option String :=
  cloudPool.agentPool.properties.bind (·.provisioningState)

def imageLabel : String :=
  "kubernetes.azure.com/node-image-version"

def CloudPool.settled (cloudPool : CloudPool) : CloudPool :=
  { cloudPool with agentPool := { cloudPool.agentPool with
    properties := cloudPool.agentPool.properties.map
      fun properties => { properties with provisioningState := some "Succeeded" } } }

/-- A node once the upgrade of its pool, if one was running, has completed: it runs
the pool's latest image. -/
def World.upgradedNode (world : World) (node : Node) : Node :=
  match node.agentPool.bind world.poolNamed? with
  | some cloudPool =>
      match cloudPool.state, cloudPool.latestNodeImageVersion with
      | some "UpgradingNodeImageVersion", some latest =>
          { node with labels := node.labels.insert imageLabel latest }
      | _, _ => node
  | none => node

def World.nodeDeleted (world : World) (node : Node) : Bool :=
  match node.agentPool.bind world.poolNamed? with
  | some cloudPool => cloudPool.state == some "Deleting"
  | none => false

/-- Every submitted pool operation completes: pools being deleted disappear with their
nodes, the nodes of upgraded pools run the latest image, and every pool that was
`Creating`, `Updating` or upgrading is `Succeeded`. -/
def World.complete (world : World) : World :=
  { world with
    pools := (world.pools.filter (·.state != some "Deleting")).map fun cloudPool =>
      if cloudPool.state ∈ [some "Creating", some "Updating", some "UpgradingNodeImageVersion"]
      then cloudPool.settled else cloudPool
    nodes := (world.nodes.filter (!world.nodeDeleted ·)).map world.upgradedNode
    nodeNames_nodup := by
      have keepsName : ∀ node, (world.upgradedNode node).name = node.name := by
        intro node
        unfold World.upgradedNode
        split
        · split <;> rfl
        · rfl
      rw [List.map_map, show Node.name ∘ world.upgradedNode = Node.name from funext keepsName]
      exact world.nodeNames_nodup.sublist ((List.filter_sublist _).map _) }

/-- A change the outside makes between two invocations. -/
inductive Change where
  /-- A new node image is released for a pool. -/
  | release (poolName image : String)
  /-- A pool's provisioning state moves, as when an operation fails. -/
  | settle (poolName state : String)
  /-- Every submitted pool operation completes. -/
  | complete
  deriving DecidableEq, Repr

def Change.apply : Change → World → World
  | .release poolName image, world =>
      { world with pools := world.pools.map fun cloudPool =>
          if cloudPool.agentPool.name = poolName then
            { cloudPool with latestNodeImageVersion := some image }
          else cloudPool }
  | .settle poolName state, world => world.setPoolState poolName state
  | .complete, world => world.complete

/-- One step of a run: an invocation of `Reconcile` for the campaign
`namespaceName/name`, with the answers of its servers and the orders of its map
iterations, or a change from outside. -/
inductive Move where
  | reconcile (namespaceName name : String) (faults : List Fault) (orders : List (List Nat))
  | change (change : Change)

/-- What one invocation of a run did: its campaign, the world it started from, and the
requests it sent. -/
structure Invocation where
  namespaceName : String
  name : String
  start : World
  log : List Entry

/-- A run from `world`: the world it ends in, and its invocations in order. -/
def run (config : Config) : World → List Move → World × List Invocation
  | world, [] => (world, [])
  | world, .reconcile namespaceName name faults orders :: moves =>
      let session := invoke config namespaceName name world faults orders
      let rest := run config session.world moves
      (rest.1, ⟨namespaceName, name, world, session.log⟩ :: rest.2)
  | world, .change change :: moves => run config (change.apply world) moves

theorem run_single (config : Config) (world : World) (namespaceName name : String)
    (faults : List Fault) (orders : List (List Nat)) :
    (run config world [.reconcile namespaceName name faults orders]).2 =
      [⟨namespaceName, name, world, (invoke config namespaceName name world faults orders).log⟩] :=
  rfl

theorem run_single_log (config : Config) (world : World) (namespaceName name : String)
    (faults : List Fault) (orders : List (List Nat))
    (single : 0 < (run config world [.reconcile namespaceName name faults orders]).2.length) :
    ((run config world [.reconcile namespaceName name faults orders]).2.get ⟨0, single⟩).log =
      (invoke config namespaceName name world faults orders).log :=
  rfl

/-- Every invocation of a run is one invocation of `Reconcile` from the world the run
had reached. -/
theorem run_invocation (config : Config) (world : World) (moves : List Move) :
    ∀ invocation ∈ (run config world moves).2, ∃ faults orders,
      invocation.log =
        (invoke config invocation.namespaceName invocation.name invocation.start faults orders).log := by
  induction moves generalizing world with
  | nil => simp [run]
  | cons move moves induction =>
      cases move with
      | reconcile namespaceName name faults orders =>
          intro invocation member
          rcases List.mem_cons.mp member with rfl | later
          · exact ⟨faults, orders, rfl⟩
          · exact induction _ invocation later
      | change change => exact induction _

/-- The run lemma: in every run, every request of every invocation is allowed, by the
requests that invocation sent before it, for the campaign it read and the world it
started from. -/
theorem run_allowed (config : Config) (world : World) (moves : List Move) (which : Nat)
    (isInvocation : which < (run config world moves).2.length) (index : Nat)
    (inLog : index < ((run config world moves).2.get ⟨which, isInvocation⟩).log.length) :
    let invocation := (run config world moves).2.get ⟨which, isInvocation⟩
    ∃ safeEvict,
      invocation.start.safeEvictNamed? invocation.namespaceName invocation.name = some safeEvict ∧
      Allowed invocation.start safeEvict (invocation.log.take index)
        (invocation.log.get ⟨index, inLog⟩) := by
  intro invocation
  obtain ⟨faults, orders, logged⟩ := run_invocation config world moves invocation (List.get_mem _ _ _)
  have inInvoke := logged ▸ inLog
  obtain ⟨safeEvict, found, allowed⟩ := invoke_allowed config invocation.namespaceName
    invocation.name invocation.start faults orders index inInvoke
  have transfer : ∀ (log other : List Entry), log = other → ∀ (inLog : index < log.length)
      (inOther : index < other.length),
      Allowed invocation.start safeEvict (other.take index) (other.get ⟨index, inOther⟩) →
        Allowed invocation.start safeEvict (log.take index) (log.get ⟨index, inLog⟩) := by
    rintro log other rfl inLog inOther allowed
    exact allowed
  exact ⟨safeEvict, found, transfer _ _ logged inLog inInvoke allowed⟩

end NodeUpdater
