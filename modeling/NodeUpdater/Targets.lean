import NodeUpdater.Sends
import NodeUpdater.Upgrades

/-! # Where `Reconcile` aims its node writes and upgrades

An invocation cordons only nodes of pools stale when it started, or of the temporary pool
once none was, and upgrades only pools its `Spec.Nodepools` lists. -/

namespace NodeUpdater

open SafeEvictReconciler NodePoolController

/-- What the walk of the blocks needs of `allowed`, for the observation an invocation
starts its blocks with: every request other than a node write, an upgrade or a write of a
config map, the cordons of the nodes of the outdated pools and, once nothing is outdated, of
the temporary pool, any uncordon, the upgrades of the monitored pools, and the creation and
the deletion of the campaign's record. -/
structure Permits (allowed : Request → Prop) (observed : Observation) : Prop where
  others : ∀ request, request.tracked = false → allowed request
  cordons : ∀ poolName ∈ observed.outdatedNodePools.keys, ∀ node : Node,
    node.agentPool = some poolName → allowed (.updateNode { node with unschedulable := true })
  cordonsTemporary : observed.upToDate = true → ∀ node : Node,
    node.agentPool = some observed.temporaryName →
      allowed (.updateNode { node with unschedulable := true })
  uncordons : ∀ node : Node, allowed (.updateNode { node with unschedulable := false })
  upgrades : ∀ poolName ∈ observed.safeEvict.spec.nodepools,
    allowed (.upgradeNodeImageVersion poolName)
  records : ∀ data,
    allowed (.createConfigMap ⟨observed.namespaceName, observed.configmapName, data⟩)
  deletesRecord : allowed (.deleteConfigMap observed.namespaceName observed.configmapName)

section Blocks

variable {allowed : Request → Prop} {observed : Observation} (permits : Permits allowed observed)

include permits

theorem drainAndUpgrade_sends (configMapData : GoMap String) :
    Sends (drainAndUpgrade observed configMapData) allowed := by
  unfold drainAndUpgrade
  refine Sends.bind (performSafeEviction_sends permits.others _ _ permits.cordons)
    fun result => ?_
  cases result with
  | error err => exact .pure'
  | ok _ =>
  refine Sends.bind (upgradeLoop_sends _ _ permits.upgrades) fun result => ?_
  cases result with
  | some _ => exact .pure'
  | none =>
  refine Sends.bind (.of_reads (nextOrder_reads _)) fun _ =>
    Sends.bind (restoreLoop_sends permits.others _ _ _ permits.uncordons) fun result => ?_
  cases result with
  | some _ => exact .pure'
  | none => exact cleanUp_sends permits.others _ permits.cordonsTemporary permits.deletesRecord

theorem recordScaling_sends : Sends (recordScaling observed) allowed := by
  have drains := drainAndUpgrade_sends permits
  refine Sends.bind (getConfigMapData_sends _ _) fun result => ?_
  cases result with
  | ok configMapData => exact drains _
  | error err =>
  refine .ite (fun _ => Sends.bind (.of_reads (nextOrder_reads _)) fun order => ?_) fun _ => .pure'
  split
  · exact .throw'
  · refine Sends.bind (createConfigMap_sends _ _ _ (permits.records _)) fun result => ?_
    cases result with
    | error err => exact .pure'
    | ok _ => exact drains _

theorem awaitTemporaryNodepool_sends : Sends (awaitTemporaryNodepool observed) allowed := by
  refine Sends.bind (getNodePoolProvisioningState_sends _) fun result => ?_
  cases result with
  | error err => exact .pure'
  | ok status => exact .ite (fun _ => .pure') fun _ => recordScaling_sends permits

theorem ensureTemporaryNodepool_sends : Sends (ensureTemporaryNodepool observed) allowed := by
  have awaits := awaitTemporaryNodepool_sends permits
  refine Sends.bind (nodePoolExists_sends _) fun result => ?_
  cases result with
  | error err => exact .pure'
  | ok present =>
  cases present with
  | true => exact awaits
  | false =>
  refine .ite
    (fun _ => Sends.bind (deleteConfigMap_sends _ _ permits.deletesRecord) fun result => ?_)
    fun _ => Sends.bind (createTemporaryNodePool_sends _ _ fun _ => permits.others _ rfl)
      fun result => ?_
  · cases result <;> exact .pure'
  · cases result with
    | error _ => exact .pure'
    | ok _ => exact awaits

end Blocks

/-- What an invocation started in `start` sends: what the blocks are permitted to send for
the campaign it read and the observation it made of `start`; its log replays into the world
it leaves. -/
theorem reconcile_sends (config : Config) (namespaceName name : String) (start : World)
    {allowed : Request → Prop}
    (permits : ∀ safeEvict observed, start.safeEvictNamed? namespaceName name = some safeEvict →
      Observed start safeEvict observed → Permits allowed observed) :
    Triple (fun world log => world = start ∧ log = []) (reconcile config namespaceName name)
      (fun _ => Sent allowed start []) (Sent allowed start []) := by
  have nothing : ∀ world log, world = start ∧ log = [] → Sent allowed start [] world log :=
    fun _ _ ⟨sameWorld, empty⟩ => by
      rw [sameWorld, empty]
      exact Sends.unchanged ⟨start, [], [], []⟩
  refine (Kube.getSafeEvict_triple _ _).bind fun result => ?_
  cases result with
  | error err => exact .pure' fun _ _ holds => nothing _ _ holds.1
  | ok safeEvict =>
  refine (updateNeeded_triple _).bind fun result => ?_
  cases result with
  | error err => exact .pure' fun _ _ holds => nothing _ _ holds.1.1
  | ok outdated =>
  obtain ⟨outdatedNodes, outdatedNodePools⟩ := outdated
  refine (getNotReadyNodePoolsLoop_triple _ _).bind fun result => ?_
  cases result with
  | error err => exact .pure' fun _ _ holds => nothing _ _ holds.1.1.1
  | ok notReady =>
  refine (nextOrder_reads _).triple.bind fun order => ?_
  refine Triple.of_pre
    fun _ _ ⟨⟨⟨⟨⟨atStart, empty⟩, found⟩, outdatedFacts⟩, notReadyFacts⟩, permuted⟩ => ?_
  subst atStart empty
  exact (ensureTemporaryNodepool_sends (permits _ _ (found _ rfl) (observed_of_reads (found _ rfl)
    (outdatedFacts _ _ rfl) (notReadyFacts _ rfl) permuted))).pinned _ _

/-- The run lemma: a rule on requests, which may depend on the world an invocation starts
from and on the campaign it is asked for, holds of every request of every run, whatever the
servers answer and whatever order its map iterations take, once the reads of an invocation
permit the blocks to send what the rule allows. -/
theorem run_sends {rule : World → String → String → Request → Prop}
    (permits : ∀ start namespaceName name safeEvict observed,
      start.safeEvictNamed? namespaceName name = some safeEvict →
        Observed start safeEvict observed → Permits (rule start namespaceName name) observed)
    (config : Config) (world : World) (moves : List Move) :
    ∀ invocation ∈ (run config world moves).2, ∀ entry ∈ invocation.log,
      rule invocation.start invocation.namespaceName invocation.name entry.request := by
  intro invocation member entry inLog
  obtain ⟨faults, orders, logged⟩ := run_invocation config world moves invocation member
  obtain ⟨sent, sentLog, -, sentAllowed⟩ :=
    (reconcile_sends config _ _ _ (permits _ _ _)).finalSession_holds
      (Session.start _ faults orders) ⟨rfl, rfl⟩
  have inSent : entry ∈ (invoke config _ _ _ faults orders).log := logged ▸ inLog
  rw [invoke, sentLog] at inSent
  exact sentAllowed entry inSent

/-! ## Cordons -/

/-- The nodes an invocation of `Reconcile` started in `start` may cordon: those of a pool
that was stale there, and those of the temporary pool once nothing was. -/
def Cordonable (start : World) (safeEvict : SafeEvict) (node : Node) : Prop :=
  ∃ poolName, node.agentPool = some poolName ∧ (Stale start safeEvict.spec poolName ∨
    poolName = safeEvict.getTemporaryNodepoolName ∧ ∀ other, ¬Stale start safeEvict.spec other)

/-- A cordon that an invocation of the campaign `namespaceName/name` started in `start` may
send: of a node it may cordon, for the campaign it read. -/
def CordonRule (start : World) (namespaceName name : String) (request : Request) : Prop :=
  ∀ node, request = .updateNode node → node.unschedulable = true → ∃ safeEvict,
    start.safeEvictNamed? namespaceName name = some safeEvict ∧ Cordonable start safeEvict node

theorem cordonRule_permits {start : World} {namespaceName name : String} {safeEvict : SafeEvict}
    {observed : Observation} (found : start.safeEvictNamed? namespaceName name = some safeEvict)
    (facts : Observed start safeEvict observed) :
    Permits (CordonRule start namespaceName name) observed := by
  refine ⟨?_, fun poolName member node onPool => ?_, fun upToDate node onPool => ?_, ?_, ?_,
    (fun _ _ same => nomatch same), fun _ same => nomatch same⟩
  · rintro request untracked node rfl
    cases untracked
  · rintro _ ⟨⟩ _
    exact ⟨safeEvict, found, poolName, onPool, .inl ((facts.stale poolName).mp member)⟩
  · rintro _ ⟨⟩ _
    exact ⟨safeEvict, found, _, onPool, .inr ⟨facts.temporaryName, facts.upToDate upToDate⟩⟩
  · rintro _ _ ⟨⟩ cordoned
    cases cordoned
  · rintro _ _ _ ⟨⟩

/-- In every run, whatever the servers answer and whatever order its map iterations take,
every node an invocation cordons belongs to a pool of its campaign that was stale when the
invocation started, or to the campaign's temporary pool, and then no monitored pool was
stale. -/
theorem run_cordons (config : Config) (world : World) (moves : List Move) :
    ∀ invocation ∈ (run config world moves).2, ∀ entry ∈ invocation.log, ∀ node,
      entry.request = .updateNode node → node.unschedulable = true → ∃ safeEvict,
        invocation.start.safeEvictNamed? invocation.namespaceName invocation.name = some safeEvict ∧
          Cordonable invocation.start safeEvict node :=
  run_sends (fun _ _ _ _ _ => cordonRule_permits) config world moves

open Scenario in
/-- The third request of the invocation on `draining` cordons `n1`, a node of the stale
pool `pool1`. -/
theorem draining_cordons_stale_node :
    ∃ invocation ∈ (run config draining once).2, ∃ entry ∈ invocation.log,
      entry.request = .updateNode { node "n1" "pool1" "v1" with unschedulable := true } ∧
      ∃ safeEvict,
        invocation.start.safeEvictNamed? invocation.namespaceName invocation.name = some safeEvict ∧
          Cordonable invocation.start safeEvict
            { node "n1" "pool1" "v1" with unschedulable := true } := by
  have single : 0 < (run config draining once).2.length := by simp [once, run_single]
  have inLog : 2 < ((run config draining once).2.get ⟨0, single⟩).log.length := by
    rw [once_log, draining_log_length]
    decide
  have requested := draining_request? 2
  rw [← once_log single, List.get?_eq_get inLog, Option.map_some'] at requested
  exact ⟨_, List.get_mem _ 0 single, _, List.get_mem _ 2 inLog, Option.some.inj requested,
    run_cordons config draining once _ (List.get_mem _ 0 single) _ (List.get_mem _ 2 inLog) _
      (Option.some.inj requested) rfl⟩

/-! ## Upgrades -/

/-- An upgrade that an invocation of the campaign `namespaceName/name` started in `start`
may submit: of a pool the campaign it read monitors. -/
def UpgradeRule (start : World) (namespaceName name : String) (request : Request) : Prop :=
  ∀ poolName, request = .upgradeNodeImageVersion poolName → ∃ safeEvict,
    start.safeEvictNamed? namespaceName name = some safeEvict ∧ poolName ∈ safeEvict.spec.nodepools

theorem upgradeRule_permits {start : World} {namespaceName name : String} {safeEvict : SafeEvict}
    {observed : Observation} (found : start.safeEvictNamed? namespaceName name = some safeEvict)
    (facts : Observed start safeEvict observed) :
    Permits (UpgradeRule start namespaceName name) observed := by
  have nodeWrite : ∀ node, UpgradeRule start namespaceName name (.updateNode node) :=
    fun _ _ same => by cases same
  refine ⟨?_, fun _ _ _ _ => nodeWrite _, fun _ _ _ => nodeWrite _, fun _ => nodeWrite _, ?_,
    (fun _ _ same => nomatch same), fun _ same => nomatch same⟩
  · rintro request untracked poolName rfl
    cases untracked
  · rintro poolName member _ ⟨⟩
    exact ⟨safeEvict, found, facts.campaign ▸ member⟩

/-- In every run, whatever the servers answer and whatever order its map iterations take,
every node-image upgrade an invocation submits is of a pool that its campaign monitors:
the pools of other campaigns and the temporary pool are never upgraded. -/
theorem run_upgrades (config : Config) (world : World) (moves : List Move) :
    ∀ invocation ∈ (run config world moves).2, ∀ entry ∈ invocation.log, ∀ poolName,
      entry.request = .upgradeNodeImageVersion poolName → ∃ safeEvict,
        invocation.start.safeEvictNamed? invocation.namespaceName invocation.name = some safeEvict ∧
          poolName ∈ safeEvict.spec.nodepools :=
  run_sends (fun _ _ _ _ _ => upgradeRule_permits) config world moves

open Scenario in
/-- The invocation on `systemPools` upgrades `sys1`, a pool of the campaign `system`. -/
theorem systemPools_upgrades_monitored :
    ∃ invocation ∈ (run config systemPools [.reconcile "default" "system" [] []]).2,
      ∃ entry ∈ invocation.log, entry.request = .upgradeNodeImageVersion "sys1" ∧
        ∃ safeEvict,
          invocation.start.safeEvictNamed? invocation.namespaceName invocation.name = some safeEvict ∧
            "sys1" ∈ safeEvict.spec.nodepools := by
  have single : 0 < (run config systemPools [.reconcile "default" "system" [] []]).2.length := by
    simp [run_single]
  have submitted : Request.upgradeNodeImageVersion "sys1" ∈
      ((run config systemPools [.reconcile "default" "system" [] []]).2.get ⟨0, single⟩).log.map
        Entry.request := by
    rw [run_single_log]
    decide
  obtain ⟨entry, inLog, requested⟩ := List.mem_map.mp submitted
  exact ⟨_, List.get_mem _ 0 single, entry, inLog, requested,
    run_upgrades config systemPools _ _ (List.get_mem _ 0 single) entry inLog _ requested⟩

end NodeUpdater
