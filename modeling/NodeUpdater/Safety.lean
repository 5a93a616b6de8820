import NodeUpdater.Campaign

/-! # Safety of a campaign

The properties a campaign is meant to have, each read off `Allowed`; the scenarios below
show where the code keeps less. -/

namespace NodeUpdater

/-! ## Scenarios -/

namespace Scenario

/-- The delays `cmd/main.go` uses when its flags are not given. -/
def config : Config :=
  ⟨10, 10, 3600⟩

def scaling (state : String) : AgentPoolProperties :=
  { provisioningState := some state, mode := some "User", enableAutoScaling := some true,
    count := some 2, minCount := some 1, maxCount := some 3 }

def pool (name state latest : String) : CloudPool :=
  ⟨⟨name, some (scaling state)⟩, some latest⟩

def node (name poolName image : String) : Node :=
  ⟨name, [("agentpool", poolName), (imageLabel, image)], false⟩

/-- A build agent that has finished its job: a running pod of a Job, registered as an
agent of the Azure DevOps pool `ci`, whose log ends with the sentinel `idle`. -/
def agentPod : Pod where
  name := "agent-0"
  namespaceName := "agents"
  labels := []
  ownerReferences := [⟨"Job", "job-0"⟩]
  containers := [⟨[⟨"AZP_POOL", "ci"⟩]⟩]
  nodeName := "n1"
  phase := "Running"
  log := "job done, idle"

/-- The campaign of the scenarios: it monitors `pool1`, clones its temporary pool
`tmppool1` from it, and guards the pods of `agents` not labelled `busy`. -/
def campaign : SafeEvict :=
  ⟨"campaign", "default", ⟨[("busy", "true")], ["idle"], ["pool1"], ["agents"], "pool1"⟩⟩

/-- One invocation for `campaign`, with every call answered. -/
def once : List Move :=
  [.reconcile "default" "campaign" [] []]

/-- `pool1` runs an old image and the temporary pool is up: the next invocation drains
`pool1` and evicts the idle agent on its node. -/
def draining : World where
  safeEvicts := [campaign]
  pools := [pool "pool1" "Succeeded" "v2", pool "tmppool1" "Succeeded" "v2"]
  nodes := [node "n1" "pool1" "v1", node "t1" "tmppool1" "v2"]
  pods := [agentPod]
  jobs := [⟨"agents", "job-0"⟩]
  configMaps := []
  devopsPools := [⟨7, "ci"⟩]
  agents := [⟨7, 11, "agent-0", true⟩]
  nodeNames_nodup := by decide
  podKeys_nodup := by decide

/-- `pool1` runs an old image and has no temporary pool yet. -/
def outdated : World where
  safeEvicts := [campaign]
  pools := [pool "pool1" "Succeeded" "v2"]
  nodes := [node "n1" "pool1" "v1"]
  pods := []
  jobs := []
  configMaps := []
  devopsPools := []
  agents := []
  nodeNames_nodup := by decide
  podKeys_nodup := by decide

end Scenario

open Scenario

/-- The requests of the invocation on `draining`: the record, the autoscaling of `pool1`,
the cordon of its node, and the four steps of the eviction of the idle agent. -/
def Scenario.drainingRequests : List Request :=
  [.createConfigMap
      ⟨"default", "tmpcampaign", [("pool1", "\x7b\"MinCount\": 1, \"MaxCount\": 3\x7d")]⟩,
    .createOrUpdatePool "pool1"
      ⟨"pool1", some { scaling "Succeeded" with enableAutoScaling := some false }⟩,
    .updateNode { node "n1" "pool1" "v1" with unschedulable := true },
    .disableAgent 7 11, .deleteAgent 7 11, .deleteJob "agents" "job-0",
    .deletePod "agents" "agent-0"]

theorem draining_requests :
    (invoke config "default" "campaign" draining [] []).log.map (·.request) = drainingRequests := by
  decide

theorem draining_request? (index : Nat) :
    ((invoke config "default" "campaign" draining [] []).log.get? index).map (·.request) =
      drainingRequests.get? index := by
  rw [List.get?_eq_getElem?, List.get?_eq_getElem?, ← List.getElem?_map, draining_requests]

theorem draining_log_length :
    (invoke config "default" "campaign" draining [] []).log.length = 7 := by
  simpa using congrArg List.length draining_requests

theorem once_log (single : 0 < (run config draining once).2.length) :
    ((run config draining once).2.get ⟨0, single⟩).log =
      (invoke config "default" "campaign" draining [] []).log :=
  run_single_log config draining "default" "campaign" [] [] single

/-- Every consequence of `Allowed` holds of every request of every invocation of every
run. -/
theorem run_of_allowed (Holds : World → SafeEvict → List Entry → Entry → Prop)
    (implied : ∀ {start safeEvict earlier entry},
      Allowed start safeEvict earlier entry → Holds start safeEvict earlier entry)
    (config : Config) (world : World) (moves : List Move) (which : Nat)
    (isInvocation : which < (run config world moves).2.length) (index : Nat)
    (inLog : index < ((run config world moves).2.get ⟨which, isInvocation⟩).log.length) :
    let invocation := (run config world moves).2.get ⟨which, isInvocation⟩
    ∃ safeEvict,
      invocation.start.safeEvictNamed? invocation.namespaceName invocation.name = some safeEvict ∧
      Holds invocation.start safeEvict (invocation.log.take index)
        (invocation.log.get ⟨index, inLog⟩) := by
  obtain ⟨safeEvict, found, allowed⟩ :=
    run_allowed config world moves which isInvocation index inLog
  exact ⟨safeEvict, found, implied allowed⟩

/-! ## Zero outage -/

/-- What zero outage asks of the request `entry` that an invocation for `safeEvict`,
started in `start`, sends after `earlier`: a step of an eviction is about an idle pod on
a node, of a stale pool or of the temporary pool, that `earlier` cordoned; an upgrade
or a deletion is of a pool on whose nodes no guarded pod runs. -/
def ZeroOutage (start : World) (safeEvict : SafeEvict) (earlier : List Entry) (entry : Entry) :
    Prop :=
  match entry.request with
  | .upgradeNodeImageVersion poolName | .deletePool poolName =>
      Drained safeEvict.spec entry.world poolName
  | .deletePod .. | .deleteJob .. | .disableAgent .. | .deleteAgent .. =>
      ∃ pod, EvictionOf entry.world pod entry.request ∧ Evictable start safeEvict earlier pod
  | _ => True

theorem Allowed.zeroOutage {start : World} {safeEvict : SafeEvict} {earlier : List Entry}
    {entry : Entry} (allowed : Allowed start safeEvict earlier entry) :
    ZeroOutage start safeEvict earlier entry := by
  obtain ⟨world, request, accepted⟩ := entry
  cases request
  case upgradeNodeImageVersion => exact allowed
  case deletePool => exact allowed.2.2
  all_goals first
    | trivial
    | obtain ⟨-, pod, evictable, eviction⟩ := allowed
      exact ⟨pod, eviction, evictable⟩

/-- Zero outage: every request of an invocation, whatever the world, the answers of the
servers and the orders of the map iterations. -/
theorem invoke_zeroOutage (config : Config) (namespaceName name : String) (start : World)
    (faults : List Fault) (orders : List (List Nat)) (index : Nat)
    (inLog : index < (invoke config namespaceName name start faults orders).log.length) :
    ∃ safeEvict, start.safeEvictNamed? namespaceName name = some safeEvict ∧
      ZeroOutage start safeEvict
        ((invoke config namespaceName name start faults orders).log.take index)
        ((invoke config namespaceName name start faults orders).log.get ⟨index, inLog⟩) := by
  obtain ⟨safeEvict, found, allowed⟩ :=
    invoke_allowed config namespaceName name start faults orders index inLog
  exact ⟨safeEvict, found, allowed.zeroOutage⟩

/-- In `draining`, the fourth request disables the idle agent. -/
theorem draining_disables_idle_agent :
    ∃ inLog : 3 < (invoke config "default" "campaign" draining [] []).log.length,
      ((invoke config "default" "campaign" draining [] []).log.get? 3).map (·.request) =
        some (.disableAgent 7 11) ∧
      ∃ safeEvict, draining.safeEvictNamed? "default" "campaign" = some safeEvict ∧
        ZeroOutage draining safeEvict
          ((invoke config "default" "campaign" draining [] []).log.take 3)
          ((invoke config "default" "campaign" draining [] []).log.get ⟨3, inLog⟩) :=
  by
  refine ⟨by rw [draining_log_length]; decide, ?_,
    invoke_zeroOutage config "default" "campaign" draining [] [] 3 _⟩
  rw [draining_request?]; rfl

/-! ## Capacity before draining -/

/-- Whether a request takes capacity from a pool: a cordon, or a step of an eviction. -/
def Request.drains : Request → Bool
  | .updateNode node => node.unschedulable
  | .deletePod .. | .deleteJob .. | .disableAgent .. | .deleteAgent .. => true
  | _ => false

/-- A request that drains is sent while the temporary pool exists, past its creation. -/
def SurgeReady (safeEvict : SafeEvict) (entry : Entry) : Prop :=
  entry.request.drains = true → Surge safeEvict.getTemporaryNodepoolName entry.world

theorem Allowed.surgeReady {start : World} {safeEvict : SafeEvict} {earlier : List Entry}
    {entry : Entry} (allowed : Allowed start safeEvict earlier entry) :
    SurgeReady safeEvict entry := by
  obtain ⟨world, request, accepted⟩ := entry
  intro drains
  cases request
  case updateNode => exact allowed drains
  all_goals first
    | exact allowed.1
    | cases drains

theorem run_surgeReady (config : Config) (world : World) (moves : List Move) (which : Nat)
    (isInvocation : which < (run config world moves).2.length) (index : Nat)
    (inLog : index < ((run config world moves).2.get ⟨which, isInvocation⟩).log.length) :
    let invocation := (run config world moves).2.get ⟨which, isInvocation⟩
    ∃ safeEvict,
      invocation.start.safeEvictNamed? invocation.namespaceName invocation.name = some safeEvict ∧
      SurgeReady safeEvict (invocation.log.get ⟨index, inLog⟩) :=
  run_of_allowed (fun _ safeEvict _ entry => SurgeReady safeEvict entry) Allowed.surgeReady
    config world moves which isInvocation index inLog

/-- In `draining`, the third request cordons the node of `pool1`. -/
theorem draining_cordons_with_surge :
    ∃ (isInvocation : 0 < (run config draining once).2.length)
      (inLog : 2 < ((run config draining once).2.get ⟨0, isInvocation⟩).log.length),
      (((run config draining once).2.get? 0).bind (·.log.get? 2)).map (·.request.drains) =
        some true ∧
      ∃ safeEvict, draining.safeEvictNamed? "default" "campaign" = some safeEvict ∧
        SurgeReady safeEvict
          (((run config draining once).2.get ⟨0, isInvocation⟩).log.get ⟨2, inLog⟩) :=
  by
  refine ⟨by simp [once, run_single], ?_, ?_, run_surgeReady config draining once 0 _ 2 _⟩
  · rw [once_log, draining_log_length]; decide
  · show Option.map (Request.drains ∘ Entry.request) _ = _
    rw [← Option.map_map, once, run_single, List.get?_cons_zero, Option.some_bind,
      draining_request?]
    rfl

/-- The temporary pool fails to provision between two invocations. -/
def Scenario.surgeFails : List Move :=
  [.reconcile "default" "campaign" [] [], .change (.settle "tmppool1" "Failed"),
    .reconcile "default" "campaign" [] []]

/-! ## Deletion of pools -/

/-- A deletion of a pool is of the campaign's temporary pool, sent when no monitored
pool was stale at the start and no guarded pod runs on the pool. -/
def DeletesTemporary (start : World) (safeEvict : SafeEvict) (entry : Entry) : Prop :=
  match entry.request with
  | .deletePool poolName =>
      poolName = safeEvict.getTemporaryNodepoolName ∧
        (∀ monitored, ¬Stale start safeEvict.spec monitored) ∧
        Drained safeEvict.spec entry.world poolName
  | _ => True

theorem Allowed.deletesTemporary {start : World} {safeEvict : SafeEvict} {earlier : List Entry}
    {entry : Entry} (allowed : Allowed start safeEvict earlier entry) :
    DeletesTemporary start safeEvict entry := by
  obtain ⟨world, request, accepted⟩ := entry
  cases request
  case deletePool => exact allowed
  all_goals trivial

theorem run_deletesTemporary (config : Config) (world : World) (moves : List Move) (which : Nat)
    (isInvocation : which < (run config world moves).2.length) (index : Nat)
    (inLog : index < ((run config world moves).2.get ⟨which, isInvocation⟩).log.length) :
    let invocation := (run config world moves).2.get ⟨which, isInvocation⟩
    ∃ safeEvict,
      invocation.start.safeEvictNamed? invocation.namespaceName invocation.name = some safeEvict ∧
      DeletesTemporary invocation.start safeEvict (invocation.log.get ⟨index, inLog⟩) :=
  run_of_allowed (fun start safeEvict _ entry => DeletesTemporary start safeEvict entry)
    Allowed.deletesTemporary config world moves which isInvocation index inLog

/-- A campaign that monitors the pool its own temporary pool is named after: its base
pool `foo` gives the temporary pool `tmpfoo`. -/
def Scenario.mirror : SafeEvict :=
  ⟨"mirror", "default", ⟨[("busy", "true")], ["idle"], ["tmpfoo"], ["agents"], "foo"⟩⟩

/-- `tmpfoo` was there before the campaign, and runs the latest image. -/
def Scenario.mirrored : World where
  safeEvicts := [mirror]
  pools := [pool "foo" "Succeeded" "v2", pool "tmpfoo" "Succeeded" "v2"]
  nodes := [node "f1" "foo" "v2", node "m1" "tmpfoo" "v2"]
  pods := []
  jobs := []
  configMaps := []
  devopsPools := []
  agents := []
  nodeNames_nodup := by decide
  podKeys_nodup := by decide

/-- One invocation for `mirror`, with every call answered. -/
def Scenario.mirrorOnce : List Move :=
  [.reconcile "default" "mirror" [] []]

/-- In `mirrored`, the fifth request deletes `tmpfoo`. -/
theorem mirrored_deletes_with_nothing_stale :
    ∃ (isInvocation : 0 < (run config mirrored mirrorOnce).2.length)
      (inLog : 4 < ((run config mirrored mirrorOnce).2.get ⟨0, isInvocation⟩).log.length),
      (((run config mirrored mirrorOnce).2.get? 0).bind (·.log.get? 4)).map (·.request) =
        some (.deletePool "tmpfoo") ∧
      ∃ safeEvict, mirrored.safeEvictNamed? "default" "mirror" = some safeEvict ∧
        DeletesTemporary mirrored safeEvict
          (((run config mirrored mirrorOnce).2.get ⟨0, isInvocation⟩).log.get ⟨4, inLog⟩) :=
  ⟨by decide, by decide, by decide, run_deletesTemporary config mirrored mirrorOnce 0 _ 4 _⟩

/-- `mirror` deletes `tmpfoo`, a pool it monitors and did not create. -/
theorem mirrored_deletes_monitored_pool :
    "tmpfoo" ∈ mirror.spec.nodepools ∧ (mirrored.poolNamed? "tmpfoo").isSome ∧
      ((run config mirrored mirrorOnce).2.any fun invocation =>
        invocation.log.any (·.request == .deletePool "tmpfoo")) = true := by
  decide

/-! ## The scaling record -/

/-- What the request `entry` may do to the scaling record: write the campaign's record,
with the scaling of exactly the pools stale at the start as it was then; delete it,
only when no monitored pool was stale at the start. -/
def RecordsScaling (start : World) (safeEvict : SafeEvict) (entry : Entry) : Prop :=
  match entry.request with
  | .createConfigMap configMap =>
      configMap.namespaceName = safeEvict.namespaceName ∧
        configMap.name = safeEvict.getConfigmapName ∧ Records start safeEvict.spec configMap.data
  | .deleteConfigMap namespaceName name =>
      namespaceName = safeEvict.namespaceName ∧ name = safeEvict.getConfigmapName ∧
        ∀ poolName, ¬Stale start safeEvict.spec poolName
  | _ => True

theorem Allowed.recordsScaling {start : World} {safeEvict : SafeEvict} {earlier : List Entry}
    {entry : Entry} (allowed : Allowed start safeEvict earlier entry) :
    RecordsScaling start safeEvict entry := by
  obtain ⟨world, request, accepted⟩ := entry
  cases request
  case createConfigMap => exact allowed
  case deleteConfigMap => exact allowed
  all_goals trivial

theorem run_recordsScaling (config : Config) (world : World) (moves : List Move) (which : Nat)
    (isInvocation : which < (run config world moves).2.length) (index : Nat)
    (inLog : index < ((run config world moves).2.get ⟨which, isInvocation⟩).log.length) :
    let invocation := (run config world moves).2.get ⟨which, isInvocation⟩
    ∃ safeEvict,
      invocation.start.safeEvictNamed? invocation.namespaceName invocation.name = some safeEvict ∧
      RecordsScaling invocation.start safeEvict (invocation.log.get ⟨index, inLog⟩) :=
  run_of_allowed (fun start safeEvict _ entry => RecordsScaling start safeEvict entry)
    Allowed.recordsScaling config world moves which isInvocation index inLog

/-- In `draining`, the first request writes the record. -/
theorem draining_records_stale_pool :
    ∃ (isInvocation : 0 < (run config draining once).2.length)
      (inLog : 0 < ((run config draining once).2.get ⟨0, isInvocation⟩).log.length),
      (((run config draining once).2.get? 0).bind (·.log.get? 0)).map (·.request) =
        some (.createConfigMap ⟨"default", "tmpcampaign", [("pool1", "\x7b\"MinCount\": 1, \"MaxCount\": 3\x7d")]⟩) ∧
      ∃ safeEvict, draining.safeEvictNamed? "default" "campaign" = some safeEvict ∧
        RecordsScaling draining safeEvict
          (((run config draining once).2.get ⟨0, isInvocation⟩).log.get ⟨0, inLog⟩) :=
  by
  refine ⟨by simp [once, run_single], ?_, ?_, run_recordsScaling config draining once 0 _ 0 _⟩
  · rw [once_log, draining_log_length]; decide
  · rw [once, run_single, List.get?_cons_zero, Option.some_bind, draining_request?]; rfl

/-- A campaign over two pools, `pool1` and `pool2`. -/
def Scenario.pair : SafeEvict :=
  ⟨"pair", "default", ⟨[("busy", "true")], ["idle"], ["pool1", "pool2"], ["agents"], "pool1"⟩⟩

/-- `pool1` runs an old image, `pool2` the latest. -/
def Scenario.twoPools : World where
  safeEvicts := [pair]
  pools := [pool "pool1" "Succeeded" "v2", pool "pool2" "Succeeded" "v2"]
  nodes := [node "n1" "pool1" "v1", node "n2" "pool2" "v2"]
  pods := []
  jobs := []
  configMaps := []
  devopsPools := []
  agents := []
  nodeNames_nodup := by decide
  podKeys_nodup := by decide

/-- The temporary pool is created and comes up, the record is written for `pool1`, and
then a new image is released for `pool2`. -/
def Scenario.lateRelease : List Move :=
  [.reconcile "default" "pair" [] [], .change .complete, .reconcile "default" "pair" [] [],
    .change (.release "pool2" "v3"), .reconcile "default" "pair" [] []]

/-- At the end of `lateRelease`, `pool2` has its autoscaling disabled and its node
cordoned, and the record has no entry for it. -/
theorem lateRelease_leaves_pool_unrecorded :
    let final := (run config twoPools lateRelease).1
    ((final.poolNamed? "pool2").bind (·.agentPool.properties)).bind (·.enableAutoScaling) =
        some false ∧
      (final.nodes.find? (·.name == "n2")).map (·.unschedulable) = some true ∧
      (final.configMaps.find? (·.name == pair.getConfigmapName)).map (·.data.keys) =
        some ["pool1"] := by
  decide

end NodeUpdater
