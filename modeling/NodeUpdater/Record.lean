import NodeUpdater.Targets

/-! # The scaling record is held while `Reconcile` works

Every cordon, eviction, scaling write and upgrade of an invocation goes out while the
record a later invocation restores from is there. -/

namespace NodeUpdater

open SafeEvictReconciler NodePoolController

def World.hasConfigMap (world : World) (namespaceName name : String) : Bool :=
  world.configMaps.any fun configMap =>
    configMap.namespaceName == namespaceName && configMap.name == name

theorem World.hasConfigMap_of_mem {world : World} {configMap : ConfigMap}
    {namespaceName name : String} (member : configMap ∈ world.configMaps)
    (sameNamespace : configMap.namespaceName = namespaceName) (sameName : configMap.name = name) :
    world.hasConfigMap namespaceName name = true :=
  List.any_eq_true.mpr ⟨configMap, member, by simp [sameNamespace, sameName]⟩

/-- Whether a request writes a config map. -/
def Request.writesConfigMap : Request → Bool
  | .createConfigMap _ => true
  | .deleteConfigMap _ _ => true
  | _ => false

theorem Request.apply_configMaps {request : Request} (keeps : request.writesConfigMap = false)
    (world : World) : (request.apply world).configMaps = world.configMaps := by
  cases request with
  | createConfigMap => cases keeps
  | deleteConfigMap => cases keeps
  | createOrUpdatePool =>
      simp only [Request.apply]
      split <;> rfl
  | _ => rfl

theorem Entry.apply_configMaps {entry : Entry} (keeps : entry.request.writesConfigMap = false)
    (world : World) : (entry.apply world).configMaps = world.configMaps := by
  unfold Entry.apply
  split
  · exact Request.apply_configMaps keeps world
  · rfl

/-- The requests an invocation asked for the campaign `safeEvict` in `namespaceName` may send
without the record: the writes of the temporary pool, and the creation and the deletion of
the record. -/
def Unrecorded (namespaceName : String) (safeEvict : SafeEvict) : Request → Prop
  | .createOrUpdatePool name _ => name = safeEvict.getTemporaryNodepoolName
  | .createConfigMap configMap =>
      configMap.namespaceName = namespaceName ∧ configMap.name = safeEvict.getConfigmapName
  | .deleteConfigMap namespaceName' name =>
      namespaceName' = namespaceName ∧ name = safeEvict.getConfigmapName
  | _ => False

instance (namespaceName : String) (safeEvict : SafeEvict) :
    DecidablePred (Unrecorded namespaceName safeEvict) := fun request => by
  cases request <;> unfold Unrecorded <;> infer_instance

/-- A request that went out while the record existed, or need not wait for it. -/
def Guards (namespaceName : String) (safeEvict : SafeEvict) (entry : Entry) : Prop :=
  Unrecorded namespaceName safeEvict entry.request ∨
    entry.world.hasConfigMap namespaceName safeEvict.getConfigmapName = true

def Guarded (namespaceName : String) (safeEvict : SafeEvict) (log : List Entry) : Prop :=
  ∀ entry ∈ log, Guards namespaceName safeEvict entry

/-- The record exists, and every request so far was guarded. -/
def Holding (namespaceName : String) (safeEvict : SafeEvict) : Assertion := fun world log =>
  world.hasConfigMap namespaceName safeEvict.getConfigmapName = true ∧
    Guarded namespaceName safeEvict log

section Holding

variable {α : Type} {namespaceName : String} {safeEvict : SafeEvict}

theorem Guarded.snoc {log : List Entry} {entry : Entry}
    (guarded : Guarded namespaceName safeEvict log)
    (guards : Guards namespaceName safeEvict entry) :
    Guarded namespaceName safeEvict (log ++ [entry]) := fun other member =>
  (List.mem_append.mp member).elim (guarded other) fun last =>
    List.mem_singleton.mp last ▸ guards

/-- A program that writes no config map keeps the record where it was, and each request it
sends finds the record there. -/
theorem Sends.holding {program : Api α}
    (sends : Sends program fun request => request.writesConfigMap = false) :
    Triple (Holding namespaceName safeEvict) program
      (fun _ => Holding namespaceName safeEvict) fun _ log => Guarded namespaceName safeEvict log :=
  (Triple.of_finalSession fun session ⟨held, guarded⟩ => by
    obtain ⟨sent, logged, replays, keeps⟩ := sends session
    obtain ⟨sentIn, final⟩ := replays.keeps World.configMaps fun entry member =>
      Entry.apply_configMaps (keeps entry member)
    have stillHeld : ∀ world : World, world.configMaps = session.world.configMaps →
        world.hasConfigMap namespaceName safeEvict.getConfigmapName = true :=
      fun world same => by rw [World.hasConfigMap, same]; exact held
    refine ⟨stillHeld _ final, ?_⟩
    rw [logged]
    intro entry member
    rcases List.mem_append.mp member with old | new
    · exact guarded entry old
    · exact .inr (stillHeld _ (sentIn entry new))).weaken (fun _ _ => id) (fun _ _ _ => id)
    fun _ _ holds => holds.2

theorem Sends.guarded {program : Api α}
    (sends : Sends program (Unrecorded namespaceName safeEvict)) :
    Triple (fun _ log => Guarded namespaceName safeEvict log) program
      (fun _ _ log => Guarded namespaceName safeEvict log)
      fun _ log => Guarded namespaceName safeEvict log :=
  sends.keeps fun _ => .inl

theorem writesConfigMap_of_untracked (request : Request) (untracked : request.tracked = false) :
    request.writesConfigMap = false := by
  cases request <;> first | rfl | cases untracked

theorem performSafeEviction_holding (outdatedNodePools : GoMap AgentPool) (safeEvict' : SafeEvict) :
    Triple (Holding namespaceName safeEvict) (performSafeEviction outdatedNodePools safeEvict')
      (fun _ => Holding namespaceName safeEvict) fun _ log => Guarded namespaceName safeEvict log :=
  (performSafeEviction_sends writesConfigMap_of_untracked _ _ fun _ _ _ _ => rfl).holding

end Holding

/-! ## The blocks -/

section Blocks

variable {observed : Observation}

theorem cleanUp_guarded :
    Triple (Holding observed.namespaceName observed.safeEvict) (cleanUp observed)
      (fun _ _ log => Guarded observed.namespaceName observed.safeEvict log)
      fun _ log => Guarded observed.namespaceName observed.safeEvict log := by
  unfold cleanUp
  refine .ite (fun _ => ?_) fun _ => .pure' fun _ _ holds => holds.2
  refine (getNodePoolByName_sends _).holding.bind fun result => ?_
  cases result with
  | error err =>
      exact .ite (fun _ => .throw' fun _ _ holds => holds.2) fun _ =>
        .pure' fun _ _ holds => holds.2
  | ok temporaryNodepool =>
  refine (disableAutoScaling_sends writesConfigMap_of_untracked _).holding.bind fun result => ?_
  cases result with
  | error err => exact .pure' fun _ _ holds => holds.2
  | ok _ =>
  refine (getNodesByNodePool_sends _).holding.bind fun result => ?_
  cases result with
  | error err => exact .pure' fun _ _ holds => holds.2
  | ok temporaryNodes =>
  refine (performSafeEviction_holding _ _).bind fun _ => ?_
  refine (hasRunningStatefulPods_sends _ _).holding.bind fun result => ?_
  cases result with
  | error err => exact .pure' fun _ _ holds => holds.2
  | ok running =>
  cases running with
  | true => exact .pure' fun _ _ holds => holds.2
  | false =>
  refine (removeTemporaryNodePool_sends writesConfigMap_of_untracked _).holding.bind
    fun result => ?_
  cases result with
  | error _ => exact .pure' fun _ _ holds => holds.2
  | ok _ =>
  have deletes : Sends (ConfigMapController.deleteConfigMap observed.namespaceName
      observed.configmapName) (Unrecorded observed.namespaceName observed.safeEvict) :=
    deleteConfigMap_sends _ _ ⟨rfl, rfl⟩
  refine (deletes.guarded.weaken (fun _ _ holds => holds.2) (fun _ _ _ => id) fun _ _ => id).bind
    fun result => ?_
  cases result <;> exact .pure' fun _ _ => id

theorem drainAndUpgrade_guarded (configMapData : GoMap String) :
    Triple (Holding observed.namespaceName observed.safeEvict)
      (drainAndUpgrade observed configMapData)
      (fun _ _ log => Guarded observed.namespaceName observed.safeEvict log)
      fun _ log => Guarded observed.namespaceName observed.safeEvict log := by
  unfold drainAndUpgrade
  refine (performSafeEviction_holding _ _).bind fun result => ?_
  cases result with
  | error err => exact .pure' fun _ _ holds => holds.2
  | ok _ =>
  refine (Sends.holding (upgradeLoop_sends _ _ fun _ _ => rfl)).bind fun result => ?_
  cases result with
  | some _ => exact .pure' fun _ _ holds => holds.2
  | none =>
  refine (Sends.of_reads (nextOrder_reads _)).holding.bind fun _ =>
    (restoreLoop_sends writesConfigMap_of_untracked _ _ _ fun _ => rfl).holding.bind
      fun result => ?_
  cases result with
  | some _ => exact .pure' fun _ _ holds => holds.2
  | none => exact cleanUp_guarded

theorem Kube.createConfigMap_guarded {namespaceName : String} {safeEvict : SafeEvict}
    (data : GoMap String) :
    Triple (fun _ log => Guarded namespaceName safeEvict log)
      (Kube.createConfigMap ⟨namespaceName, safeEvict.getConfigmapName, data⟩)
      (fun result world log => Guarded namespaceName safeEvict log ∧
        (result = .ok () → world.hasConfigMap namespaceName safeEvict.getConfigmapName = true))
      fun _ log => Guarded namespaceName safeEvict log := by
  refine mutate_triple _ _ _
    (fun _ _ _ guarded served => ⟨guarded.snoc (.inl ⟨rfl, rfl⟩), fun _ => ?_⟩)
    fun _ _ _ guarded => ⟨guarded.snoc (.inl ⟨rfl, rfl⟩), nofun⟩
  split at served
  · cases served
  · cases served
    exact World.hasConfigMap_of_mem (List.mem_append_right _ (List.mem_singleton_self _)) rfl rfl

theorem createConfigMap_guarded (data : GoMap String) :
    Triple (fun _ log => Guarded observed.namespaceName observed.safeEvict log)
      (ConfigMapController.createConfigMap observed.namespaceName observed.configmapName data)
      (fun result world log => Guarded observed.namespaceName observed.safeEvict log ∧
        (result = .ok () →
          world.hasConfigMap observed.namespaceName observed.configmapName = true))
      fun _ log => Guarded observed.namespaceName observed.safeEvict log := by
  refine (ConfigMapController.getConfigMap_found _ _).bind fun result => ?_
  cases result with
  | ok configMap =>
      refine .pure' fun _ _ ⟨guarded, found⟩ => ⟨guarded, fun _ => ?_⟩
      obtain ⟨member, sameNamespace, sameName⟩ := found _ rfl
      exact World.hasConfigMap_of_mem member sameNamespace sameName
  | error _ =>
  refine ((Kube.createConfigMap_guarded data).weaken (fun _ _ holds => holds.1) (fun _ _ _ => id)
    fun _ _ => id).bind fun result => ?_
  cases result with
  | error err => exact .pure' fun _ _ holds => ⟨holds.1, nofun⟩
  | ok _ => exact .pure' fun _ _ => id

theorem recordScaling_guarded :
    Triple (fun _ log => Guarded observed.namespaceName observed.safeEvict log)
      (recordScaling observed)
      (fun _ _ log => Guarded observed.namespaceName observed.safeEvict log)
      fun _ log => Guarded observed.namespaceName observed.safeEvict log := by
  refine (ConfigMapController.getConfigMapData_found _ _).bind fun result => ?_
  cases result with
  | ok configMapData =>
      refine .of_pre fun _ _ ⟨guarded, found⟩ =>
        (drainAndUpgrade_guarded _).of_eq ⟨?_, guarded⟩
      obtain ⟨configMap, member, sameNamespace, sameName, -⟩ := found _ rfl
      exact World.hasConfigMap_of_mem member sameNamespace sameName
  | error err =>
  refine .ite (fun _ => ?_) fun _ => .pure' fun _ _ holds => holds.1
  refine (nextOrder_reads _).triple.bind fun order => ?_
  split
  · exact .throw' fun _ _ holds => holds.1.1
  · refine ((createConfigMap_guarded _).weaken (fun _ _ holds => holds.1.1) (fun _ _ _ => id)
      fun _ _ => id).bind fun result => ?_
    cases result with
    | error err => exact .pure' fun _ _ holds => holds.1
    | ok _ =>
        exact .of_pre fun _ _ ⟨guarded, held⟩ =>
          (drainAndUpgrade_guarded _).of_eq ⟨held rfl, guarded⟩

theorem awaitTemporaryNodepool_guarded :
    Triple (fun _ log => Guarded observed.namespaceName observed.safeEvict log)
      (awaitTemporaryNodepool observed)
      (fun _ _ log => Guarded observed.namespaceName observed.safeEvict log)
      fun _ log => Guarded observed.namespaceName observed.safeEvict log := by
  refine (getNodePoolProvisioningState_triple _).bind fun result => ?_
  cases result with
  | error err => exact .pure' fun _ _ holds => holds.1
  | ok status =>
      exact .ite (fun _ => .pure' fun _ _ holds => holds.1) fun _ =>
        recordScaling_guarded.weaken (fun _ _ holds => holds.1) (fun _ _ _ => id) fun _ _ => id

theorem ensureTemporaryNodepool_guarded :
    Triple (fun _ log => Guarded observed.namespaceName observed.safeEvict log)
      (ensureTemporaryNodepool observed)
      (fun _ _ log => Guarded observed.namespaceName observed.safeEvict log)
      fun _ log => Guarded observed.namespaceName observed.safeEvict log := by
  have deletes : Sends (ConfigMapController.deleteConfigMap observed.namespaceName
      observed.configmapName) (Unrecorded observed.namespaceName observed.safeEvict) :=
    deleteConfigMap_sends _ _ ⟨rfl, rfl⟩
  have creates : Sends (createTemporaryNodePool observed.temporaryName
      observed.safeEvict.spec.baseForBackupPool)
      (Unrecorded observed.namespaceName observed.safeEvict) :=
    createTemporaryNodePool_sends _ _ fun _ => rfl
  refine (nodePoolExists_triple _).bind fun result => ?_
  cases result with
  | error err => exact .pure' fun _ _ => id
  | ok present =>
  cases present with
  | true => exact awaitTemporaryNodepool_guarded
  | false =>
  refine .ite (fun _ => deletes.guarded.bind fun result => ?_)
    fun _ => creates.guarded.bind fun result => ?_
  · cases result <;> exact .pure' fun _ _ => id
  · cases result with
    | error _ => exact .pure' fun _ _ => id
    | ok _ => exact awaitTemporaryNodepool_guarded

end Blocks

/-! ## Runs -/

/-- Every request of an invocation is guarded for the campaign it read. -/
theorem reconcile_guarded (config : Config) (namespaceName name : String) (start : World) :
    Triple (fun world log => world = start ∧ log = []) (reconcile config namespaceName name)
      (fun _ _ log => ∀ entry ∈ log, ∃ safeEvict,
        start.safeEvictNamed? namespaceName name = some safeEvict ∧
          Guards namespaceName safeEvict entry)
      fun _ log => ∀ entry ∈ log, ∃ safeEvict,
        start.safeEvictNamed? namespaceName name = some safeEvict ∧
          Guards namespaceName safeEvict entry := by
  have nothing : ∀ log : List Entry, log = [] → ∀ entry ∈ log, ∃ safeEvict,
      start.safeEvictNamed? namespaceName name = some safeEvict ∧
        Guards namespaceName safeEvict entry :=
    fun _ empty _ member => absurd (empty ▸ member) (List.not_mem_nil _)
  refine (Kube.getSafeEvict_triple _ _).bind fun result => ?_
  cases result with
  | error err => exact .pure' fun _ log holds => nothing log holds.1.2
  | ok safeEvict =>
  refine (updateNeeded_triple _).bind fun result => ?_
  cases result with
  | error err => exact .pure' fun _ log holds => nothing log holds.1.1.2
  | ok outdated =>
  obtain ⟨outdatedNodes, outdatedNodePools⟩ := outdated
  refine (getNotReadyNodePoolsLoop_triple _ _).bind fun result => ?_
  cases result with
  | error err => exact .pure' fun _ log holds => nothing log holds.1.1.1.2
  | ok notReady =>
  refine (nextOrder_reads _).triple.bind fun order => ?_
  refine Triple.of_pre fun _ _ ⟨⟨⟨⟨⟨atStart, empty⟩, found⟩, _⟩, _⟩, _⟩ => ?_
  subst atStart empty
  have guarded : Guarded namespaceName safeEvict [] := fun _ member =>
    absurd member (List.not_mem_nil _)
  have found' := found _ rfl
  exact ((@ensureTemporaryNodepool_guarded ⟨config, namespaceName, safeEvict, outdatedNodes,
    outdatedNodePools.insertAll order⟩).of_eq guarded).weaken (fun _ _ => id)
    (fun _ _ _ holds entry member => ⟨safeEvict, found', holds entry member⟩)
    fun _ _ holds entry member => ⟨safeEvict, found', holds entry member⟩

/-- In every run, whatever the servers answer and whatever order its map iterations take,
every request an invocation sends, other than a write of the temporary pool and the
creation or the deletion of the record, goes out while the scaling record of the campaign it
read exists: nothing is cordoned, evicted, rescaled or upgraded without the record a later
invocation gives the pools back from. -/
theorem run_keeps_record (config : Config) (world : World) (moves : List Move) :
    ∀ invocation ∈ (run config world moves).2, ∀ entry ∈ invocation.log, ∃ safeEvict,
      invocation.start.safeEvictNamed? invocation.namespaceName invocation.name = some safeEvict ∧
        (Unrecorded invocation.namespaceName safeEvict entry.request ∨
          entry.world.hasConfigMap invocation.namespaceName safeEvict.getConfigmapName = true) := by
  intro invocation member entry inLog
  obtain ⟨faults, orders, logged⟩ := run_invocation config world moves invocation member
  obtain ⟨safeEvict, found, guarded⟩ := (reconcile_guarded config _ _ _).finalSession_holds
    (Session.start invocation.start faults orders) ⟨rfl, rfl⟩ entry (logged ▸ inLog)
  exact ⟨safeEvict, found, guarded⟩

open Scenario in
/-- The second request of the invocation on `draining`, which switches off the autoscaling of
`pool1`, goes out while the record of `campaign` exists: the invocation created it first. -/
theorem draining_rescales_with_record :
    ∃ entry ∈ (invoke config "default" "campaign" draining [] []).log,
      entry.request = .createOrUpdatePool "pool1"
        ⟨"pool1", some { scaling "Succeeded" with enableAutoScaling := some false }⟩ ∧
      entry.world.hasConfigMap "default" campaign.getConfigmapName = true := by
  have inLog : 1 < (invoke config "default" "campaign" draining [] []).log.length := by
    rw [draining_log_length]
    decide
  have requested := draining_request? 1
  rw [List.get?_eq_get inLog, Option.map_some'] at requested
  have ran : (⟨"default", "campaign", draining,
      (invoke config "default" "campaign" draining [] []).log⟩ : Invocation) ∈
        (run config draining once).2 := by
    rw [once, run_single]
    exact List.mem_singleton_self _
  have keeps := run_keeps_record config draining once _ ran
  dsimp only at keeps
  obtain ⟨safeEvict, found, guards⟩ := keeps _ (List.get_mem _ 1 inLog)
  cases (show draining.safeEvictNamed? "default" "campaign" = some campaign from rfl).symm.trans
    found
  refine ⟨_, List.get_mem _ 1 inLog, Option.some.inj requested, guards.resolve_left ?_⟩
  rw [Option.some.inj requested]
  decide

end NodeUpdater
