import NodeUpdater.Invariant

/-! # What the reads of an invocation establish

One triple per read-only call, and from them the observation `Reconcile` starts from:
the pools it calls outdated are exactly the stale ones. -/

namespace NodeUpdater

/-! ## Maps built by insertion -/

namespace GoMap

variable {V : Type}

theorem mem_keys {m : GoMap V} {key : String} : key ∈ m.keys ↔ ∃ value, (key, value) ∈ m := by
  simp [keys]

theorem mem_insert {m : GoMap V} {key : String} {value : V} {entry : String × V}
    (member : entry ∈ m.insert key value) : entry = (key, value) ∨ entry ∈ m := by
  unfold insert at member
  split at member
  · obtain ⟨original, originalMember, rfl⟩ := List.mem_map.mp member
    split
    · exact .inl rfl
    · exact .inr originalMember
  · simpa [or_comm] using member

theorem insert_ne_nil (m : GoMap V) (key : String) (value : V) : m.insert key value ≠ [] := by
  unfold insert
  split
  · rename_i present
    obtain ⟨entry, member, -⟩ := List.any_eq_true.mp present
    simpa using List.ne_nil_of_mem member
  · simp

theorem eq_nil_of_keys {m : GoMap V} (noKey : ∀ key, key ∉ m.keys) : m = [] := by
  cases m with
  | nil => rfl
  | cons entry rest => exact absurd (List.mem_cons_self _ _) (noKey entry.1)

theorem mem_insertAll {m source : GoMap V} {entry : String × V}
    (member : entry ∈ m.insertAll source) : entry ∈ m ∨ entry ∈ source := by
  induction source generalizing m with
  | nil => exact .inl member
  | cons first rest induction =>
      rcases induction member with inserted | fromRest
      · rcases mem_insert inserted with rfl | original
        · exact .inr (List.mem_cons_self _ _)
        · exact .inl original
      · exact .inr (List.mem_cons_of_mem _ fromRest)

theorem find?_of_mem {m : GoMap V} (distinct : m.keys.Nodup) {key : String} {value : V}
    (member : (key, value) ∈ m) : m.find? key = some value := by
  induction m with
  | nil => simp at member
  | cons first rest induction =>
      obtain ⟨firstKey, firstValue⟩ := first
      simp only [keys, List.map_cons, List.nodup_cons] at distinct
      rcases List.mem_cons.mp member with same | inRest
      · cases same
        simp [find?]
      · have different : firstKey ≠ key := fun same =>
          distinct.1 (same ▸ List.mem_map_of_mem Prod.fst inRest)
        have found : GoMap.find? rest key = some value := induction distinct.2 inRest
        have skipped : (key == firstKey) = false := beq_false_of_ne (Ne.symm different)
        simpa only [find?, List.lookup_cons, skipped] using found

/-! What a loop collects, pass by pass: over `key`, it either adds the key, when it
satisfies the loop's condition, or skips it. -/

section Passes

variable {m : GoMap V} {key : String} {collected : List String} {P : String → Prop}

theorem keys_insert_cons {value : V} {rest : List String}
    (keys : ∀ name, name ∈ collected ↔
      name ∈ (m.insert key value).keys ∨ name ∈ rest ∧ P name)
    (holds : P key) :
    ∀ name, name ∈ collected ↔ name ∈ m.keys ∨ name ∈ key :: rest ∧ P name := by
  intro name
  rw [keys, mem_keys_insert, List.mem_cons]
  by_cases same : name = key
  · subst same; simp [holds]
  · simp [same, or_comm, or_left_comm]

theorem keys_skip_cons {rest : List String}
    (keys : ∀ name, name ∈ collected ↔ name ∈ m.keys ∨ name ∈ rest ∧ P name)
    (fails : ¬P key) :
    ∀ name, name ∈ collected ↔ name ∈ m.keys ∨ name ∈ key :: rest ∧ P name := by
  intro name
  rw [keys, List.mem_cons, or_and_right]
  refine or_congr_right (or_iff_right ?_).symm
  rintro ⟨rfl, holds⟩
  exact fails holds

end Passes

section PairPasses

variable {m : GoMap V} {entry : String × String} {rest : List (String × String)}
  {collected : List String} {P : String → String → Prop}

theorem keys_insert_cons_pair {value : V}
    (keys : ∀ name, name ∈ collected ↔
      name ∈ (m.insert entry.1 value).keys ∨ ∃ version, (name, version) ∈ rest ∧ P name version)
    (holds : P entry.1 entry.2) :
    ∀ name, name ∈ collected ↔
      name ∈ m.keys ∨ ∃ version, (name, version) ∈ entry :: rest ∧ P name version := by
  intro name
  rw [keys, mem_keys_insert]
  simp only [List.mem_cons, or_and_right, exists_or]
  by_cases same : name = entry.1
  · subst same; simp only [true_or, true_iff]; exact .inr (.inl ⟨entry.2, rfl, holds⟩)
  · simp [same, Prod.ext_iff]

theorem keys_skip_cons_pair
    (keys : ∀ name, name ∈ collected ↔
      name ∈ m.keys ∨ ∃ version, (name, version) ∈ rest ∧ P name version)
    (fails : ¬P entry.1 entry.2) :
    ∀ name, name ∈ collected ↔
      name ∈ m.keys ∨ ∃ version, (name, version) ∈ entry :: rest ∧ P name version := by
  intro name
  rw [keys]
  simp only [List.mem_cons, or_and_right, exists_or]
  refine or_congr_right (or_iff_right ?_).symm
  rintro ⟨version, rfl, holds⟩
  exact fails holds

end PairPasses

theorem values_insert {m collected : GoMap V} {key : String} {value : V}
    {Holds : String × V → Prop}
    (values : ∀ entry ∈ collected, entry ∈ m.insert key value ∨ Holds entry)
    (added : Holds (key, value)) : ∀ entry ∈ collected, entry ∈ m ∨ Holds entry :=
  fun entry member => (values entry member).elim
    (fun inserted => (mem_insert inserted).elim (fun same => .inr (same ▸ added)) .inl) .inr

end GoMap

theorem GoMap.insert_of_not_mem {V : Type} {m : GoMap V} {key : String} (value : V)
    (absent : key ∉ m.keys) : m.insert key value = m ++ [(key, value)] := by
  unfold GoMap.insert
  rw [if_neg]
  simpa [GoMap.keys] using absent

theorem GoMap.find?_eq_none {V : Type} {m : GoMap V} {key : String} :
    m.find? key = none ↔ key ∉ m.keys := by
  rw [GoMap.find?, List.lookup_eq_none_iff]
  simp only [GoMap.keys, List.mem_map, not_exists, not_and, bne_iff_ne, ne_eq]
  exact ⟨fun distinct entry member same => distinct entry member same.symm,
    fun distinct entry member same => distinct entry member same.symm⟩

namespace NodePoolController

/-- The images collected so far have one entry per pool, all of them monitored. -/
def ImagesWellFormed (nodePoolNames : List String) (versions : GoMap String) : Prop :=
  versions.keys.Nodup ∧ ∀ name ∈ versions.keys, name ∈ nodePoolNames

theorem recordImage_wellFormed {nodePoolNames : List String} {versions : GoMap String}
    (wellFormed : ImagesWellFormed nodePoolNames versions) (node : Node) :
    ImagesWellFormed nodePoolNames (recordImage nodePoolNames versions node) := by
  unfold recordImage
  split
  · exact wellFormed
  · rename_i nodePoolName _
    split
    · rename_i monitored
      split
      · exact wellFormed
      · split
        · exact wellFormed
        · rename_i present
          have absent : nodePoolName ∉ versions.keys :=
            GoMap.find?_eq_none.mp (Option.not_isSome_iff_eq_none.mp present)
          rw [GoMap.insert_of_not_mem _ absent]
          refine ⟨?_, fun name member => ?_⟩
          · simp only [GoMap.keys, List.map_append, List.map_cons, List.map_nil] at absent ⊢
            exact List.nodup_append.mpr ⟨wellFormed.1, List.nodup_singleton _,
              List.disjoint_singleton.mpr absent⟩
          · simp only [GoMap.keys, List.map_append, List.mem_append] at member
            rcases member with old | added
            · exact wellFormed.2 name old
            · simp only [List.map_cons, List.map_nil, List.mem_singleton] at added
              exact added ▸ monitored
    · exact wellFormed

theorem nodeImageVersions_wellFormed (nodePoolNames : List String) (nodes : List Node) :
    ImagesWellFormed nodePoolNames (nodeImageVersions nodePoolNames nodes) := by
  suffices all : ∀ versions, ImagesWellFormed nodePoolNames versions →
      ImagesWellFormed nodePoolNames (nodes.foldl (recordImage nodePoolNames) versions) from
    all [] ⟨List.nodup_nil, by simp [GoMap.keys]⟩
  induction nodes with
  | nil => exact fun _ => id
  | cons node rest induction =>
      exact fun _ wellFormed => induction _ (recordImage_wellFormed wellFormed node)

end NodePoolController

section Reads

variable {pre : Assertion} {halt : Assertion}

open NodePoolController

theorem Kube.getSafeEvict_triple (namespaceName name : String) :
    Triple pre (Kube.getSafeEvict namespaceName name) (fun result world log => pre world log ∧
      ∀ safeEvict, result = .ok safeEvict →
        world.safeEvictNamed? namespaceName name = some safeEvict) halt := by
  refine (query_triple _ _).weaken (fun _ _ => id) ?_ fun _ _ => id
  rintro result world log ⟨holds, answer⟩
  refine ⟨holds, fun safeEvict ok => ?_⟩
  have served := answer _ ok
  split at served <;> simp_all

theorem getNodeImageVersions_triple (nodePoolNames : List String) :
    Triple pre (getNodeImageVersions nodePoolNames) (fun result world log => pre world log ∧
      ∀ versions, result = .ok versions →
        versions = nodeImageVersions nodePoolNames world.nodes) halt := by
  refine (query_triple _ _).bind fun result => ?_
  cases result with
  | error err => exact .pure' fun _ _ holds => ⟨holds.1, by simp⟩
  | ok nodes =>
      refine .pure' fun _ _ holds => ⟨holds.1, fun versions ok => ?_⟩
      cases Except.ok.inj (holds.2 _ rfl)
      exact (Except.ok.inj ok).symm

theorem getNodePoolUpgradeProfile_triple (nodePoolName : String) :
    Triple pre (getNodePoolUpgradeProfile nodePoolName) (fun result world log => pre world log ∧
      ∀ latest, result = .ok latest → world.latestImage? nodePoolName = some latest) halt := by
  refine (query_triple _ _).bind fun result => ?_
  cases result with
  | error err => exact .pure' fun _ _ holds => ⟨holds.1, by simp⟩
  | ok found =>
      cases found with
      | none => exact .pure' fun _ _ holds => ⟨holds.1, by simp⟩
      | some latest =>
          refine .pure' fun world _ holds => ⟨holds.1, fun value ok => ?_⟩
          have served := holds.2 _ rfl
          cases Except.ok.inj ok
          unfold World.latestImage?
          split at served <;> simp_all

theorem getNodesByNodePool_triple (nodePoolName : String) :
    Triple pre (getNodesByNodePool nodePoolName) (fun result world log => pre world log ∧
      ∀ nodes, result = .ok nodes → nodes = world.nodes.filter (·.agentPool == some nodePoolName))
      halt := by
  refine (query_triple _ _).bind fun result => ?_
  cases result with
  | error err => exact .pure' fun _ _ holds => ⟨holds.1, by simp⟩
  | ok nodes =>
      refine .pure' fun _ _ holds => ⟨holds.1, fun value ok => ?_⟩
      cases Except.ok.inj (holds.2 _ rfl)
      exact (Except.ok.inj ok).symm

theorem agentPool_of_get {world : World} {name : String} {agentPool : AgentPool}
    (served : (match world.poolNamed? name with
      | some cloudPool => Except.ok cloudPool.agentPool
      | none => Except.error AgentPoolClient.notFound) = .ok agentPool) :
    (world.poolNamed? name).map (·.agentPool) = some agentPool := by
  split at served <;> simp_all

theorem getNodePoolByName_triple (nodePoolName : String) :
    Triple pre (getNodePoolByName nodePoolName) (fun result world log => pre world log ∧
      ∀ agentPool, result = .ok agentPool →
        (world.poolNamed? nodePoolName).map (·.agentPool) = some agentPool) halt := by
  refine (query_triple _ _).bind fun result => ?_
  cases result with
  | error err =>
      exact .ite (fun _ => .pure' fun _ _ holds => ⟨holds.1, by simp⟩)
        fun _ => .pure' fun _ _ holds => ⟨holds.1, by simp⟩
  | ok agentPool =>
      refine .pure' fun _ _ holds => ⟨holds.1, fun value ok => ?_⟩
      cases Except.ok.inj ok
      exact agentPool_of_get (holds.2 _ rfl)

theorem getNodePoolProvisioningState_triple (nodePoolName : String) :
    Triple pre (getNodePoolProvisioningState nodePoolName) (fun result world log =>
      pre world log ∧ ∀ state, result = .ok state →
        world.provisioningState? nodePoolName = some state) halt := by
  refine (query_triple _ _).bind fun result => ?_
  cases result with
  | error err => exact .pure' fun _ _ holds => ⟨holds.1, by simp⟩
  | ok agentPool =>
      dsimp only
      split
      · rename_i state found
        refine .pure' fun world _ holds => ⟨holds.1, fun value ok => ?_⟩
        cases Except.ok.inj ok
        have pool := agentPool_of_get (holds.2 _ rfl)
        unfold World.provisioningState?
        cases named : world.poolNamed? nodePoolName <;> simp_all
      · exact .pure' fun _ _ holds => ⟨holds.1, by simp⟩

theorem nodePoolExists_triple (nodePoolName : String) :
    Triple pre (nodePoolExists nodePoolName) (fun _ => pre) halt := by
  refine (query_triple _ _).bind fun result => ?_
  cases result with
  | ok _ => exact .pure' fun _ _ holds => holds.1
  | error err =>
      exact .ite (fun _ => .pure' fun _ _ holds => holds.1)
        fun _ => .pure' fun _ _ holds => holds.1

theorem hasRunningStatefulPods_triple (nodes : List Node) (namespaces : List String) :
    Triple pre (hasRunningStatefulPods nodes namespaces) (fun result world log => pre world log ∧
      (result = .ok false → ∀ pod ∈ world.pods, pod.namespaceName ∈ namespaces →
        pod.phase = "Running" → ∀ node ∈ nodes, node.name ≠ pod.nodeName)) halt := by
  induction namespaces generalizing pre with
  | nil => exact .pure' fun _ _ holds => ⟨holds, by simp⟩
  | cons namespaceName rest induction =>
      refine (query_triple _ _).bind fun result => ?_
      cases result with
      | error err => exact .pure' fun _ _ holds => ⟨holds.1, by simp⟩
      | ok pods =>
          refine .ite (fun _ => .pure' fun _ _ holds => ⟨holds.1, by simp⟩) fun free => ?_
          refine induction.weaken (fun _ _ => id) ?_ fun _ _ => id
          rintro result world log ⟨⟨holds, listed⟩, restFree⟩
          refine ⟨holds, fun notRunning pod member inNamespaces running node onNodes same => ?_⟩
          have listing := Except.ok.inj (listed _ rfl)
          rcases List.mem_cons.mp inNamespaces with inFirst | inRest
          · apply free
            rw [← listing, List.any_eq_true]
            refine ⟨pod, List.mem_filter.mpr ⟨member, by simp [inFirst]⟩, ?_⟩
            simpa [running] using ⟨node, onNodes, same⟩
          · exact restFree notRunning pod member inRest running node onNodes same

theorem ConfigMapController.getConfigMap_triple (namespaceName name : String) :
    Triple pre (ConfigMapController.getConfigMap namespaceName name) (fun _ => pre) halt := by
  refine (query_triple _ _).bind fun result => ?_
  cases result with
  | ok _ => exact .pure' fun _ _ holds => holds.1
  | error err =>
      exact .ite (fun _ => .pure' fun _ _ holds => holds.1)
        fun _ => .pure' fun _ _ holds => holds.1

theorem ConfigMapController.getConfigMapData_triple (namespaceName name : String) :
    Triple pre (ConfigMapController.getConfigMapData namespaceName name) (fun _ => pre) halt := by
  refine (getConfigMap_triple _ _).bind fun result => ?_
  cases result with
  | ok _ => exact .pure' fun _ _ holds => holds
  | error err =>
      exact .ite (fun _ => .pure' fun _ _ holds => holds)
        fun _ => .pure' fun _ _ holds => holds

theorem ConfigMapController.getConfigMap_found (namespaceName name : String) :
    Triple pre (ConfigMapController.getConfigMap namespaceName name) (fun result world log =>
      pre world log ∧ ∀ configMap, result = .ok configMap → configMap ∈ world.configMaps ∧
        configMap.namespaceName = namespaceName ∧ configMap.name = name) halt := by
  refine (query_triple _ _).bind fun result => ?_
  cases result with
  | ok configMap =>
      refine .pure' fun world _ holds => ⟨holds.1, fun found same => ?_⟩
      cases same
      have served := holds.2 _ rfl
      split at served
      · rename_i lookup
        cases served
        have named := List.find?_some lookup
        simp only [Bool.and_eq_true, beq_iff_eq] at named
        exact ⟨List.mem_of_find?_eq_some lookup, named⟩
      · cases served
  | error err =>
      exact .ite (fun _ => .pure' fun _ _ holds => ⟨holds.1, by simp⟩)
        fun _ => .pure' fun _ _ holds => ⟨holds.1, by simp⟩

theorem ConfigMapController.getConfigMapData_found (namespaceName name : String) :
    Triple pre (ConfigMapController.getConfigMapData namespaceName name) (fun result world log =>
      pre world log ∧ ∀ data, result = .ok data → ∃ configMap ∈ world.configMaps,
        configMap.namespaceName = namespaceName ∧ configMap.name = name ∧
          configMap.data = data) halt := by
  refine (getConfigMap_found _ _).bind fun result => ?_
  cases result with
  | ok configMap =>
      refine .pure' fun _ _ holds => ⟨holds.1, fun data same => ?_⟩
      cases same
      obtain ⟨member, sameNamespace, sameName⟩ := holds.2 _ rfl
      exact ⟨configMap, member, sameNamespace, sameName, rfl⟩
  | error err =>
      exact .ite (fun _ => .pure' fun _ _ holds => ⟨holds.1, by simp⟩)
        fun _ => .pure' fun _ _ holds => ⟨holds.1, by simp⟩

/-! ## The observation `Reconcile` starts from -/

theorem World.provisioningState?_of_pool {world : World} {name : String} {agentPool : AgentPool}
    (found : (world.poolNamed? name).map (·.agentPool) = some agentPool) :
    world.provisioningState? name = agentPool.properties.bind (·.provisioningState) := by
  unfold World.provisioningState?
  cases named : world.poolNamed? name <;> simp_all

/-- The loop of `UpdateNeeded` adds exactly the pools whose image is not the latest,
each as the world holds it. -/
theorem updateNeededLoop_triple (entries : GoMap String) (outdatedNodes : GoMap Node)
    (outdatedNodePools : GoMap AgentPool) :
    Triple pre (updateNeededLoop entries outdatedNodes outdatedNodePools)
      (fun result world log => pre world log ∧ ∀ nodes pools, result = .ok (nodes, pools) →
        (∀ name, name ∈ pools.keys ↔ name ∈ outdatedNodePools.keys ∨
          ∃ version, (name, version) ∈ entries ∧
            ∃ latest, world.latestImage? name = some latest ∧ version ≠ latest) ∧
        ∀ entry ∈ pools, entry ∈ outdatedNodePools ∨
          (world.poolNamed? entry.1).map (·.agentPool) = some entry.2) halt := by
  induction entries generalizing outdatedNodes outdatedNodePools pre with
  | nil =>
      refine .pure' fun _ _ holds => ⟨holds, fun nodes pools ok => ?_⟩
      cases ok
      exact ⟨fun _ => by simp, fun _ member => .inl member⟩
  | cons entry rest induction =>
      obtain ⟨nodepoolName, nodeImageVersion⟩ := entry
      refine (getNodePoolUpgradeProfile_triple _).bind fun result => ?_
      cases result with
      | error err => exact .pure' fun _ _ holds => ⟨holds.1, by simp⟩
      | ok latest =>
      refine (getNodesByNodePool_triple _).bind fun result => ?_
      cases result with
      | error err => exact .pure' fun _ _ holds => ⟨holds.1.1, by simp⟩
      | ok nodes =>
      refine .ite (fun outdated => ?_) fun current => ?_
      · refine (getNodePoolByName_triple _).bind fun result => ?_
        cases result with
        | error err => exact .pure' fun _ _ holds => ⟨holds.1.1.1, by simp⟩
        | ok nodePool =>
        refine (induction _ _).weaken (fun _ _ => id) ?_ fun _ _ => id
        rintro result world log ⟨⟨⟨⟨holds, latestFound⟩, -⟩, poolFound⟩, restSpec⟩
        refine ⟨holds, fun nodes pools ok => ?_⟩
        obtain ⟨keys, values⟩ := restSpec nodes pools ok
        exact ⟨GoMap.keys_insert_cons_pair keys ⟨latest, latestFound _ rfl, outdated⟩,
          GoMap.values_insert values (poolFound _ rfl)⟩
      · refine (induction _ _).weaken (fun _ _ => id) ?_ fun _ _ => id
        rintro result world log ⟨⟨⟨holds, latestFound⟩, -⟩, restSpec⟩
        refine ⟨holds, fun nodes pools ok => ?_⟩
        obtain ⟨keys, values⟩ := restSpec nodes pools ok
        refine ⟨GoMap.keys_skip_cons_pair keys ?_, values⟩
        rintro ⟨other, otherFound, differs⟩
        rw [latestFound _ rfl] at otherFound
        cases otherFound
        exact differs (not_not.mp current)

theorem updateNeeded_triple (nodePoolNames : List String) :
    Triple pre (updateNeeded nodePoolNames) (fun result world log => pre world log ∧
      ∀ nodes pools, result = .ok (nodes, pools) →
        (∀ name, name ∈ pools.keys ↔ world.ImageOutdated nodePoolNames name) ∧
        ∀ entry ∈ pools, (world.poolNamed? entry.1).map (·.agentPool) = some entry.2) halt := by
  refine (getNodeImageVersions_triple _).bind fun result => ?_
  cases result with
  | error err => exact .pure' fun _ _ holds => ⟨holds.1, by simp⟩
  | ok versions =>
  refine (nextOrder_reads _).triple.bind fun order => ?_
  refine (updateNeededLoop_triple _ _ _).weaken (fun _ _ => id) ?_ fun _ _ => id
  rintro result world log ⟨⟨⟨holds, versionsAre⟩, permuted⟩, loopSpec⟩
  refine ⟨holds, fun nodes pools ok => ?_⟩
  obtain ⟨keys, values⟩ := loopSpec nodes pools ok
  cases versionsAre _ rfl
  have distinct := (nodeImageVersions_wellFormed nodePoolNames world.nodes).1
  refine ⟨fun name => ?_, fun entry member => (values entry member).resolve_left (by simp)⟩
  rw [keys]
  simp only [GoMap.keys, List.map_nil, List.not_mem_nil, false_or, World.ImageOutdated]
  refine exists_congr fun version => and_congr_left fun _ => ?_
  rw [permuted.mem_iff]
  exact ⟨GoMap.find?_of_mem distinct, GoMap.mem_of_find?⟩

theorem updateNeededLoop_nodes (entries : GoMap String) (outdatedNodes : GoMap Node)
    (outdatedNodePools : GoMap AgentPool) :
    Triple pre (updateNeededLoop entries outdatedNodes outdatedNodePools)
      (fun result world log => pre world log ∧ ∀ nodes, result = .ok (nodes, []) →
        nodes = outdatedNodes ∧ outdatedNodePools = []) halt := by
  induction entries generalizing outdatedNodes outdatedNodePools pre with
  | nil => exact .pure' fun _ _ holds => ⟨holds, fun nodes ok => by cases ok; exact ⟨rfl, rfl⟩⟩
  | cons entry rest induction =>
      obtain ⟨nodepoolName, nodeImageVersion⟩ := entry
      refine (getNodePoolUpgradeProfile_triple _).bind fun result => ?_
      cases result with
      | error err => exact .pure' fun _ _ holds => ⟨holds.1, by simp⟩
      | ok latest =>
      refine (getNodesByNodePool_triple _).bind fun result => ?_
      cases result with
      | error err => exact .pure' fun _ _ holds => ⟨holds.1.1, by simp⟩
      | ok nodes =>
      refine .ite (fun _ => ?_) fun _ => ?_
      · refine (getNodePoolByName_triple _).bind fun result => ?_
        cases result with
        | error err => exact .pure' fun _ _ holds => ⟨holds.1.1.1, by simp⟩
        | ok nodePool =>
        refine (induction _ _).weaken (fun _ _ => id) ?_ fun _ _ => id
        rintro result world log ⟨holds, restSpec⟩
        exact ⟨holds.1.1.1, fun nodes ok =>
          absurd (restSpec nodes ok).2 (GoMap.insert_ne_nil _ _ _)⟩
      · refine (induction _ _).weaken (fun _ _ => id) ?_ fun _ _ => id
        rintro result world log ⟨holds, restSpec⟩
        exact ⟨holds.1.1, restSpec⟩

theorem updateNeeded_nodes (nodePoolNames : List String) :
    Triple pre (updateNeeded nodePoolNames) (fun result world log => pre world log ∧
      ∀ nodes, result = .ok (nodes, []) → nodes = []) halt := by
  refine (getNodeImageVersions_triple _).bind fun result => ?_
  cases result with
  | error err => exact .pure' fun _ _ holds => ⟨holds.1, by simp⟩
  | ok versions =>
  refine (nextOrder_reads _).triple.bind fun order => ?_
  exact (updateNeededLoop_nodes _ _ _).weaken (fun _ _ => id)
    (fun _ _ _ holds => ⟨holds.1.1.1, fun nodes ok => (holds.2 nodes ok).1⟩) fun _ _ => id

/-- The loop of `GetNotReadyNodePools` adds exactly the pools in a provisioning state
other than `Succeeded`, each as the world holds it. -/
theorem getNotReadyNodePoolsLoop_triple (nodepools : List String)
    (notReadyNodePools : GoMap AgentPool) :
    Triple pre (getNotReadyNodePoolsLoop nodepools notReadyNodePools)
      (fun result world log => pre world log ∧ ∀ pools, result = .ok pools →
        (∀ name, name ∈ pools.keys ↔ name ∈ notReadyNodePools.keys ∨ name ∈ nodepools ∧
          ∃ state, world.provisioningState? name = some state ∧ state ≠ "Succeeded") ∧
        ∀ entry ∈ pools, entry ∈ notReadyNodePools ∨
          (world.poolNamed? entry.1).map (·.agentPool) = some entry.2) halt := by
  induction nodepools generalizing notReadyNodePools pre with
  | nil =>
      refine .pure' fun _ _ holds => ⟨holds, fun pools ok => ?_⟩
      cases ok
      exact ⟨fun _ => by simp, fun _ member => .inl member⟩
  | cons nodepoolName rest induction =>
      refine (getNodePoolByName_triple _).bind fun result => ?_
      cases result with
      | error err => exact .pure' fun _ _ holds => ⟨holds.1, by simp⟩
      | ok nodePool =>
      dsimp only
      split
      · rename_i state found
        refine .ite (fun notReady => ?_) fun ready => ?_
        · refine (induction _).weaken (fun _ _ => id) ?_ fun _ _ => id
          rintro result world log ⟨⟨holds, poolFound⟩, restSpec⟩
          refine ⟨holds, fun pools ok => ?_⟩
          obtain ⟨keys, values⟩ := restSpec pools ok
          have stateIs := World.provisioningState?_of_pool (poolFound _ rfl)
          exact ⟨GoMap.keys_insert_cons keys ⟨state, stateIs.trans found, notReady⟩,
            GoMap.values_insert values (poolFound _ rfl)⟩
        · refine (induction _).weaken (fun _ _ => id) ?_ fun _ _ => id
          rintro result world log ⟨⟨holds, poolFound⟩, restSpec⟩
          refine ⟨holds, fun pools ok => ?_⟩
          obtain ⟨keys, values⟩ := restSpec pools ok
          refine ⟨GoMap.keys_skip_cons keys ?_, values⟩
          rintro ⟨other, otherFound, differs⟩
          rw [World.provisioningState?_of_pool (poolFound _ rfl), found] at otherFound
          cases otherFound
          exact differs (not_not.mp ready)
      · rename_i noState
        refine (induction _).weaken (fun _ _ => id) ?_ fun _ _ => id
        rintro result world log ⟨⟨holds, poolFound⟩, restSpec⟩
        refine ⟨holds, fun pools ok => ?_⟩
        obtain ⟨keys, values⟩ := restSpec pools ok
        refine ⟨GoMap.keys_skip_cons keys ?_, values⟩
        rintro ⟨other, otherFound, -⟩
        rw [World.provisioningState?_of_pool (poolFound _ rfl), noState] at otherFound
        cases otherFound

/-! ## Which pods the pod controller selects -/

theorem World.podWithKey?_of_mem {world : World} {pod : Pod} (member : pod ∈ world.pods) :
    world.podWithKey? pod.namespaceName pod.name = some pod := by
  unfold World.podWithKey?
  cases found : world.pods.find? (·.key == (pod.namespaceName, pod.name)) with
  | none =>
      rw [List.find?_eq_none] at found
      exact absurd (by simp [Pod.key]) (found pod member)
  | some other =>
      have sameKey : other.key = pod.key := by simpa [Pod.key] using List.find?_some found
      rw [List.inj_on_of_nodup_map world.podKeys_nodup (List.mem_of_find?_eq_some found) member
        sameKey]

open PodController in
theorem PodController.fetchPodLogs_triple (podName namespaceName : String) :
    Triple pre (fetchPodLogs podName namespaceName) (fun result world log => pre world log ∧
      ∀ logs, result = .ok logs →
        (world.podWithKey? namespaceName podName).map (·.log) = some logs) halt := by
  refine (query_triple _ _).bind fun result => ?_
  cases result with
  | error err => exact .pure' fun _ _ holds => ⟨holds.1, by simp⟩
  | ok logs =>
      refine .pure' fun world _ holds => ⟨holds.1, fun value ok => ?_⟩
      have served := holds.2 _ rfl
      cases Except.ok.inj ok
      split at served <;> simp_all

/-- What the selector loop appends is the pod itself, once per selector entry it does
not match while `Running`, when its log ends with a sentinel. -/
def Selected (spec : SafeEvictSpec) (world : World) (entries : GoMap String) (pod : Pod) : Prop :=
  pod.phase = "Running" ∧ (∃ entry ∈ entries, (pod.labels.find? entry.1).getD "" ≠ entry.2) ∧
    ∃ logs, (world.podWithKey? pod.namespaceName pod.name).map (·.log) = some logs ∧
      spec.lastLogLines.any (hasSuffix logs) = true

theorem Selected.cons {spec : SafeEvictSpec} {world : World} {entries : GoMap String} {pod : Pod}
    (selected : Selected spec world entries pod) (entry : String × String) :
    Selected spec world (entry :: entries) pod := by
  obtain ⟨running, ⟨other, member, differs⟩, logs⟩ := selected
  exact ⟨running, ⟨other, List.mem_cons_of_mem _ member, differs⟩, logs⟩

open PodController in
theorem PodController.selectorLoop_triple (spec : SafeEvictSpec) (pod : Pod)
    (entries : GoMap String) :
    Triple pre (selectorLoop spec pod entries) (fun result world log => pre world log ∧
      ∀ selected ∈ result, selected = pod ∧ Selected spec world entries pod) halt := by
  induction entries generalizing pre with
  | nil => exact .pure' fun _ _ holds => ⟨holds, by simp⟩
  | cons entry rest induction =>
      obtain ⟨key, value⟩ := entry
      have fromRest : ∀ (result : List Pod) world log, (pre world log ∧ ∀ selected ∈ result,
          selected = pod ∧ Selected spec world rest pod) →
          pre world log ∧ ∀ selected ∈ result,
            selected = pod ∧ Selected spec world ((key, value) :: rest) pod := by
        rintro result world log ⟨holds, selected⟩
        exact ⟨holds, fun other member =>
          ⟨(selected other member).1, (selected other member).2.cons _⟩⟩
      refine .ite (fun mismatched => ?_) fun _ => induction.weaken (fun _ _ => id) fromRest
        fun _ _ => id
      refine (fetchPodLogs_triple _ _).bind fun result => ?_
      cases result with
      | error err =>
          exact induction.weaken (fun _ _ holds => holds.1) fromRest fun _ _ => id
      | ok logs =>
      refine induction.bind fun others => .pure' ?_
      rintro world log ⟨⟨holds, logsFound⟩, selected⟩
      refine ⟨holds, fun other member => ?_⟩
      rcases List.mem_append.mp member with appended | fromOthers
      · split at appended
        · rename_i sentinel
          cases List.mem_singleton.mp appended
          exact ⟨rfl, mismatched.2, ⟨_, List.mem_cons_self _ _, mismatched.1⟩, logs,
            logsFound _ rfl, sentinel⟩
        · simp at appended
      · exact ⟨(selected other fromOthers).1, (selected other fromOthers).2.cons _⟩

open PodController in
theorem PodController.filterPods_triple (spec : SafeEvictSpec) (pods : List Pod) :
    Triple pre (filterPods spec pods) (fun result world log => pre world log ∧
      ∀ selected ∈ result, selected ∈ pods ∧ selected.namespaceName ∈ spec.namespaces ∧
        Selected spec world spec.labelSelector selected) halt := by
  induction pods generalizing pre with
  | nil => exact .pure' fun _ _ holds => ⟨holds, by simp⟩
  | cons pod rest induction =>
      refine .ite (fun inNamespaces => ?_) fun _ => induction.weaken (fun _ _ => id)
        (fun _ _ _ ⟨holds, selected⟩ => ⟨holds, fun other member =>
          ⟨List.mem_cons_of_mem _ (selected other member).1, (selected other member).2⟩⟩)
        fun _ _ => id
      refine (nextOrder_reads _).triple.bind fun order => ?_
      refine (selectorLoop_triple _ _ _).bind fun selected => ?_
      refine induction.bind fun others => .pure' ?_
      rintro world log ⟨⟨⟨holds, permuted⟩, selectedSpec⟩, othersSpec⟩
      refine ⟨holds, fun other member => ?_⟩
      rcases List.mem_append.mp member with fromPod | fromOthers
      · obtain ⟨rfl, running, ⟨entry, entryMember, differs⟩, logs⟩ := selectedSpec other fromPod
        exact ⟨List.mem_cons_self _ _, inNamespaces,
          running, ⟨entry, permuted.subset entryMember, differs⟩, logs⟩
      · obtain ⟨member, rest⟩ := othersSpec other fromOthers
        exact ⟨List.mem_cons_of_mem _ member, rest⟩

theorem PodController.getSafeToEvictPods_triple (spec : SafeEvictSpec) :
    Triple pre (PodController.getSafeToEvictPods spec) (fun result world log => pre world log ∧
      ∀ pods, result = .ok pods → ∀ pod ∈ pods, pod ∈ world.pods ∧ Idle spec pod) halt := by
  refine (query_triple _ _).bind fun result => ?_
  cases result with
  | error err => exact .pure' fun _ _ holds => ⟨holds.1, by simp⟩
  | ok listed =>
  refine (filterPods_triple _ _).bind fun selected => .pure' ?_
  rintro world log ⟨⟨holds, listing⟩, selectedSpec⟩
  refine ⟨holds, fun pods ok pod member => ?_⟩
  cases Except.ok.inj ok
  obtain ⟨listedMember, inNamespaces, running, mismatch, logs, logsFound, sentinel⟩ :=
    selectedSpec pod member
  have worldMember : pod ∈ world.pods := by
    have := Except.ok.inj (listing _ rfl)
    rw [← this] at listedMember
    exact (List.mem_filter.mp listedMember).1
  rw [World.podWithKey?_of_mem worldMember] at logsFound
  cases Option.some.inj logsFound
  obtain ⟨line, lineMember, suffix⟩ := List.any_eq_true.mp sentinel
  exact ⟨worldMember, inNamespaces, running, mismatch, line, lineMember, suffix⟩

theorem PodController.getPodsPool_triple (podName namespaceName : String) :
    Triple pre (PodController.getPodsPool podName namespaceName) (fun result world log =>
      pre world log ∧ ∀ poolName, result = .ok poolName → ∃ pod,
        world.podWithKey? namespaceName podName = some pod ∧
          PodController.azpPool pod = some poolName) halt := by
  refine (query_triple _ _).bind fun result => ?_
  cases result with
  | error err => exact .pure' fun _ _ holds => ⟨holds.1, by simp⟩
  | ok pod =>
      dsimp only
      split
      · rename_i poolName found
        refine .pure' fun world _ holds => ⟨holds.1, fun value ok => ⟨pod, ?_, ?_⟩⟩
        · have served := holds.2 _ rfl
          split at served <;> simp_all
        · cases Except.ok.inj ok
          exact found
      · exact .pure' fun _ _ holds => ⟨holds.1, by simp⟩

theorem AzureDevopsController.getPoolIDFromName_triple (poolName : String) :
    Triple pre (AzureDevopsController.getPoolIDFromName poolName) (fun result world log =>
      pre world log ∧ ∀ poolID, result = .ok poolID →
        (world.devopsPools.find? (·.name == poolName)).map (·.id) = some poolID) halt := by
  refine (Devops.get_reads _).triple.bind fun result => ?_
  cases result with
  | error err => exact .pure' fun _ _ holds => ⟨holds.1, by simp⟩
  | ok answer =>
      obtain ⟨statusCode, pools⟩ := answer
      refine .ite (fun _ => .pure' fun _ _ holds => ⟨holds.1, by simp⟩) fun _ => ?_
      dsimp only
      split
      · rename_i pool found
        refine .pure' fun world _ holds => ⟨holds.1, fun value ok => ?_⟩
        cases Except.ok.inj ok
        rw [← holds.2 _ _ rfl, found]
        rfl
      · exact .pure' fun _ _ holds => ⟨holds.1, by simp⟩

end Reads

end NodeUpdater
