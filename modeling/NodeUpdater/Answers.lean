import NodeUpdater.Safety

/-! # Failure answers of the agent-pool client

A 409 to a write of `DisableAutoScaling` counts as success and ends its loop; a 404 is
an `azcore.ResponseError` that `apierrors.IsNotFound` does not recognise. -/

namespace NodeUpdater

/-! ## A conflict ends `DisableAutoScaling` -/

theorem pickOrder_pair {α : Type} (choices : List Nat) (first second : α) :
    pickOrder choices [first, second] = [first, second] ∨
      pickOrder choices [first, second] = [second, first] := by
  have single : ∀ (choices : List Nat) (only : α), pickOrder choices [only] = [only] := by
    intro choices only
    cases choices with
    | nil => rfl
    | cons choice choices =>
        simp only [pickOrder, List.length_nil, Nat.zero_add, Nat.mod_one]
        cases choices <;> rfl
  cases choices with
  | nil => exact .inl rfl
  | cons choice choices =>
      rcases Nat.mod_two_eq_zero_or_one choice with even | odd
      · left
        simp [pickOrder, even, single]
      · right
        simp [pickOrder, odd, single]

namespace Scenario

/-- Two user pools of `pool1`'s shape, both `Succeeded`. -/
def twoUserPools : World where
  safeEvicts := []
  pools := [pool "pool1" "Succeeded" "v2", pool "pool2" "Succeeded" "v2"]
  nodes := []
  pods := []
  jobs := []
  configMaps := []
  devopsPools := []
  agents := []
  nodeNames_nodup := by decide
  podKeys_nodup := by decide

/-- The outdated pools `Reconcile` hands to `DisableAutoScaling` for them. -/
def userPools : GoMap AgentPool :=
  [("pool1", (pool "pool1" "Succeeded" "v2").agentPool),
    ("pool2", (pool "pool2" "Succeeded" "v2").agentPool)]

end Scenario

open Scenario

/-- Two pools to disable, and a conflict on the first write: whichever pool the `range`
visits first, `DisableAutoScaling` returns nil after that one refused write, and the
other pool is never written and keeps autoscaling. -/
theorem conflict_leaves_other_pool_autoscaled (orders : List (List Nat)) :
    ∃ after, NodePoolController.disableAutoScaling userPools
        (Session.start twoUserPools [.conflict] orders) = .ok (.ok ()) after ∧
      after.world = twoUserPools ∧ after.log.map (·.accepted) = [false] := by
  cases orders with
  | nil => exact ⟨_, rfl, rfl, rfl⟩
  | cons choices rest =>
      have visit : NodePoolController.disableAutoScaling userPools
          (Session.start twoUserPools [.conflict] (choices :: rest)) =
          NodePoolController.disableAutoScalingLoop (pickOrder choices userPools)
            ⟨twoUserPools, [.conflict], rest, []⟩ := rfl
      obtain order | order := pickOrder_pair choices
        ("pool1", (pool "pool1" "Succeeded" "v2").agentPool)
        ("pool2", (pool "pool2" "Succeeded" "v2").agentPool)
      all_goals
        rw [visit, userPools, order]
        exact ⟨_, rfl, rfl, rfl⟩

/-! ## A temporary pool that has gone -/

/-- The errors of the agent-pool client are Azure response errors, never a Kubernetes
not-found. -/
theorem AgentPoolClient.get_isNotFound {name : String} {session after : Session}
    {err : GoError} (answer : AgentPoolClient.get name session = .ok (.error err) after) :
    err.isNotFound = false := by
  unfold AgentPoolClient.get query outcome at answer
  split at answer
  rename_i fault rest _
  injection answer with result
  cases fault <;> simp only [if_true, if_false, reduceCtorEq] at result <;>
    (try split at result) <;> cases result <;> rfl

/-- The clean-up reads the temporary pool before it uses it. When the read answers no pool,
whatever the answer and whatever happened to the pool since the existence check, the
invocation ends with that error, sends nothing and does not panic. -/
theorem cleanUp_surfaces_missing_temporary (observed : Observation) (session : Session)
    (upToDate : observed.upToDate = true) (err : GoError) (after : Session)
    (missing : AgentPoolClient.get observed.temporaryName session = .ok (.error err) after) :
    SafeEvictReconciler.cleanUp observed session =
      .ok (observed.failed (some (err.flatten
        ("unable to get node pool '" ++ observed.temporaryName ++ "': ")))) after := by
  have notFound := AgentPoolClient.get_isNotFound missing
  have read : NodePoolController.getNodePoolByName observed.temporaryName session =
      .ok (.error (err.flatten ("unable to get node pool '" ++ observed.temporaryName ++ "': ")))
        after := by
    simp only [NodePoolController.getNodePoolByName, bind, EStateM.bind, missing, notFound,
      if_false]
    rfl
  simp only [SafeEvictReconciler.cleanUp, upToDate, if_true, bind, EStateM.bind, read,
    GoError.isNotFound_flatten, if_false]
  rfl

/-- The temporary pool of `draining` is deleted between the existence check and the read
of the clean-up: the read answers 404, and the invocation reports it. -/
theorem vanished_temporary_surfaced :
    Observation.upToDate ⟨config, "default", campaign, [], []⟩ = true ∧
      AgentPoolClient.get "tmppool1" (Session.start draining [.notFound] []) =
        .ok (.error (AgentPoolClient.failure .notFound)) (Session.start draining [] []) ∧
      SafeEvictReconciler.cleanUp ⟨config, "default", campaign, [], []⟩
          (Session.start draining [.notFound] []) =
        .ok (Observation.failed ⟨config, "default", campaign, [], []⟩
          (some ((AgentPoolClient.failure .notFound).flatten
            ("unable to get node pool '" ++ "tmppool1" ++ "': "))))
          (Session.start draining [] []) :=
  ⟨rfl, rfl, cleanUp_surfaces_missing_temporary ⟨config, "default", campaign, [], []⟩
    (Session.start draining [.notFound] []) rfl _ _ rfl⟩

end NodeUpdater
