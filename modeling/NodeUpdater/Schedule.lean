import NodeUpdater.Panics

/-! # When `Reconcile` asks to run again

The delay and error each invocation returns; the long wait only when nothing monitored
was outdated in the world it started from. -/

namespace NodeUpdater

/-- Every value `program` returns, from any session, satisfies `spec`. A panic returns
nothing. -/
def Returns {α : Type} (program : Api α) (spec : α → Prop) : Prop :=
  ∀ session value after, program session = .ok value after → spec value

namespace Returns

variable {α β : Type} {spec : β → Prop}

theorem andThen {program : Api α} {next : α → Api β} {middle : α → Prop}
    (first : Returns program middle) (rest : ∀ value, middle value → Returns (next value) spec) :
    Returns (program >>= next) spec := by
  intro session value after returned
  change EStateM.bind program next session = _ at returned
  unfold EStateM.bind at returned
  split at returned
  · rename_i middleValue _ firstReturned
    exact rest middleValue (first _ _ _ firstReturned) _ _ _ returned
  · cases returned

theorem bind {program : Api α} {next : α → Api β} (rest : ∀ value, Returns (next value) spec) :
    Returns (program >>= next) spec :=
  andThen (show Returns program fun _ => True from fun _ _ _ _ => trivial) fun value _ =>
    rest value

theorem pure' {value : β} (holds : spec value) : Returns (pure value) spec := by
  rintro _ _ _ ⟨⟩
  exact holds

theorem ite {condition : Prop} [Decidable condition] {yes no : Api β}
    (whenYes : condition → Returns yes spec) (whenNo : ¬condition → Returns no spec) :
    Returns (if condition then yes else no) spec := by
  by_cases holds : condition
  · simpa [holds] using whenYes holds
  · simpa [holds] using whenNo holds

theorem throw' {message : String} : Returns (throw message : Api β) spec := by
  rintro _ _ _ ⟨⟩

theorem pure_some {γ : Type} {value : γ} {spec : γ → Prop} (holds : spec value) :
    Returns (pure (some value)) fun returned => ∀ result ∈ returned, spec result :=
  pure' fun _ returned => Option.mem_some_iff.mp returned ▸ holds

theorem weaken {program : Api β} {spec' : β → Prop} (returns : Returns program spec)
    (implies : ∀ value, spec value → spec' value) : Returns program spec' :=
  fun session value after returned => implies value (returns session value after returned)

theorem triple {program : Api β} {pre : Assertion} (returns : Returns program spec) :
    Triple pre program (fun value _ _ => spec value) fun _ _ => True := by
  intro session _
  cases returned : program session with
  | ok value after => exact returns session value after returned
  | error _ _ => trivial

end Returns

open SafeEvictReconciler

/-- The results of `Reconcile` while work is pending: a retry after `ErrorReconcileTime`,
or a wait of `SuccessReconcileTime` with a nil error. -/
def Pending (config : Config) (result : ReconcileResult) : Prop :=
  result.requeueAfter = config.errorReconcileTime ∨ result = ⟨config.successReconcileTime, none⟩

namespace Observation

variable (observed : Observation)

theorem failed_pending (err : Option GoError) : Pending observed.config (observed.failed err) :=
  .inl rfl

theorem progressing_pending : Pending observed.config observed.progressing :=
  .inr rfl

end Observation

section Blocks

variable (observed : Observation)

theorem upgradeLoop_pending (nodepools : List String) :
    Returns (upgradeLoop observed nodepools) fun returned =>
      ∀ result ∈ returned, Pending observed.config result := by
  induction nodepools with
  | nil => exact .pure' nofun
  | cons nodepoolName rest induction =>
      refine .bind fun result => ?_
      cases result with
      | error err => exact .pure_some (observed.failed_pending _)
      | ok nodes =>
      refine .bind fun result => ?_
      cases result with
      | error err => exact .pure_some (observed.failed_pending _)
      | ok running =>
      cases running with
      | true => exact induction
      | false =>
      refine .bind fun result => ?_
      cases result with
      | error err => exact .pure_some (observed.failed_pending _)
      | ok nodepool =>
      refine .ite (fun _ => .pure_some observed.progressing_pending) fun _ => .bind fun result => ?_
      cases result with
      | error err => exact .pure_some (observed.failed_pending _)
      | ok _ => exact induction

theorem restoreLoop_pending (configMapData : GoMap String) (nodepools : List String) :
    Returns (restoreLoop observed configMapData nodepools) fun returned =>
      ∀ result ∈ returned, Pending observed.config result := by
  induction nodepools with
  | nil => exact .pure' nofun
  | cons nodepoolName rest induction =>
      refine .ite (fun _ => induction) fun _ => .bind fun result => ?_
      cases result with
      | error err => exact .pure_some (observed.failed_pending _)
      | ok nodepool =>
      refine .bind fun result => ?_
      cases result with
      | error err =>
          exact .ite (fun _ => .pure_some observed.progressing_pending) fun _ =>
            .pure_some (observed.failed_pending _)
      | ok _ => exact .bind fun _ => induction

theorem cleanUp_pending : Returns (cleanUp observed) (Pending observed.config) := by
  unfold cleanUp
  refine .ite (fun _ => .bind fun result => ?_) fun _ => .pure' observed.progressing_pending
  cases result with
  | error err => exact .ite (fun _ => .throw') fun _ => .pure' (observed.failed_pending _)
  | ok temporaryNodepool =>
  refine .bind fun result => ?_
  cases result with
  | error err => exact .pure' (observed.failed_pending _)
  | ok _ =>
  refine .bind fun result => ?_
  cases result with
  | error err => exact .pure' (observed.failed_pending _)
  | ok temporaryNodes =>
  refine .bind fun _ => .bind fun result => ?_
  cases result with
  | error err => exact .pure' (observed.failed_pending _)
  | ok running =>
  cases running with
  | true => exact .pure' observed.progressing_pending
  | false =>
  refine .bind fun result => ?_
  cases result with
  | error _ => exact .pure' (observed.failed_pending _)
  | ok _ =>
  refine .bind fun result => ?_
  cases result with
  | error err => exact .pure' (observed.failed_pending _)
  | ok _ => exact .pure' observed.progressing_pending

theorem drainAndUpgrade_pending (configMapData : GoMap String) :
    Returns (drainAndUpgrade observed configMapData) (Pending observed.config) := by
  unfold drainAndUpgrade
  refine .bind fun result => ?_
  cases result with
  | error err => exact .pure' (observed.failed_pending _)
  | ok _ =>
  refine (upgradeLoop_pending _ _).andThen fun result pending => ?_
  cases result with
  | some result => exact .pure' (pending result rfl)
  | none =>
  refine .bind fun order => (restoreLoop_pending _ _ _).andThen fun result pending => ?_
  cases result with
  | some result => exact .pure' (pending result rfl)
  | none => exact cleanUp_pending observed

theorem recordScaling_pending : Returns (recordScaling observed) (Pending observed.config) := by
  refine .bind fun result => ?_
  cases result with
  | ok configMapData => exact drainAndUpgrade_pending _ _
  | error err =>
  refine .ite (fun _ => .bind fun order => ?_) fun _ => .pure' (observed.failed_pending _)
  split
  · exact .throw'
  · refine .bind fun result => ?_
    cases result with
    | error err => exact .pure' (observed.failed_pending _)
    | ok _ => exact drainAndUpgrade_pending _ _

theorem awaitTemporaryNodepool_pending :
    Returns (awaitTemporaryNodepool observed) (Pending observed.config) := by
  refine .bind fun result => ?_
  cases result with
  | error err => exact .pure' (observed.failed_pending _)
  | ok status =>
      exact .ite (fun _ => .pure' observed.progressing_pending) fun _ => recordScaling_pending _

theorem ensureTemporaryNodepool_schedule :
    Returns (ensureTemporaryNodepool observed) fun result => Pending observed.config result ∨
      result = ⟨observed.config.upgradeFrequency, none⟩ ∧ observed.upToDate = true := by
  refine .bind fun result => ?_
  cases result with
  | error err => exact .pure' (.inl (observed.failed_pending _))
  | ok present =>
  cases present with
  | true => exact (awaitTemporaryNodepool_pending _).weaken fun _ => .inl
  | false =>
  refine .ite (fun upToDate => .bind fun result => ?_) fun _ => .bind fun result => ?_
  · cases result with
    | error err => exact .pure' (.inl (observed.failed_pending _))
    | ok _ => exact .pure' (.inr ⟨rfl, upToDate⟩)
  · cases result with
    | error _ => exact .pure' (.inl (observed.failed_pending _))
    | ok _ => exact (awaitTemporaryNodepool_pending _).weaken fun _ => .inl

end Blocks

/-- The reads at the start of `Reconcile` are of the world it starts from, so the long wait
is taken only when nothing monitored was stale there. -/
theorem reconcile_schedule_triple (config : Config) (namespaceName name : String) (start : World) :
    Triple (fun world _ => world = start) (reconcile config namespaceName name)
      (fun result _ _ => Pending config result ∨ result = ⟨config.upgradeFrequency, none⟩ ∧
        ∃ safeEvict, start.safeEvictNamed? namespaceName name = some safeEvict ∧
          ∀ poolName, ¬Stale start safeEvict.spec poolName) fun _ _ => True := by
  refine (Kube.getSafeEvict_triple _ _).bind fun result => ?_
  cases result with
  | error err => exact .pure' fun _ _ _ => .inl (.inl rfl)
  | ok safeEvict =>
  refine (updateNeeded_triple _).bind fun result => ?_
  cases result with
  | error err => exact .pure' fun _ _ _ => .inl (.inl rfl)
  | ok outdated =>
  obtain ⟨outdatedNodes, outdatedNodePools⟩ := outdated
  refine (getNotReadyNodePoolsLoop_triple _ _).bind fun result => ?_
  cases result with
  | error err => exact .pure' fun _ _ _ => .inl (.inl rfl)
  | ok notReady =>
  refine (nextOrder_reads _).triple.bind fun order => ?_
  refine Triple.of_pre
    fun world log ⟨⟨⟨⟨same, found⟩, outdatedFacts⟩, notReadyFacts⟩, permuted⟩ => ?_
  subst same
  have facts : Observed world safeEvict
      ⟨config, namespaceName, safeEvict, outdatedNodes, outdatedNodePools.insertAll order⟩ :=
    observed_of_reads (found _ rfl) (outdatedFacts _ _ rfl) (notReadyFacts _ rfl) permuted
  refine (ensureTemporaryNodepool_schedule _).triple.weaken (fun _ _ _ => trivial)
    (fun result _ _ => ?_) fun _ _ => id
  rintro (pending | ⟨rfl, upToDate⟩)
  · exact .inl pending
  · exact .inr ⟨rfl, safeEvict, found _ rfl, facts.upToDate upToDate⟩

/-- Whatever the servers answer and whatever order its map iterations take, `Reconcile`
returns a retry after `ErrorReconcileTime`, a wait of `SuccessReconcileTime` with a nil
error, or the long `UpgradeFrequency` wait with a nil error; the last only for a campaign
it found, none of whose monitored pools was stale in the world it started from. -/
theorem reconcile_schedule (config : Config) (namespaceName name : String) (start : World)
    (faults : List Fault) (orders : List (List Nat)) {result : ReconcileResult} {after : Session}
    (returned : reconcile config namespaceName name (Session.start start faults orders) =
      .ok result after) :
    Pending config result ∨ result = ⟨config.upgradeFrequency, none⟩ ∧
      ∃ safeEvict, start.safeEvictNamed? namespaceName name = some safeEvict ∧
        ∀ poolName, ¬Stale start safeEvict.spec poolName := by
  have holds := reconcile_schedule_triple config namespaceName name start
    (Session.start start faults orders) rfl
  rw [returned] at holds
  exact holds

open Scenario in
theorem draining_schedule : ∃ result after,
    reconcile config "default" "campaign" (Session.start draining [] []) = .ok result after ∧
      (Pending config result ∨ result = ⟨config.upgradeFrequency, none⟩ ∧
        ∃ safeEvict, draining.safeEvictNamed? "default" "campaign" = some safeEvict ∧
          ∀ poolName, ¬Stale draining safeEvict.spec poolName) := by
  obtain ⟨result, after, returned, -⟩ :=
    reconcile_returns config "default" "campaign" (by decide : draining.Populated) [] []
  exact ⟨result, after, returned,
    reconcile_schedule config "default" "campaign" draining [] [] returned⟩

end NodeUpdater
