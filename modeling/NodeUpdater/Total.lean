import NodeUpdater.Logic

/-! # Total correctness with servers that answer

`Triple` speaks of the runs that return; `Completes` says that the program returns. -/

namespace NodeUpdater

/-- With servers that answer every call, `program` returns from every session whose world
and log satisfy `pre`, whatever orders its map iterations take, in a session whose servers
still answer, and `post` holds of its value there. -/
def Completes {α : Type} (pre : Assertion) (program : Api α) (post : α → Assertion) : Prop :=
  ∀ world orders log, pre world log → ∃ value after,
    program ⟨world, [], orders, log⟩ = .ok value after ∧ after.faults = [] ∧
      post value after.world after.log

namespace Completes

variable {α β : Type} {pre pre' : Assertion} {post post' : α → Assertion}

theorem bind {program : Api α} {next : α → Api β} {middle : α → Assertion}
    {final : β → Assertion} (first : Completes pre program middle)
    (rest : ∀ value, Completes (middle value) (next value) final) :
    Completes pre (program >>= next) final := by
  intro world orders log holds
  obtain ⟨value, ⟨world', faults, orders', log'⟩, ran, answering, holds'⟩ :=
    first world orders log holds
  obtain rfl : faults = [] := answering
  obtain ⟨result, after, ran', answering', final'⟩ := rest value world' orders' log' holds'
  refine ⟨result, after, ?_, answering', final'⟩
  change EStateM.bind program next _ = _
  simp only [EStateM.bind, ran, ran']

theorem bind_eq {program : Api α} {next : α → Api β} {value : α} {middle : Assertion}
    {final : β → Assertion}
    (first : Completes pre program fun result world log => result = value ∧ middle world log)
    (rest : Completes middle (next value) final) : Completes pre (program >>= next) final :=
  first.bind fun _ world orders log ⟨same, holds⟩ => same ▸ rest world orders log holds

theorem pure' {value : α} (holds : ∀ world log, pre world log → post value world log) :
    Completes pre (pure value) post :=
  fun _ _ _ start => ⟨value, _, rfl, rfl, holds _ _ start⟩

theorem ite {condition : Prop} [Decidable condition] {yes no : Api α}
    (whenYes : condition → Completes pre yes post)
    (whenNo : ¬condition → Completes pre no post) :
    Completes pre (if condition then yes else no) post := by
  by_cases holds : condition
  · simpa [holds] using whenYes holds
  · simpa [holds] using whenNo holds

theorem weaken {program : Api α} (completes : Completes pre program post)
    (before : ∀ world log, pre' world log → pre world log)
    (after : ∀ value world log, post value world log → post' value world log) :
    Completes pre' program post' := fun world orders log start =>
  let ⟨value, final, ran, answering, holds⟩ := completes world orders log (before _ _ start)
  ⟨value, final, ran, answering, after _ _ _ holds⟩

theorem of_pre {program : Api α} (completes : ∀ world log, pre world log →
      Completes (fun world' log' => world' = world ∧ log' = log) program post) :
    Completes pre program post :=
  fun world orders log start => completes world log start world orders log ⟨rfl, rfl⟩

/-- What a triple says of the runs that return holds of the run a `Completes` provides. -/
theorem and_triple {program : Api α} (completes : Completes pre program post)
    (triple : Triple pre program post' fun _ _ => True) :
    Completes pre program fun value world log =>
      post value world log ∧ post' value world log := by
  intro world orders log start
  obtain ⟨value, after, ran, answering, holds⟩ := completes world orders log start
  have holds' := triple ⟨world, [], orders, log⟩ start
  rw [ran] at holds'
  exact ⟨value, after, ran, answering, holds, holds'⟩

end Completes

section Primitives

variable {α : Type} {pre : Assertion}

theorem query_completes (failure : Fault → GoError) (serve : World → Except GoError α) :
    Completes pre (query failure serve) fun result world log =>
      result = serve world ∧ pre world log :=
  fun _ _ _ start => ⟨_, _, rfl, rfl, rfl, start⟩

theorem mutate_completes {post : Except GoError Unit → Assertion} (failure : Fault → GoError)
    (request : Request) (serve : World → Except GoError World)
    (accepted : ∀ world log updated, pre world log → serve world = .ok updated →
      post (.ok ()) updated (log ++ [⟨world, request, true⟩]))
    (refused : ∀ world log err, pre world log → serve world = .error err →
      post (.error err) world (log ++ [⟨world, request, false⟩])) :
    Completes pre (mutate failure request serve) post := by
  intro world orders log start
  rw [mutate_answered]
  cases served : serve world with
  | ok updated => exact ⟨_, _, rfl, rfl, accepted _ _ _ start served⟩
  | error err => exact ⟨_, _, rfl, rfl, refused _ _ _ start served⟩

theorem nextOrder_completes {V : Type} (entries : GoMap V) :
    Completes pre (nextOrder entries) fun order world log =>
      order.Perm entries ∧ pre world log := by
  intro world orders log start
  cases orders with
  | nil => exact ⟨_, _, rfl, rfl, List.Perm.refl _, start⟩
  | cons choices orders => exact ⟨_, _, rfl, rfl, pickOrder_perm _ _, start⟩

def At (world : World) (log : List Entry) : Assertion :=
  fun world' log' => world' = world ∧ log' = log

theorem query_bind {β : Type} {post : β → Assertion} {world : World} {log : List Entry}
    {next : Except GoError α → Api β} (failure : Fault → GoError)
    (serve : World → Except GoError α)
    (rest : Completes (At world log) (next (serve world)) post) :
    Completes (At world log) (query failure serve >>= next) post := by
  refine (query_completes failure serve).bind fun _ => ?_
  rintro _ orders _ ⟨rfl, rfl, rfl⟩
  exact rest _ orders _ ⟨rfl, rfl⟩

theorem mutate_bind_ok {β : Type} {post : β → Assertion} {world updated : World}
    {log : List Entry} {next : Except GoError Unit → Api β} (failure : Fault → GoError)
    (request : Request) {serve : World → Except GoError World}
    (served : serve world = .ok updated)
    (rest : Completes (At updated (log ++ [⟨world, request, true⟩])) (next (.ok ())) post) :
    Completes (At world log) (mutate failure request serve >>= next) post := by
  refine (mutate_completes failure request serve ?_ ?_).bind_eq rest
  · rintro _ _ _ ⟨rfl, rfl⟩ accepted
    cases served.symm.trans accepted
    exact ⟨rfl, rfl, rfl⟩
  · rintro _ _ _ ⟨rfl, rfl⟩ refused
    cases served.symm.trans refused

end Primitives

namespace Devops

variable {α : Type} {pre : Assertion}

theorem get_completes (serve : World → α) :
    Completes pre (get serve) fun result world log =>
      result = .ok (200, serve world) ∧ pre world log :=
  fun _ _ _ start => ⟨_, _, rfl, rfl, rfl, start⟩

theorem get_bind {β : Type} {post : β → Assertion} {world : World} {log : List Entry}
    {next : Except GoError (Nat × α) → Api β} (serve : World → α)
    (rest : Completes (At world log) (next (.ok (200, serve world))) post) :
    Completes (At world log) (get serve >>= next) post := by
  refine (get_completes serve).bind fun _ => ?_
  rintro _ orders _ ⟨rfl, rfl, rfl⟩
  exact rest _ orders _ ⟨rfl, rfl⟩

theorem send_completes {post : Except GoError Nat → Assertion} (request : Request)
    (successCode : Nat) (serve : World → Option World)
    (accepted : ∀ world log updated, pre world log → serve world = some updated →
      post (.ok successCode) updated (log ++ [⟨world, request, true⟩]))
    (refused : ∀ world log, pre world log → serve world = none →
      post (.ok 404) world (log ++ [⟨world, request, false⟩])) :
    Completes pre (send request successCode serve) post := by
  intro world orders log start
  cases served : serve world with
  | some updated =>
      exact ⟨.ok successCode, ⟨updated, [], orders, log ++ [⟨world, request, true⟩]⟩,
        by simp only [send, Session.pop, served, if_true], rfl, accepted _ _ _ start served⟩
  | none =>
      exact ⟨.ok 404, ⟨world, [], orders, log ++ [⟨world, request, false⟩]⟩,
        by simp only [send, Session.pop, served, if_true], rfl, refused _ _ start served⟩

end Devops

end NodeUpdater
