import NodeUpdater.Session

/-! # A program logic for sessions

Triples over the world and the request log, for programs that return or panic, and
`Reads` for calls that only read. -/

namespace NodeUpdater

/-- What a proof may say about a session: its world and its log. -/
abbrev Assertion := World → List Entry → Prop

/-- The session a program ends in, whether it returns or panics. -/
def finalSession {α : Type} : EStateM.Result String Session α → Session
  | .ok _ after => after
  | .error _ after => after

/-- Run from a session satisfying `pre`, `program` ends in a session satisfying
`post` of its value, or `halt` when it panics. -/
def Triple {α : Type} (pre : Assertion) (program : Api α) (post : α → Assertion)
    (halt : Assertion) : Prop :=
  ∀ session, pre session.world session.log →
    match program session with
    | .ok value after => post value after.world after.log
    | .error _ after => halt after.world after.log

namespace Triple

variable {α β : Type} {pre pre' : Assertion} {post post' : α → Assertion} {halt halt' : Assertion}

theorem bind {program : Api α} {next : α → Api β} {middle : α → Assertion}
    {final : β → Assertion} (first : Triple pre program middle halt)
    (rest : ∀ value, Triple (middle value) (next value) final halt) :
    Triple pre (program >>= next) final halt := by
  intro session holds
  have firstHolds := first session holds
  change match EStateM.bind program next session with
    | .ok value after => final value after.world after.log
    | .error _ after => halt after.world after.log
  unfold EStateM.bind
  revert firstHolds
  cases program session with
  | ok value after => exact rest value after
  | error err after => exact id

theorem pure' {value : α} (holds : ∀ world log, pre world log → post value world log) :
    Triple pre (pure value) post halt :=
  fun _ start => holds _ _ start

theorem throw' {message : String} (holds : ∀ world log, pre world log → halt world log) :
    Triple pre (throw message : Api α) post halt :=
  fun _ start => holds _ _ start

theorem weaken {program : Api α} (triple : Triple pre program post halt)
    (before : ∀ world log, pre' world log → pre world log)
    (after : ∀ value world log, post value world log → post' value world log)
    (stuck : ∀ world log, halt world log → halt' world log) :
    Triple pre' program post' halt' := by
  intro session start
  have holds := triple session (before _ _ start)
  revert holds
  cases program session with
  | ok value final => exact after _ _ _
  | error err final => exact stuck _ _

theorem ite {condition : Prop} [Decidable condition] {yes no : Api α}
    (whenYes : condition → Triple pre yes post halt) (whenNo : ¬condition → Triple pre no post halt) :
    Triple pre (if condition then yes else no) post halt := by
  by_cases holds : condition
  · simpa [holds] using whenYes holds
  · simpa [holds] using whenNo holds

theorem of_pre {program : Api α} (triple : ∀ world log, pre world log →
      Triple (fun world' log' => world' = world ∧ log' = log) program post halt) :
    Triple pre program post halt :=
  fun session start => triple _ _ start session ⟨rfl, rfl⟩

theorem of_eq {program : Api α} {world : World} {log : List Entry} (holds : pre world log)
    (triple : Triple pre program post halt) :
    Triple (fun world' log' => world' = world ∧ log' = log) program post halt :=
  triple.weaken (fun _ _ same => same.1 ▸ same.2 ▸ holds) (fun _ _ _ => id) fun _ _ => id

theorem vacuous {program : Api α} (never : ∀ world log, pre world log → False) :
    Triple pre program post halt :=
  fun _ start => (never _ _ start).elim

theorem finalSession_holds {program : Api α} {final : Assertion}
    (triple : Triple pre program (fun _ => final) final) (session : Session)
    (start : pre session.world session.log) :
    final (finalSession (program session)).world (finalSession (program session)).log := by
  have holds := triple session start
  revert holds
  cases program session <;> exact id

end Triple

/-- `program` only reads: it returns without changing world or log, with a value
that `spec` relates to the world it read. -/
def Reads {α : Type} (program : Api α) (spec : World → α → Prop) : Prop :=
  ∀ session, ∃ value after, program session = .ok value after ∧
    after.world = session.world ∧ after.log = session.log ∧ spec session.world value

namespace Reads

variable {α β : Type} {program : Api α} {spec spec' : World → α → Prop}

theorem triple {pre : Assertion} {halt : Assertion} (reads : Reads program spec) :
    Triple pre program (fun value world log => pre world log ∧ spec world value) halt := by
  intro session start
  obtain ⟨value, after, equation, sameWorld, sameLog, holds⟩ := reads session
  rw [equation]
  exact ⟨sameWorld ▸ sameLog ▸ start, sameWorld ▸ holds⟩

theorem bind {next : α → Api β} {nextSpec : α → World → β → Prop} (first : Reads program spec)
    (rest : ∀ value, Reads (next value) (nextSpec value)) :
    Reads (program >>= next) fun world result => ∃ value, spec world value ∧
      nextSpec value world result := by
  intro session
  obtain ⟨value, middle, equation, sameWorld, sameLog, holds⟩ := first session
  obtain ⟨result, after, equation', sameWorld', sameLog', holds'⟩ := rest value middle
  refine ⟨result, after, ?_, sameWorld'.trans sameWorld, sameLog'.trans sameLog,
    value, holds, sameWorld ▸ holds'⟩
  change EStateM.bind program next session = _
  simp only [EStateM.bind, equation, equation']

theorem pure' (value : α) : Reads (pure value) fun _ result => result = value :=
  fun session => ⟨value, session, rfl, rfl, rfl, rfl⟩

theorem weaken (reads : Reads program spec)
    (implies : ∀ world value, spec world value → spec' world value) : Reads program spec' := by
  intro session
  obtain ⟨value, after, equation, sameWorld, sameLog, holds⟩ := reads session
  exact ⟨value, after, equation, sameWorld, sameLog, implies _ _ holds⟩

end Reads

/-! ## The primitive requests -/

section Primitives

variable {α : Type} {pre : Assertion} {halt : Assertion}

theorem nextOrder_reads {V : Type} (entries : GoMap V) :
    Reads (nextOrder entries) fun _ order => order.Perm entries := by
  rintro ⟨world, faults, orders, log⟩
  cases orders with
  | nil => exact ⟨_, _, rfl, rfl, rfl, List.Perm.refl _⟩
  | cons choices orders => exact ⟨_, _, rfl, rfl, rfl, pickOrder_perm _ _⟩

theorem query_reads (failure : Fault → GoError) (serve : World → Except GoError α) :
    Reads (query failure serve) fun world result =>
      result = serve world ∨ ∃ fault, result = .error (failure fault) := by
  intro session
  obtain ⟨sameWorld, sameLog, -⟩ := session.pop_frame
  refine ⟨_, _, rfl, sameWorld, sameLog, ?_⟩
  unfold outcome
  split
  · exact .inl (sameWorld ▸ rfl)
  · exact .inr ⟨_, rfl⟩

theorem query_triple (failure : Fault → GoError) (serve : World → Except GoError α) :
    Triple pre (query failure serve) (fun result world log => pre world log ∧
      ∀ value, result = .ok value → serve world = .ok value) halt := by
  refine (query_reads failure serve).triple.weaken (fun _ _ => id) ?_ fun _ _ => id
  rintro result world log ⟨holds, answer | ⟨fault, failed⟩⟩
  · exact ⟨holds, fun value ok => answer ▸ ok⟩
  · exact ⟨holds, fun value ok => by simp [failed] at ok⟩

/-- A write is logged, as accepted exactly when the server carried it out. -/
theorem mutate_triple {post : Except GoError Unit → Assertion} (failure : Fault → GoError)
    (request : Request) (serve : World → Except GoError World)
    (accepted : ∀ world log updated, pre world log → serve world = .ok updated →
      post (.ok ()) updated (log ++ [⟨world, request, true⟩]))
    (refused : ∀ world log err, pre world log →
      post (.error err) world (log ++ [⟨world, request, false⟩])) :
    Triple pre (mutate failure request serve) post halt := by
  intro session start
  rcases popped : session.pop with ⟨fault, world, faults, orders, log⟩
  obtain ⟨sameWorld, sameLog, -⟩ := popped ▸ session.pop_frame
  subst sameWorld sameLog
  cases answer : outcome failure serve fault session.world with
  | ok updated =>
      simpa only [mutate, popped, answer] using accepted _ _ _ start (outcome_ok answer)
  | error err => simpa only [mutate, popped, answer] using refused _ _ err start

end Primitives

namespace Devops

variable {α : Type} {pre : Assertion} {halt : Assertion}

theorem get_reads (serve : World → α) :
    Reads (get serve) fun world result =>
      ∀ statusCode body, result = .ok (statusCode, body) → body = serve world := by
  intro session
  rcases popped : session.pop with ⟨fault, rest⟩
  obtain ⟨sameWorld, sameLog, -⟩ := popped ▸ session.pop_frame
  refine ⟨(statusOf fault).map fun code => (code, serve rest.world), rest,
    by simp only [get, popped], sameWorld, sameLog, fun statusCode body answer => ?_⟩
  cases status : statusOf fault <;> simp_all [Except.map]

/-- The answers of a `PATCH` or `DELETE` the service did not carry out: a transport
error, or a failure status. -/
def Refusal (result : Except GoError Nat) : Prop :=
  ∀ code, result = .ok code → code = 404 ∨ code = 409 ∨ code = 500

theorem send_outcome {post : Except GoError Nat → Assertion} (request : Request)
    (successCode : Nat) (serve : World → Option World)
    (accepted : ∀ world log updated, pre world log → serve world = some updated →
      post (.ok successCode) updated (log ++ [⟨world, request, true⟩]))
    (refused : ∀ world log result, pre world log → Refusal result →
      post result world (log ++ [⟨world, request, false⟩])) :
    Triple pre (send request successCode serve) post halt := by
  intro session start
  rcases popped : session.pop with ⟨fault, world, faults, orders, log⟩
  obtain ⟨sameWorld, sameLog, -⟩ := popped ▸ session.pop_frame
  subst sameWorld sameLog
  by_cases answered : fault = .answer
  · cases answer : serve session.world with
    | some updated => simpa [send, popped, answered, answer] using accepted _ _ _ start answer
    | none =>
        simpa [send, popped, answered, answer] using
          refused _ _ (.ok 404) start fun code same => .inl (Except.ok.inj same).symm
  · simp only [send, popped, answered, if_false]
    refine refused _ _ _ start fun code same => ?_
    cases fault <;> simp_all [statusOf]

theorem send_triple {post : Except GoError Nat → Assertion} (request : Request) (successCode : Nat)
    (serve : World → Option World)
    (accepted : ∀ world log updated, pre world log → serve world = some updated →
      post (.ok successCode) updated (log ++ [⟨world, request, true⟩]))
    (refused : ∀ world log result, pre world log →
      post result world (log ++ [⟨world, request, false⟩])) :
    Triple pre (send request successCode serve) post halt :=
  send_outcome request successCode serve accepted fun world log result holds _ =>
    refused world log result holds

end Devops

end NodeUpdater
