import Mathlib.Algebra.Group.Int
import Mathlib.Algebra.Group.Nat.Basic
import Mathlib.Data.List.Basic

/-! # Go runtime vocabulary

Errors with the API status `errors.As` sees through them, maps as association lists, and
the order of a `range` over a map. -/

namespace NodeUpdater

instance decidableEqExcept {ε α : Type} [DecidableEq ε] [DecidableEq α] :
    DecidableEq (Except ε α)
  | .error a, .error b => decidable_of_iff (a = b) ⟨congrArg _, Except.error.inj⟩
  | .ok a, .ok b => decidable_of_iff (a = b) ⟨congrArg _, Except.ok.inj⟩
  | .error _, .ok _ => isFalse Except.noConfusion
  | .ok _, .error _ => isFalse Except.noConfusion

/-- The API status an error chain still carries: a Kubernetes `StatusError` or an
`azcore.ResponseError`, each with its HTTP status code. -/
inductive ApiStatus where
  | kube (code : Nat)
  | azure (code : Nat)
  deriving DecidableEq, Repr

/-- A Go `error` value: its text, and the status a `%w` wrapping keeps visible. -/
structure GoError where
  message : String
  status : Option ApiStatus := none
  deriving DecidableEq, Repr

namespace GoError

/-- `fmt.Errorf(context + "%w", err)`: the text grows and the chain is kept. -/
def wrap (context : String) (err : GoError) : GoError :=
  { err with message := context ++ err.message }

/-- `fmt.Errorf(context + "%v", err)`: only the text survives. -/
def flatten (context : String) (err : GoError) : GoError :=
  ⟨context ++ err.message, none⟩

/-- `apierrors.IsNotFound`. -/
def isNotFound (err : GoError) : Bool :=
  err.status == some (.kube 404)

/-- `errors.As(err, &responseErr) && responseErr.StatusCode == code`. -/
def hasResponseCode (err : GoError) (code : Nat) : Bool :=
  err.status == some (.azure code)

@[simp] theorem flatten_status (context : String) (err : GoError) :
    (flatten context err).status = none := rfl

@[simp] theorem wrap_status (context : String) (err : GoError) :
    (wrap context err).status = err.status := rfl

@[simp] theorem isNotFound_flatten (context : String) (err : GoError) :
    (flatten context err).isNotFound = false := rfl

@[simp] theorem hasResponseCode_flatten (context : String) (err : GoError) (code : Nat) :
    (flatten context err).hasResponseCode code = false := rfl

end GoError

def toLower (text : String) : String :=
  ⟨text.data.map Char.toLower⟩

/-- A Go `map[string]V`, as the list of its entries. -/
abbrev GoMap (V : Type) := List (String × V)

namespace GoMap

variable {V : Type}

def find? (m : GoMap V) (key : String) : Option V :=
  m.lookup key

/-- `m[key] = value`: an existing entry is overwritten in place, a new one is added. -/
def insert (m : GoMap V) (key : String) (value : V) : GoMap V :=
  if m.any (·.1 == key) then m.map fun entry => if entry.1 == key then (key, value) else entry
  else m ++ [(key, value)]

/-- `for key, value := range source { m[key] = value }`. -/
def insertAll (m source : GoMap V) : GoMap V :=
  source.foldl (fun acc entry => acc.insert entry.1 entry.2) m

def keys (m : GoMap V) : List String :=
  m.map Prod.fst

theorem mem_keys_insert (m : GoMap V) (key : String) (value : V) (other : String) :
    other ∈ (m.insert key value).keys ↔ other = key ∨ other ∈ m.keys := by
  unfold insert keys
  split
  · rename_i present
    simp only [List.any_eq_true, beq_iff_eq] at present
    obtain ⟨⟨found, _⟩, member, rfl⟩ := present
    simp only [List.map_map, List.mem_map, Function.comp_def]
    constructor
    · rintro ⟨entry, member, rfl⟩
      by_cases same : entry.1 = found <;> simp [same, member]
      exact ⟨entry.2, member⟩
    · rintro (rfl | ⟨entry, member, rfl⟩)
      · exact ⟨_, member, by simp⟩
      · exact ⟨entry, member, by by_cases same : entry.1 = found <;> simp [same]⟩
  · simp [or_comm]

theorem mem_keys_insertAll (m source : GoMap V) (key : String) :
    key ∈ (m.insertAll source).keys ↔ key ∈ m.keys ∨ key ∈ source.keys := by
  induction source generalizing m with
  | nil => simp [insertAll, keys]
  | cons entry rest induction =>
      simp only [insertAll, List.foldl_cons] at induction ⊢
      rw [induction, mem_keys_insert]
      simp only [keys, List.map_cons, List.mem_cons]
      tauto

end GoMap

/-! ## Iteration order of `range` over a map

Go leaves the order of a `range` over a map unspecified. A choice list fixes one
order: each number picks the next entry among those not yet visited, and once
the choices run out the remaining entries follow in place. -/

/-- The entries of a map in the order one `range` visits them. -/
def pickOrder {α : Type} : List Nat → List α → List α
  | [], entries => entries
  | _ :: _, [] => []
  | choice :: choices, entry :: rest =>
      let index := choice % (rest.length + 1)
      (entry :: rest).get ⟨index, Nat.mod_lt _ (Nat.succ_pos _)⟩ ::
        pickOrder choices ((entry :: rest).eraseIdx index)

private theorem perm_getElem_cons_eraseIdx {α : Type} (entries : List α) (index : Nat)
    (bound : index < entries.length) :
    entries.Perm (entries[index] :: entries.eraseIdx index) := by
  have split : entries.take index ++ entries[index] :: entries.drop (index + 1) = entries := by
    simp
  have middle := @List.perm_middle _ entries[index] (entries.take index)
    (entries.drop (index + 1))
  rw [split] at middle
  rwa [List.eraseIdx_eq_take_drop_succ]

/-- Every order a choice list fixes visits each entry exactly once. -/
theorem pickOrder_perm {α : Type} (choices : List Nat) (entries : List α) :
    (pickOrder choices entries).Perm entries := by
  induction choices generalizing entries with
  | nil => exact List.Perm.refl _
  | cons choice choices induction =>
      cases entries with
      | nil => exact List.Perm.refl _
      | cons entry rest =>
          exact ((induction _).cons _).trans
            (perm_getElem_cons_eraseIdx (entry :: rest) _ (Nat.mod_lt _ (Nat.succ_pos _))).symm

@[simp] theorem mem_pickOrder {α : Type} (choices : List Nat) (entries : List α) (entry : α) :
    entry ∈ pickOrder choices entries ↔ entry ∈ entries :=
  (pickOrder_perm choices entries).mem_iff

end NodeUpdater
