import Mathlib.Data.String.Basic
import NodeUpdater.Go

/-! # The cluster's coordinates, from the instance metadata service

`GetClusterInfo` reads the group and the cluster off the node's resource group
`MC_<group>_<cluster>_<location>`: right exactly when neither holds an underscore. -/

namespace NodeUpdater

/-- `strings.Split(text, string(sep))`: the pieces between the occurrences of `sep`, one
more than there are occurrences. Lean's `String.split` computes the same pieces
(`String.split_of_valid`) but is not structurally recursive. -/
def Strings.split (text : String) (sep : Char) : List String :=
  (text.data.splitOn sep).map String.mk

/-- The fields of the metadata document that `GetClusterInfo` decodes. -/
structure Metadata where
  resourceGroupName : String
  subscriptionId : String
  deriving DecidableEq, Repr

/-- What the metadata request comes to: the error of `client.Do`, or the status code with
the decoded body or the decoder's error. -/
inductive ImdsResponse where
  | failed (err : GoError)
  | answered (statusCode : Nat) (body : Except GoError Metadata)
  deriving DecidableEq, Repr

/-- Go's panic on an index past the end of a slice. -/
def indexOutOfRange (index length : Nat) : String :=
  "runtime error: index out of range [" ++ toString index ++ "] with length " ++ toString length

namespace Strings

theorem length_splitOnP {α : Type} (p : α → Bool) (xs : List α) :
    (xs.splitOnP p).length = xs.countP p + 1 := by
  induction xs with
  | nil => rfl
  | cons x xs induction =>
      rw [List.splitOnP_cons, List.countP_cons]
      split <;> simp [*]

theorem not_of_mem_splitOnP {α : Type} {p : α → Bool} {xs piece : List α} {x : α}
    (member : piece ∈ xs.splitOnP p) (inPiece : x ∈ piece) : p x = false := by
  induction xs generalizing piece with
  | nil => simp_all
  | cons y ys induction =>
      rw [List.splitOnP_cons] at member
      split at member
      · rcases List.mem_cons.mp member with rfl | later
        · cases inPiece
        · exact induction later inPiece
      · rename_i notSep
        obtain ⟨first, rest, pieces⟩ := List.exists_cons_of_ne_nil (List.splitOnP_ne_nil p ys)
        rw [pieces] at member induction
        rcases List.mem_cons.mp member with rfl | later
        · rcases List.mem_cons.mp inPiece with rfl | inFirst
          · simpa using notSep
          · exact induction (List.mem_cons_self _ _) inFirst
        · exact induction (List.mem_cons_of_mem _ later) inPiece

theorem length_split (text : String) (sep : Char) :
    (split text sep).length = text.data.count sep + 1 := by
  rw [split, List.length_map, List.splitOn, length_splitOnP]
  rfl

theorem sep_not_mem_of_mem_split {text piece : String} {sep : Char}
    (member : piece ∈ split text sep) : sep ∉ piece.data := by
  obtain ⟨chars, inSplit, rfl⟩ := List.mem_map.mp member
  intro inPiece
  simpa using not_of_mem_splitOnP inSplit inPiece

/-- A node resource group splits into its prefix, group and cluster, when neither of the
two holds the separator. -/
theorem split_nodeResourceGroup (group cluster location : String)
    (groupFree : '_' ∉ group.data) (clusterFree : '_' ∉ cluster.data) :
    split ("MC_" ++ group ++ "_" ++ cluster ++ "_" ++ location) '_' =
      "MC" :: group :: cluster :: split location '_' := by
  have chars : ("MC_" ++ group ++ "_" ++ cluster ++ "_" ++ location).data =
      "MC".data ++ '_' :: (group.data ++ '_' :: (cluster.data ++ '_' :: location.data)) := by
    simp [String.data_append]
  have free : ∀ {piece : String}, '_' ∉ piece.data → ∀ x ∈ piece.data, ¬(x == '_') = true :=
    fun absent x member same => absent (beq_iff_eq.mp same ▸ member)
  rw [split, chars, List.splitOn, List.splitOnP_first _ _ (free (by decide)) '_' rfl,
    List.splitOnP_first _ _ (free groupFree) '_' rfl,
    List.splitOnP_first _ _ (free clusterFree) '_' rfl]
  rfl

end Strings

namespace AzureController

/-- Lines 56-64: the coordinates read off the decoded metadata. The error returned is the
transport's, nil by then; `parts[2]` panics when there are only two parts. -/
def clusterCoordinates (metadata : Metadata) :
    Except String (String × String × String × Option GoError) :=
  let parts := Strings.split metadata.resourceGroupName '_'
  if parts.length < 2 then .ok ("", "", "", none)
  else
    match parts with
    | _ :: clusterResourceGroup :: clusterName :: _ =>
        .ok (metadata.subscriptionId, clusterResourceGroup, clusterName, none)
    | _ => .error (indexOutOfRange 2 parts.length)

/-- `GetClusterInfo` (lines 22-65): the subscription, the cluster's resource group and its
name, and the error `main` checks; `.error` is a panic. After a non-200 answer the error
returned is the transport's, which is nil there. -/
def getClusterInfo : ImdsResponse → Except String (String × String × String × Option GoError)
  | .failed err => .ok ("", "", "", some err)
  | .answered statusCode body =>
      if statusCode ≠ 200 then .ok ("", "", "", none)
      else
        match body with
        | .error err => .ok ("", "", "", some err)
        | .ok metadata => clusterCoordinates metadata

theorem clusterCoordinates_panics_iff (metadata : Metadata) :
    (∃ message, clusterCoordinates metadata = .error message) ↔
      (Strings.split metadata.resourceGroupName '_').length = 2 := by
  simp only [clusterCoordinates]
  generalize Strings.split metadata.resourceGroupName '_' = parts
  rcases parts with _ | ⟨_, _ | ⟨_, _ | ⟨_, _⟩⟩⟩ <;> simp_arith

theorem clusterCoordinates_free {metadata : Metadata} {subscriptionId group cluster : String}
    {err : Option GoError}
    (returned : clusterCoordinates metadata = .ok (subscriptionId, group, cluster, err)) :
    '_' ∉ group.data ∧ '_' ∉ cluster.data := by
  simp only [clusterCoordinates] at returned
  have pieces : ∀ piece ∈ Strings.split metadata.resourceGroupName '_', '_' ∉ piece.data :=
    fun _ => Strings.sep_not_mem_of_mem_split
  generalize Strings.split metadata.resourceGroupName '_' = parts at returned pieces
  rcases parts with _ | ⟨_, _ | ⟨_, _ | ⟨_, _⟩⟩⟩ <;> simp_arith at returned
  case cons.cons.cons =>
    obtain ⟨-, rfl, rfl, -⟩ := returned
    exact ⟨pieces _ (by simp), pieces _ (by simp)⟩
  all_goals
    obtain ⟨-, rfl, rfl, -⟩ := returned
    exact ⟨nofun, nofun⟩

theorem getClusterInfo_coordinates_free {response : ImdsResponse}
    {subscriptionId group cluster : String} {err : Option GoError}
    (returned : getClusterInfo response = .ok (subscriptionId, group, cluster, err)) :
    '_' ∉ group.data ∧ '_' ∉ cluster.data := by
  have blank : '_' ∉ "".data ∧ '_' ∉ "".data := ⟨nofun, nofun⟩
  rcases response with _ | ⟨statusCode, _ | metadata⟩ <;> simp only [getClusterInfo] at returned
  · cases returned
    exact blank
  · split at returned <;> cases returned <;> exact blank
  · split at returned
    · cases returned
      exact blank
    · exact clusterCoordinates_free returned

/-- The round trip of AKS's node resource group `MC_<group>_<cluster>_<location>`:
`GetClusterInfo` returns the subscription, the group and the cluster with a nil error
exactly when neither the group nor the cluster name holds an underscore. -/
theorem getClusterInfo_nodeResourceGroup (subscriptionId group cluster location : String) :
    getClusterInfo (.answered 200 (.ok ⟨"MC_" ++ group ++ "_" ++ cluster ++ "_" ++ location,
        subscriptionId⟩)) = .ok (subscriptionId, group, cluster, none) ↔
      '_' ∉ group.data ∧ '_' ∉ cluster.data := by
  refine ⟨getClusterInfo_coordinates_free, fun ⟨groupFree, clusterFree⟩ => ?_⟩
  simp [getClusterInfo, clusterCoordinates,
    Strings.split_nodeResourceGroup group cluster location groupFree clusterFree]

/-- A group name with an underscore is cut at it: the cluster's name becomes the rest of
the group's. -/
example : getClusterInfo (.answered 200 (.ok ⟨"MC_my_rg_aks_westeurope", "sub"⟩)) =
    .ok ("sub", "my", "rg", none) := by decide

/-- `GetClusterInfo` panics, on `parts[2]`, exactly when the service answers 200 with a
resource group that holds a single underscore. -/
theorem getClusterInfo_panics_iff (response : ImdsResponse) :
    (∃ message, getClusterInfo response = .error message) ↔
      ∃ metadata, response = .answered 200 (.ok metadata) ∧
        metadata.resourceGroupName.data.count '_' = 1 := by
  rcases response with err | ⟨statusCode, body⟩
  · simp [getClusterInfo]
  · by_cases ok : statusCode = 200
    · subst ok
      rcases body with err | metadata
      · simp [getClusterInfo]
      · simp [getClusterInfo, clusterCoordinates_panics_iff, Strings.length_split]
    · simp [getClusterInfo, ok]

example : getClusterInfo (.answered 200 (.ok ⟨"MC_rg", "sub"⟩)) =
    .error "runtime error: index out of range [2] with length 2" := by decide

end AzureController

end NodeUpdater
