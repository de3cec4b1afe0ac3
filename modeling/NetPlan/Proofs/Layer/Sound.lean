import NetPlan.Fault
import NetPlan.Layer.Basic
import NetPlan.Proofs.List

/-!
# Sound layers

Layers are **sound** if each joins one node to another, both within range, and the primary layer of
a shared layer is an earlier one that is not shared itself; other layers have none. Soundness is
kept by adding a layer at the end (`LayersSound.concat`), which is how a pass builds its layers.

`LayersSound.isNodeCount` says what the number of nodes of sound layers is: one past the largest.
-/

namespace NetPlan

/-! ### Nodes -/

/-- Whether a number can stand for a node. -/
def IsNode (n : Int) : Prop :=
  0 ≤ n ∧ n ≤ maxNodeIndex

/-- A layer joins one node to another. -/
def Layer.JoinsNodes (l : Layer) : Prop :=
  ∃ a b, l.inputs = [a] ∧ l.outputs = [b] ∧ IsNode a ∧ IsNode b

/-- All nodes of a layer that joins nodes are within range. -/
theorem Layer.JoinsNodes.isNode {l : Layer} (h : l.JoinsNodes) {n : Int} (hn : n ∈ l.nodes) :
    IsNode n := by
  obtain ⟨a, b, hin, hout, ha, hb⟩ := h
  rw [Layer.nodes, hin, hout, List.mem_append, List.mem_singleton, List.mem_singleton] at hn
  rcases hn with rfl | rfl
  · exact ha
  · exact hb

/-! ### Sound layers -/

/-- Layers as a pass declares them, one after another. -/
structure LayersSound (ls : List Layer) : Prop where
  joins : ∀ l ∈ ls, l.JoinsNodes
  plain : ∀ l ∈ ls, l.isShared = false → l.primary = -1
  shared : ∀ (i : Nat) (l : Layer), ls[i]? = some l → l.isShared = true →
    ∃ j : Nat, j < i ∧ l.primary = j ∧ ∃ k, ls[j]? = some k ∧ k.isShared = false

theorem layersSound_nil : LayersSound [] :=
  ⟨by simp, by simp, by simp⟩

/-- **Sound layers grow at their end.** A further layer has to join nodes, and to point nowhere, or,
if it is shared, at one of the layers so far that is not shared. -/
theorem LayersSound.concat {ls : List Layer} {l : Layer} (h : LayersSound ls)
    (hjoins : l.JoinsNodes) (hplain : l.isShared = false → l.primary = -1)
    (hshared : l.isShared = true →
      ∃ (j : Nat) (k : Layer), l.primary = j ∧ ls[j]? = some k ∧ k.isShared = false) :
    LayersSound (ls ++ [l]) := by
  refine ⟨fun m hm => ?_, fun m hm => ?_, fun i m hm hms => ?_⟩
  · rcases List.mem_append.mp hm with hm | hm
    · exact h.joins m hm
    · exact List.mem_singleton.mp hm ▸ hjoins
  · rcases List.mem_append.mp hm with hm | hm
    · exact h.plain m hm
    · exact List.mem_singleton.mp hm ▸ hplain
  · have hkeep {j : Nat} {k : Layer} (hk : ls[j]? = some k) : (ls ++ [l])[j]? = some k :=
      (List.prefix_append ls [l]).getElem?_eq_some hk
    obtain hm | ⟨rfl, rfl⟩ := List.getElem?_concat_eq_some_iff.mp hm
    · obtain ⟨j, hj, hprimary, k, hk, hks⟩ := h.shared i m hm hms
      exact ⟨j, hj, hprimary, k, hkeep hk, hks⟩
    · obtain ⟨j, k, hprimary, hk, hks⟩ := hshared hms
      exact ⟨j, (List.getElem?_eq_some_iff.mp hk).1, hprimary, k, hkeep hk, hks⟩

/-! ### The number of nodes -/

/-- A number is one past the largest node that the layers touch, or zero if there are no layers. -/
def IsNodeCount (ls : List Layer) (n : Int) : Prop :=
  (ls = [] ∧ n = 0) ∨
    ∃ l ∈ ls, ∃ a ∈ l.nodes, n = a + 1 ∧ ∀ l' ∈ ls, ∀ b ∈ l'.nodes, b ≤ a

/-- Each node that a layer touches is below the number of nodes. -/
theorem lt_countNodes {ls : List Layer} {l : Layer} {n : Int} (hl : l ∈ ls) (hn : n ∈ l.nodes) :
    n < countNodes ls :=
  List.le_foldl_max_of_mem (· + 1) (List.mem_flatMap.mpr ⟨l, hl, hn⟩) 0

theorem countNodes_nonneg (ls : List Layer) : 0 ≤ countNodes ls :=
  List.le_foldl_max (· + 1) (ls.flatMap Layer.nodes) 0

/-- The number of nodes is zero or one past some node. -/
theorem countNodes_eq_zero_or (ls : List Layer) :
    countNodes ls = 0 ∨ ∃ l ∈ ls, ∃ n ∈ l.nodes, countNodes ls = n + 1 := by
  rcases List.foldl_max_eq_or (· + 1) (ls.flatMap Layer.nodes) 0 with heq | ⟨n, hn, heq⟩
  · exact .inl heq
  · obtain ⟨l, hl, hnl⟩ := List.mem_flatMap.mp hn
    exact .inr ⟨l, hl, n, hnl, heq⟩

namespace LayersSound

variable {ls : List Layer}

/-- **What is counted of sound layers** is one past their largest node, and nothing if there are no
layers: a layer that joins nodes touches one at least. -/
theorem isNodeCount (h : LayersSound ls) : IsNodeCount ls (countNodes ls) := by
  rcases countNodes_eq_zero_or ls with heq | ⟨l, hl, n, hn, heq⟩
  · cases ls with
    | nil => exact .inl ⟨rfl, rfl⟩
    | cons l ls =>
      -- the first layer has an input, so there is a node at least
      obtain ⟨a, b, hin, -, ha, -⟩ := h.joins l List.mem_cons_self
      have hlt : a < countNodes (l :: ls) :=
        lt_countNodes List.mem_cons_self (by simp [Layer.nodes, hin])
      have := ha.1
      omega
  · refine .inr ⟨l, hl, n, hn, heq, fun l' hl' b hb => ?_⟩
    have := lt_countNodes hl' hb
    omega

/-- The number of nodes stays within one past the largest node index. -/
theorem countNodes_le (h : LayersSound ls) : countNodes ls ≤ maxNodeIndex + 1 := by
  rcases countNodes_eq_zero_or ls with heq | ⟨l, hl, n, hn, heq⟩
  · rw [heq]
    decide
  · have := ((h.joins l hl).isNode hn).2
    omega

end LayersSound

end NetPlan
