/-
# The deepest hosts of an exit

Only `tree` and `ark` transactions host outputs that can be exited. Where one host lies
below another, the upper one was spent on and its outputs are no leaves of the exit any
more. The plan therefore keeps the hosts below which there is no other host.

This module models `terminal_vtxo_host_txids_for_topology`. The nodes come from an operator,
so that they may repeat transaction ids and spend each other in a circle.
-/

import Bitboard.Arkade.ExitMaterials
import Bitboard.Lib.TopologicalOrder
import Bitboard.Lib.WorklistSearch

namespace Bitboard.Arkade

open Bitboard.Lib

variable (nodes : List UnilateralExitTopologyNode)

/-- `children_by_parent`: the nodes that spend the transaction, once for each time they do. -/
def childrenByParent (parentTxid : String) : List String :=
  nodes.flatMap fun node => (node.spends.filter (· = parentTxid)).map fun _ => node.txid

theorem mem_childrenByParent {parentTxid childTxid : String} :
    childTxid ∈ childrenByParent nodes parentTxid ↔
      ∃ node ∈ nodes, node.txid = childTxid ∧ parentTxid ∈ node.spends := by
  simp only [childrenByParent, List.mem_flatMap, List.mem_map, List.mem_filter, decide_eq_true_eq]
  constructor
  · intro h
    obtain ⟨node, hnode, _, ⟨hspends, rfl⟩, htxid⟩ := h
    exact ⟨node, hnode, htxid, hspends⟩
  · intro h
    obtain ⟨node, hnode, htxid, hspends⟩ := h
    exact ⟨node, hnode, _, ⟨hspends, rfl⟩, htxid⟩

/-- The transactions with an edge to each transaction that spends them. -/
def topologyGraph : FiniteGraph String where
  nodes := (nodes.map (·.txid)).toFinset
  children := childrenByParent nodes
  mem_nodes := by
    intro parentTxid childTxid hchild
    obtain ⟨node, hnode, htxid, -⟩ := (mem_childrenByParent nodes).mp hchild
    exact List.mem_toFinset.mpr (List.mem_map.mpr ⟨node, hnode, htxid⟩)

/-- The search from one host: `stack` and `visited` start with the host alone and with
nothing, and another host among the children ends it. -/
def reachesOtherHost (hostTxid : String) : Bool :=
  (topologyGraph nodes).findsGoal
    (fun childTxid => childTxid ∈ exitHostTxids nodes ∧ childTxid ≠ hostTxid) [hostTxid] ∅

def terminalVtxoHostTxidsForTopology : Finset String :=
  let hostTxids := exitHostTxids nodes
  if hostTxids = ∅ then ∅
  else
    let nonTerminalHostTxids := hostTxids.filter fun hostTxid => reachesOtherHost nodes hostTxid
    hostTxids.filter fun txid => txid ∉ nonTerminalHostTxids

def SpendEdge (parentTxid childTxid : String) : Prop :=
  ∃ node ∈ nodes, node.txid = childTxid ∧ parentTxid ∈ node.spends

variable {nodes}

theorem edge_topologyGraph : (topologyGraph nodes).Edge = SpendEdge nodes := by
  funext parentTxid childTxid
  exact propext (mem_childrenByParent nodes)

theorem reachesOtherHost_iff {hostTxid : String} :
    reachesOtherHost nodes hostTxid = true ↔
      ∃ otherTxid ∈ exitHostTxids nodes, otherTxid ≠ hostTxid ∧
        Relation.TransGen (SpendEdge nodes) hostTxid otherTxid := by
  rw [reachesOtherHost, FiniteGraph.findsGoal_iff, edge_topologyGraph]
  simp only [decide_eq_true_eq]
  constructor
  · intro h
    obtain ⟨otherTxid, hreach, hhost, hne⟩ := h
    exact ⟨otherTxid, hhost, hne, hreach⟩
  · intro h
    obtain ⟨otherTxid, hhost, hne, hreach⟩ := h
    exact ⟨otherTxid, hreach, hhost, hne⟩

theorem mem_terminalVtxoHostTxids {txid : String} :
    txid ∈ terminalVtxoHostTxidsForTopology nodes ↔
      txid ∈ exitHostTxids nodes ∧ reachesOtherHost nodes txid = false := by
  rw [terminalVtxoHostTxidsForTopology]
  dsimp only
  split
  · rename_i hempty
    simp [hempty]
  · simp only [Finset.mem_filter, not_and, Bool.not_eq_true]
    exact ⟨fun h => ⟨h.1, h.2 h.1⟩, fun h => ⟨h.1, fun _ => h.2⟩⟩

theorem mem_terminal_iff_no_other {txid : String} :
    txid ∈ terminalVtxoHostTxidsForTopology nodes ↔
      txid ∈ exitHostTxids nodes ∧ ∀ otherTxid ∈ exitHostTxids nodes,
        Relation.ReflTransGen (SpendEdge nodes) txid otherTxid → otherTxid = txid := by
  rw [mem_terminalVtxoHostTxids, ← Bool.not_eq_true, reachesOtherHost_iff]
  apply and_congr_right
  intro _
  constructor
  · intro hnone otherTxid hhost hreach
    by_contra hne
    cases Relation.reflTransGen_iff_eq_or_transGen.mp hreach with
    | inl heq => exact hne heq
    | inr htrans => exact hnone ⟨otherTxid, hhost, hne, htrans⟩
  · intro hall h
    obtain ⟨otherTxid, hhost, hne, htrans⟩ := h
    exact hne (hall otherTxid hhost htrans.to_reflTransGen)

theorem exists_terminal_below
    (hacyclic : ∀ txid, ¬Relation.TransGen (SpendEdge nodes) txid txid) {hostTxid : String}
    (hhost : hostTxid ∈ exitHostTxids nodes) :
    ∃ terminalTxid ∈ terminalVtxoHostTxidsForTopology nodes,
      Relation.ReflTransGen (SpendEdge nodes) hostTxid terminalTxid := by
  have hswap : ∀ txid, ¬Relation.TransGen (Function.swap (SpendEdge nodes)) txid txid :=
    fun txid hcycle => hacyclic txid (Relation.transGen_swap.mp hcycle)
  obtain ⟨deepest, hdeepest, hreach, hlast⟩ := exists_first_of_acyclic hswap
    (exitHostTxids nodes) (Relation.ReflTransGen (SpendEdge nodes) hostTxid)
    ⟨hostTxid, hhost, .refl⟩
  refine ⟨deepest, mem_terminal_iff_no_other.mpr ⟨hdeepest, ?_⟩, hreach⟩
  intro otherTxid hother hbelow
  cases Relation.reflTransGen_iff_eq_or_transGen.mp hbelow with
  | inl heq => exact heq
  | inr htrans =>
    exact absurd (Relation.transGen_swap.mpr htrans)
      (hlast otherTxid hother (hreach.trans hbelow))

/-- The terminal hosts are the hosts from which no different host is reachable. Where the
transactions spend each other without a cycle, every host reaches one of them. -/
theorem terminal_hosts_are_the_deepest (nodes : List UnilateralExitTopologyNode) :
    (∀ txid, txid ∈ terminalVtxoHostTxidsForTopology nodes ↔
      txid ∈ exitHostTxids nodes ∧ ∀ otherTxid ∈ exitHostTxids nodes,
        Relation.ReflTransGen (SpendEdge nodes) txid otherTxid → otherTxid = txid) ∧
      ((∀ txid, ¬Relation.TransGen (SpendEdge nodes) txid txid) →
        ∀ hostTxid ∈ exitHostTxids nodes,
          ∃ terminalTxid ∈ terminalVtxoHostTxidsForTopology nodes,
            Relation.ReflTransGen (SpendEdge nodes) hostTxid terminalTxid) := by
  refine ⟨fun _ => mem_terminal_iff_no_other, ?_⟩
  intro hacyclic hostTxid hhost
  exact exists_terminal_below hacyclic hhost

def checkpointTopology : List UnilateralExitTopologyNode :=
  [{ txid := "tree", txType := "tree", spends := ["commitment"] },
    { txid := "checkpoint", txType := "checkpoint", spends := ["tree"] },
    { txid := "payment", txType := "ark", spends := ["checkpoint"] }]

def checkpointDepth (txid : String) : Nat :=
  if txid = "payment" then 3 else if txid = "checkpoint" then 2 else if txid = "tree" then 1 else 0

theorem terminal_hosts_below_checkpoint :
    (∀ txid, ¬Relation.TransGen (SpendEdge checkpointTopology) txid txid) ∧
      ∃ terminalTxid ∈ terminalVtxoHostTxidsForTopology checkpointTopology,
        Relation.ReflTransGen (SpendEdge checkpointTopology) "tree" terminalTxid := by
  have hacyclic : ∀ txid, ¬Relation.TransGen (SpendEdge checkpointTopology) txid txid := by
    apply acyclic_of_rank checkpointDepth
    intro parentTxid childTxid hedge
    obtain ⟨node, hnode, rfl, hspends⟩ := hedge
    simp only [checkpointTopology, List.mem_cons, List.not_mem_nil, or_false] at hnode
    rcases hnode with rfl | rfl | rfl
    all_goals
      rw [List.mem_singleton.mp hspends]
      simp [checkpointDepth]
  refine ⟨hacyclic, (terminal_hosts_are_the_deepest checkpointTopology).2 hacyclic "tree" ?_⟩
  simp [exitHostTxids, checkpointTopology, virtualTxTypeHostsExitOutpoints]

end Bitboard.Arkade
