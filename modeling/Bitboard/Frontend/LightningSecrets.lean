/-
# The Lightning connections in the wallet secrets

The secrets of a wallet list its Lightning connections, each with a snapshot of the balance and
the payments that were seen last. The store works with connections that do not carry the
snapshot. A list of these is written over the stored one by looking each snapshot up by the id of
its connection, and patches of snapshots are merged by id as well.

On a list whose ids are distinct, which every write keeps distinct, a write has an effect that
can be said for each connection on its own: what it does to the connections leaves the
snapshots as they are, and what it does to a snapshot leaves the connections as they are.
-/

import Bitboard.Frontend.SendAmount
import Bitboard.Wallet.Payload
import Mathlib.Data.List.Nodup

namespace Bitboard.Frontend

open Wallet (JsNumber LightningNetworkMode LightningPayment NwcConnectionSnapshot
  StoredNwcLightningConnection)

/-- A connection of the wallet as the store has it. Its configuration is a connection string. -/
structure ConnectedLightningWallet where
  id : String
  label : String
  networkMode : LightningNetworkMode
  connectionString : String
  createdAt : String
  deriving DecidableEq

def storedToConnected (stored : StoredNwcLightningConnection) : ConnectedLightningWallet where
  id := stored.id
  label := stored.label
  networkMode := stored.networkMode
  connectionString := stored.connectionString
  createdAt := stored.createdAt

def connectedWalletToStored (connected : ConnectedLightningWallet) :
    StoredNwcLightningConnection where
  id := connected.id
  label := connected.label
  networkMode := connected.networkMode
  connectionString := connected.connectionString
  createdAt := connected.createdAt
  nwcSnapshot := none

/-- A map of the connections by id holds the last one with an id. -/
def connectionById (stored : List StoredNwcLightningConnection) (id : String) :
    Option StoredNwcLightningConnection :=
  stored.reverse.find? fun connection => connection.id = id

variable (previous : List StoredNwcLightningConnection)
variable (next : List ConnectedLightningWallet)

def storedConnectionsWithSnapshots : List StoredNwcLightningConnection :=
  next.map fun connection =>
    match (connectionById previous connection.id).bind (·.nwcSnapshot) with
    | some snapshot => { connectedWalletToStored connection with nwcSnapshot := some snapshot }
    | none => connectedWalletToStored connection

def withoutConnection (connections : List ConnectedLightningWallet) (connectionId : String) :
    List ConnectedLightningWallet :=
  connections.filter fun connection => connection.id ≠ connectionId

/-- The transforms that the store passes as `updateConnections`. -/
inductive LightningConnectionsUpdate where
  | add (connection : ConnectedLightningWallet)
  | remove (connectionId : String)
  | rename (connectionId label : String)

def LightningConnectionsUpdate.apply :
    LightningConnectionsUpdate → List ConnectedLightningWallet → List ConnectedLightningWallet
  | .add connection, connections =>
    withoutConnection connections connection.id ++ [connection]
  | .remove connectionId, connections => withoutConnection connections connectionId
  | .rename connectionId label, connections =>
    connections.map fun connection =>
      if connection.id = connectionId then { connection with label } else connection

/-- The limit of stored payment rows per connection. -/
def MAX_STORED_LIGHTNING_PAYMENTS : Nat := 5000

/-- The difference of the numbers, second less first, is positive. -/
def JsNumber.precedes : JsNumber → JsNumber → Bool
  | .finite first, .finite second => decide (first < second)
  | .finite _, .infinite negative => !negative
  | .infinite negative, .finite _ => negative
  | .infinite true, .infinite false => true
  | _, _ => false

def capLightningPaymentsForSnapshot (payments : List LightningPayment) : List LightningPayment :=
  if payments.length ≤ MAX_STORED_LIGHTNING_PAYMENTS then payments
  else
    (payments.mergeSort fun first second =>
      !JsNumber.precedes first.timestamp second.timestamp).take MAX_STORED_LIGHTNING_PAYMENTS

structure NwcBalancePatch where
  balanceSats : JsNumber
  balanceUpdatedAt : String

structure NwcPaymentsPatch where
  payments : List LightningPayment
  paymentsUpdatedAt : String

structure NwcSnapshotPatch where
  connectionId : String
  balance : Option NwcBalancePatch
  payments : Option NwcPaymentsPatch

def mergeNwcConnectionSnapshot (prev : Option NwcConnectionSnapshot) (patch : NwcSnapshotPatch) :
    NwcConnectionSnapshot :=
  let balanceUpdatedAt :=
    ((patch.balance.map (·.balanceUpdatedAt)).or
      ((prev.map (·.balanceUpdatedAt)).or
        (patch.payments.map (·.paymentsUpdatedAt)))).getD ""
  { balanceSats :=
      ((patch.balance.map (·.balanceSats)).or (prev.map (·.balanceSats))).getD (.finite 0)
    balanceUpdatedAt
    payments :=
      match patch.payments with
      | some new => capLightningPaymentsForSnapshot new.payments
      | none => (prev.map (·.payments)).getD []
    paymentsUpdatedAt :=
      ((patch.payments.map (·.paymentsUpdatedAt)).or
        ((prev.map (·.paymentsUpdatedAt)).or
          (patch.balance.map (·.balanceUpdatedAt)))).getD balanceUpdatedAt }

variable (byId : String → Option StoredNwcLightningConnection)

def patchById (patch : NwcSnapshotPatch) : String → Option StoredNwcLightningConnection :=
  match byId patch.connectionId with
  | none => byId
  | some connectionEntry =>
    Function.update byId patch.connectionId
      (some { connectionEntry with
        nwcSnapshot := some (mergeNwcConnectionSnapshot connectionEntry.nwcSnapshot patch) })

def applyNwcSnapshotPatchesToPayload (stored : List StoredNwcLightningConnection)
    (patches : List NwcSnapshotPatch) : List StoredNwcLightningConnection :=
  let byId := patches.foldl patchById (connectionById stored)
  stored.map fun connection => (byId connection.id).getD connection

inductive LightningUpdate where
  | connections (change : LightningConnectionsUpdate)
  | snapshotPatches (patches : List NwcSnapshotPatch)

/-- The list that `updateLightningConnectionsForWallet` hands to the write. -/
def nextConnections (change : LightningConnectionsUpdate)
    (stored : List StoredNwcLightningConnection) : List ConnectedLightningWallet :=
  change.apply (stored.map storedToConnected)

/-- `runSaveBody`, as a transform of the list that is stored when it writes. -/
def LightningUpdate.write :
    LightningUpdate → List StoredNwcLightningConnection → List StoredNwcLightningConnection
  | .connections change, stored =>
    storedConnectionsWithSnapshots stored (nextConnections change stored)
  | .snapshotPatches patches, stored =>
    if patches = [] then stored else applyNwcSnapshotPatchesToPayload stored patches

/-- What patches make of the snapshot of one connection. -/
def patchedSnapshot (patches : List NwcSnapshotPatch) (connectionId : String)
    (snapshot : Option NwcConnectionSnapshot) : Option NwcConnectionSnapshot :=
  patches.foldl (fun snapshot patch =>
    if patch.connectionId = connectionId then some (mergeNwcConnectionSnapshot snapshot patch)
    else snapshot) snapshot

/-- What an update makes of the snapshot of a connection that stays. -/
def LightningUpdate.snapshot (connectionId : String) (snapshot : Option NwcConnectionSnapshot) :
    LightningUpdate → Option NwcConnectionSnapshot
  | .connections _ => snapshot
  | .snapshotPatches patches => patchedSnapshot patches connectionId snapshot

/-- The purpose of an update, connection by connection. -/
def LightningUpdate.effect :
    LightningUpdate → List StoredNwcLightningConnection → List StoredNwcLightningConnection
  | .connections (.add connection), stored =>
    stored.filter (fun other => other.id ≠ connection.id) ++
      [{ connectedWalletToStored connection with
        nwcSnapshot := (connectionById stored connection.id).bind (·.nwcSnapshot) }]
  | .connections (.remove connectionId), stored =>
    stored.filter fun other => other.id ≠ connectionId
  | .connections (.rename connectionId label), stored =>
    stored.map fun other => if other.id = connectionId then { other with label } else other
  | .snapshotPatches patches, stored =>
    stored.map fun other =>
      { other with nwcSnapshot := patchedSnapshot patches other.id other.nwcSnapshot }

def DistinctIds (stored : List StoredNwcLightningConnection) : Prop :=
  (stored.map (·.id)).Nodup

structure StoredConnections where
  list : List StoredNwcLightningConnection
  distinct : DistinctIds list

variable (update : LightningUpdate)

section Writes

variable {stored : List StoredNwcLightningConnection}

theorem DistinctIds.eq_of_id_eq (hdistinct : DistinctIds stored)
    {first second : StoredNwcLightningConnection} (hfirst : first ∈ stored)
    (hsecond : second ∈ stored) (hid : first.id = second.id) : first = second :=
  List.inj_on_of_nodup_map hdistinct hfirst hsecond hid

variable {connection : StoredNwcLightningConnection}

theorem mem_of_connectionById {id : String} (hfound : connectionById stored id = some connection) :
    connection ∈ stored ∧ connection.id = id := by
  rw [connectionById] at hfound
  have hid := List.find?_some hfound
  exact ⟨List.mem_reverse.mp (List.mem_of_find?_eq_some hfound), of_decide_eq_true hid⟩

theorem connectionById_eq_some (hdistinct : DistinctIds stored) {id : String} :
    connectionById stored id = some connection ↔ connection ∈ stored ∧ connection.id = id := by
  constructor
  · exact mem_of_connectionById
  · intro ⟨hmem, hid⟩
    cases hfound : connectionById stored id with
    | none =>
      have habsent := List.find?_eq_none.mp hfound connection (List.mem_reverse.mpr hmem)
      simp [hid] at habsent
    | some found =>
      obtain ⟨hfoundMem, hfoundId⟩ := mem_of_connectionById hfound
      rw [hdistinct.eq_of_id_eq hfoundMem hmem (hfoundId.trans hid.symm)]

@[simp] theorem storedToConnected_id (connection : StoredNwcLightningConnection) :
    (storedToConnected connection).id = connection.id := rfl

theorem storedConnectionsWithSnapshots_eq :
    storedConnectionsWithSnapshots previous next =
      next.map fun connection => { connectedWalletToStored connection with
        nwcSnapshot := (connectionById previous connection.id).bind (·.nwcSnapshot) } := by
  apply List.map_congr_left
  intro connection _
  cases (connectionById previous connection.id).bind (·.nwcSnapshot) with
  | none | some => rfl

theorem stored_of_connected (hdistinct : DistinctIds stored) (hmem : connection ∈ stored) :
    { connectedWalletToStored (storedToConnected connection) with
      nwcSnapshot := (connectionById stored connection.id).bind (·.nwcSnapshot) } =
      connection := by
  rw [(connectionById_eq_some hdistinct).mpr ⟨hmem, rfl⟩]
  rfl

/-! ## Changes of the list -/

theorem map_id_filter (stored : List StoredNwcLightningConnection) (id : String) :
    (stored.filter fun other => other.id ≠ id).map (·.id) =
      (stored.map (·.id)).filter fun other => other ≠ id := by
  rw [List.filter_map]
  rfl

theorem view_filter (stored : List StoredNwcLightningConnection) (id : String) :
    (stored.filter fun other => other.id ≠ id).map storedToConnected =
      withoutConnection (stored.map storedToConnected) id := by
  rw [withoutConnection, List.filter_map]
  rfl

theorem storedConnectionsWithSnapshots_without (hdistinct : DistinctIds stored) (id : String) :
    storedConnectionsWithSnapshots stored
        (withoutConnection (stored.map storedToConnected) id) =
      stored.filter fun other => other.id ≠ id := by
  rw [← view_filter, storedConnectionsWithSnapshots_eq, List.map_map]
  conv_rhs => rw [← List.map_id (stored.filter _)]
  apply List.map_congr_left
  intro connection hmem
  exact stored_of_connected hdistinct (List.mem_of_mem_filter hmem)

theorem patchById_apply (patch : NwcSnapshotPatch) (id : String) :
    patchById byId patch id = (byId id).map fun connection =>
      { connection with
        nwcSnapshot :=
          if patch.connectionId = id then
            some (mergeNwcConnectionSnapshot connection.nwcSnapshot patch)
          else connection.nwcSnapshot } := by
  rw [patchById]
  by_cases hid : patch.connectionId = id
  · subst hid
    cases hfound : byId patch.connectionId with
    | none => simp [hfound]
    | some connection => simp
  · cases byId patch.connectionId with
    | none => simp [hid]
    | some connection => simp [hid, Function.update_of_ne (Ne.symm hid)]

theorem foldl_patchById (patches : List NwcSnapshotPatch)
    (byId : String → Option StoredNwcLightningConnection) (id : String) :
    patches.foldl patchById byId id = (byId id).map fun connection =>
      { connection with
        nwcSnapshot := patchedSnapshot patches id connection.nwcSnapshot } := by
  induction patches generalizing byId with
  | nil =>
    cases hfound : byId id with
    | none | some => exact hfound
  | cons patch patches ih =>
    rw [List.foldl_cons, ih, patchById_apply, Option.map_map]
    rfl

/-- A save does to the stored list what its update is for. -/
theorem LightningUpdate.write_eq_effect (hdistinct : DistinctIds stored) :
    update.write stored = update.effect stored := by
  cases update with
  | connections change =>
    cases change with
    | add connection =>
      rw [LightningUpdate.write, nextConnections, LightningConnectionsUpdate.apply,
        LightningUpdate.effect, ← storedConnectionsWithSnapshots_without hdistinct]
      simp only [storedConnectionsWithSnapshots_eq, List.map_append, List.map_singleton]
    | remove connectionId =>
      exact storedConnectionsWithSnapshots_without hdistinct connectionId
    | rename connectionId label =>
      rw [LightningUpdate.write, nextConnections, LightningConnectionsUpdate.apply,
        LightningUpdate.effect, storedConnectionsWithSnapshots_eq, List.map_map,
        List.map_map]
      apply List.map_congr_left
      intro connection hmem
      have hstored := stored_of_connected hdistinct hmem
      by_cases hid : connection.id = connectionId
      · simp only [Function.comp_apply, storedToConnected_id, hid, if_pos]
        rw [hid] at hstored
        conv_rhs => rw [← hstored]
        rfl
      · simp only [Function.comp_apply, storedToConnected_id, hid, if_false]
        exact hstored
  | snapshotPatches patches =>
    have hfold : applyNwcSnapshotPatchesToPayload stored patches =
        (LightningUpdate.snapshotPatches patches).effect stored := by
      apply List.map_congr_left
      intro connection hmem
      rw [foldl_patchById, (connectionById_eq_some hdistinct).mpr ⟨hmem, rfl⟩]
      rfl
    rw [LightningUpdate.write]
    split
    · rename_i hempty
      subst hempty
      exact (List.map_id stored).symm
    · exact hfold

theorem LightningUpdate.distinct_effect (hdistinct : DistinctIds stored) :
    DistinctIds (update.effect stored) := by
  cases update with
  | connections change =>
    cases change with
    | add connection =>
      rw [DistinctIds, LightningUpdate.effect, List.map_append, map_id_filter]
      apply List.Nodup.append (hdistinct.filter _) (List.nodup_singleton _)
      intro id hkept hadded
      replace hadded : id = connection.id := List.mem_singleton.mp hadded
      exact of_decide_eq_true (List.mem_filter.mp hkept).2 hadded
    | remove connectionId =>
      rw [DistinctIds, LightningUpdate.effect, map_id_filter]
      exact hdistinct.filter _
    | rename connectionId label =>
      have hids : ((LightningUpdate.connections (.rename connectionId label)).effect
          stored).map (·.id) = stored.map (·.id) := by
        rw [LightningUpdate.effect, List.map_map]
        apply List.map_congr_left
        intro connection _
        show (if _ then _ else _ : StoredNwcLightningConnection).id = connection.id
        split
        · rfl
        · rfl
      rw [DistinctIds, hids]
      exact hdistinct
  | snapshotPatches patches =>
    rw [DistinctIds, LightningUpdate.effect, List.map_map]
    exact hdistinct

def LightningUpdate.view :
    LightningUpdate → List ConnectedLightningWallet → List ConnectedLightningWallet
  | .connections change, list => change.apply list
  | .snapshotPatches _, list => list

theorem LightningUpdate.map_effect (stored : List StoredNwcLightningConnection) :
    (update.effect stored).map storedToConnected = update.view (stored.map storedToConnected) := by
  cases update with
  | connections change =>
    cases change with
    | add connection =>
      rw [LightningUpdate.effect, List.map_append, view_filter]
      rfl
    | remove connectionId => exact view_filter stored connectionId
    | rename connectionId label =>
      rw [LightningUpdate.effect, LightningUpdate.view, LightningConnectionsUpdate.apply,
        List.map_map, List.map_map]
      apply List.map_congr_left
      intro connection _
      show storedToConnected (if _ then _ else _) = if _ then _ else _
      by_cases hid : connection.id = connectionId
      · rw [if_pos hid]
        exact (if_pos hid).symm
      · rw [if_neg hid]
        exact (if_neg hid).symm
  | snapshotPatches patches =>
    rw [LightningUpdate.effect, List.map_map]
    rfl

/-- A connection that is there before and after an update keeps its snapshot, up to the patches
of the update. -/
theorem LightningUpdate.snapshot_effect (hdistinct : DistinctIds stored)
    {before after : StoredNwcLightningConnection} (hbefore : before ∈ stored)
    (hafter : after ∈ update.effect stored) (hid : after.id = before.id) :
    after.nwcSnapshot = update.snapshot before.id before.nwcSnapshot := by
  cases update with
  | connections change =>
    rw [LightningUpdate.snapshot]
    cases change with
    | add connection =>
      cases List.mem_append.mp hafter with
      | inl hkept =>
        rw [hdistinct.eq_of_id_eq (List.mem_of_mem_filter hkept) hbefore hid]
      | inr hadded =>
        rw [List.mem_singleton] at hadded
        subst hadded
        have hfound : connectionById stored connection.id = some before :=
          (connectionById_eq_some hdistinct).mpr ⟨hbefore, hid.symm⟩
        simp only [hfound, Option.bind_some]
    | remove connectionId =>
      rw [hdistinct.eq_of_id_eq (List.mem_of_mem_filter hafter) hbefore hid]
    | rename connectionId label =>
      obtain ⟨connection, hmem, hrenamed⟩ := List.mem_map.mp hafter
      have hsame : connection = before := by
        apply hdistinct.eq_of_id_eq hmem hbefore
        rw [← hid, ← hrenamed]
        split
        · rfl
        · rfl
      rw [← hrenamed, hsame]
      split
      · rfl
      · rfl
  | snapshotPatches patches =>
    obtain ⟨connection, hmem, hpatched⟩ := List.mem_map.mp hafter
    have hsame : connection = before := by
      apply hdistinct.eq_of_id_eq hmem hbefore
      rw [← hid, ← hpatched]
    rw [← hpatched, hsame]
    rfl

end Writes

end Bitboard.Frontend
