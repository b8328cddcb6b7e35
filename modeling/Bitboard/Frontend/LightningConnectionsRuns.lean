/-
# Runs of changes of the Lightning connections

Every call that resolves has its update in the stored list, and the store in memory follows the
stored list, in the runs that stay in step: no save succeeds that a second call has joined, a
removal finds nothing to remove only if nothing is stored, no load fails, and the last call that
has still to put a list into the store puts the stored one. A save that fails takes nothing back,
so that it has to leave the store as it was or to leave a put to another call.
-/

import Bitboard.Frontend.LightningConnectionsOrder

namespace Bitboard.Frontend

open Bitboard.Lib
open InFlightTracker
open Wallet (LightningNetworkMode StoredNwcLightningConnection)

/-- The call has still to put a list of connections into the store. -/
def LightningCall.Puts : LightningCall → Prop
  | .saving (.connections _) _ _ | .reloading _ .starting | .reloading _ (.waiting _) => True
  | _ => False

namespace LightningSystem

variable (system : LightningSystem)

/-- The store has the stored list, and every active id is that of a stored connection of the
network. -/
structure Current : Prop where
  connectedWallets : system.connectedWallets = system.storedForWallet
  active : ∀ networkMode id, system.activeConnectionIds networkMode = some id →
    ∃ connection ∈ system.storedForWallet, connection.id = id ∧ connection.networkMode = networkMode

/-- The stored list comes from the updates of the calls that have resolved, in some order, and
once all calls have settled the store is current. -/
structure Consistent (initial : StoredConnections) : Prop where
  serial : ∃ order, system.SerialOrder initial order
  settled : (∀ id call, system.calls id = some call → call.Settled) → system.Current

/-- Another call than this one, or a load, has still to put a list into the store. -/
def OtherPuts (id : Nat) : Prop :=
  (∃ other call, other ≠ id ∧ system.calls other = some call ∧ call.Puts) ∨
    ∃ promise, (system.loads promise).isSome

/-- A call, or another load than this one, has still to put a list into the store. -/
def PutsBeside (promise : Nat) : Prop :=
  (∃ id call, system.calls id = some call ∧ call.Puts) ∨
    ∃ other, other ≠ promise ∧ (system.loads other).isSome

/-- A call or a load has still to put a list into the store. -/
def Puts : Prop :=
  (∃ id call, system.calls id = some call ∧ call.Puts) ∨
    ∃ promise, (system.loads promise).isSome

/-- The step loses no update, and it puts a list other than the stored one into the store, or
leaves one there, only while another list is still to be put. -/
def StaysInStep : LightningOp → Prop
  | .request id (.removeConnection connectionId) =>
    system.calls id = none →
      (∀ connection ∈ system.connectedWallets, connection.id ≠ connectionId) →
        ∀ connection ∈ system.stored, connection.id ≠ connectionId
  | .finishSave promise =>
    ∀ save id update optimistic, system.saves promise = some save →
      system.calls id = some (.saving update optimistic promise) → save.owner = id
  | .resume id =>
    ∀ change optimistic promise,
      system.calls id = some (.saving (.connections change) optimistic promise) →
        (system.saveTracker.promises[promise]? = some .rejected →
          system.Current ∨ system.OtherPuts id) ∧
        (system.saveTracker.promises[promise]? = some .resolved →
          ∀ connectionId label, change = .rename connectionId label →
            system.writtenForWallet id optimistic promise = system.storedForWallet ∨
              system.OtherPuts id)
  | .reload id networkMode isLightningEnabled loadFailed =>
    ∀ change, system.calls id = some (.reloading change .starting) →
      (isLightningEnabled && isLightningSupported networkMode && !loadFailed) = false →
        system.Current ∨ system.OtherPuts id
  | .finishLoad promise =>
    ∀ connections, system.loads promise = some (some connections) →
      connections = system.storedForWallet ∨ system.PutsBeside promise
  | .failLoad promise => system.loads promise = none
  | _ => True

/-- A load runs for a call that awaits it, and none has failed. -/
structure LoadsSound : Prop where
  running : ∀ promise, (system.loads promise).isSome →
    system.loadTracker.promises[promise]? = some .pending ∧
      ∃ id change, system.calls id = some (.reloading change (.loading promise))
  slot : ∀ current, system.loadTracker.inFlight = some current →
    (system.loads current.promise).isSome
  succeeds : ∀ promise : Nat, system.loadTracker.promises[promise]? ≠ some .rejected

/-- The record is right, and the store is current or a list is still to be put into it. -/
structure InStep (initial : StoredConnections) : Prop where
  recorded : system.Recorded initial
  loads : system.LoadsSound
  current : system.Current ∨ system.Puts

end LightningSystem

variable {initial : StoredConnections} {system : LightningSystem}
variable {connections : List ConnectedLightningWallet}

/-- Every active id that is left by `reconcileActiveLightningConnectionIds` is that of a
connection of the network. -/
theorem mem_of_reconcileActiveLightningConnectionIds
    {activeConnectionIds : ActiveLightningConnectionsByNetwork} {networkMode : LightningNetworkMode}
    {id : String} (hactive : reconcileActiveLightningConnectionIds connections activeConnectionIds
      networkMode = some id) :
    ∃ connection ∈ connections, connection.id = id ∧ connection.networkMode = networkMode := by
  have hforNetwork : ∀ connection,
      connection ∈ connections.filter (fun found => found.networkMode = networkMode) →
        connection ∈ connections ∧ connection.networkMode = networkMode := by
    intro connection hmem
    exact ⟨List.mem_of_mem_filter hmem, of_decide_eq_true (List.mem_filter.mp hmem).2⟩
  rw [reconcileActiveLightningConnectionIds] at hactive
  split at hactive
  · cases hactive
  · rename_i first others hfilter
    rw [hfilter] at hforNetwork
    have hfirst := hforNetwork first List.mem_cons_self
    split at hactive
    · cases hactive
      exact ⟨first, hfirst.1, rfl, hfirst.2⟩
    · rename_i activeId hactiveId
      split at hactive
      · rename_i hany
        cases hactive
        obtain ⟨connection, hmem, hid⟩ := List.any_eq_true.mp hany
        obtain ⟨hconnection, hmode⟩ := hforNetwork connection hmem
        exact ⟨connection, hconnection, of_decide_eq_true hid, hmode⟩
      · cases hactive
        exact ⟨first, hfirst.1, rfl, hfirst.2⟩

variable {promise : Nat}

namespace LightningSystem

theorem current_replaceConnectionsForWallet (system : LightningSystem) :
    (system.replaceConnectionsForWallet system.storedForWallet).Current where
  connectedWallets := rfl
  active := by
    intro networkMode id hactive
    exact mem_of_reconcileActiveLightningConnectionIds hactive

variable {id : Nat}

theorem Puts.of_otherPuts (h : system.OtherPuts id) (call : LightningCall) :
    (system.setCall id call).Puts := by
  cases h with
  | inl hcall =>
    obtain ⟨other, found, hne, hother, hputs⟩ := hcall
    exact .inl ⟨other, found, (setCall_calls_of_ne hne call).trans hother, hputs⟩
  | inr hload => exact .inr hload

theorem Puts.of_call {call : LightningCall} (hcall : system.calls id = some call)
    (hputs : call.Puts) : system.Puts :=
  .inl ⟨id, call, hcall, hputs⟩

theorem Puts.otherPuts (h : system.Puts)
    (hcall : ∀ call, system.calls id = some call → ¬ call.Puts) : system.OtherPuts id := by
  cases h with
  | inl hputs =>
    obtain ⟨other, call, hother, hputs⟩ := hputs
    refine .inl ⟨other, call, ?_, hother, hputs⟩
    intro heq
    subst heq
    exact hcall call hother hputs
  | inr hload => exact .inr hload

theorem current_setCall (h : system.Current ∨ system.Puts) (call : LightningCall)
    (hcall : ∀ old, system.calls id = some old → ¬ old.Puts) :
    (system.setCall id call).Current ∨ (system.setCall id call).Puts := by
  cases h with
  | inl hcurrent => exact .inl ⟨hcurrent.connectedWallets, hcurrent.active⟩
  | inr hputs => exact .inr (Puts.of_otherPuts (hputs.otherPuts hcall) call)

theorem current_setCall_of_otherPuts (h : system.Current ∨ system.OtherPuts id)
    (call : LightningCall) :
    (system.setCall id call).Current ∨ (system.setCall id call).Puts := by
  cases h with
  | inl hcurrent => exact .inl ⟨hcurrent.connectedWallets, hcurrent.active⟩
  | inr hputs => exact .inr (Puts.of_otherPuts hputs call)

namespace LoadsSound

section

variable (h : system.LoadsSound)
include h

theorem setCall {id : Nat} (call : LightningCall)
    (hload : ∀ change promise, system.calls id = some (.reloading change (.loading promise)) →
      ¬ (system.loads promise).isSome) :
    (system.setCall id call).LoadsSound where
  running := by
    intro promise hruns
    obtain ⟨hpending, other, change, hother⟩ := h.running promise hruns
    refine ⟨hpending, other, change, ?_⟩
    have hne : other ≠ id := by
      intro heq
      subst heq
      exact hload change promise hother hruns
    exact (setCall_calls_of_ne hne call).trans hother
  slot := h.slot
  succeeds := h.succeeds

theorem setCall_of_ne {id : Nat} (call : LightningCall) (hload : ∀ change promise,
      system.calls id ≠ some (.reloading change (.loading promise))) :
    (system.setCall id call).LoadsSound := by
  apply h.setCall call
  intro change promise hcall
  exact absurd hcall (hload change promise)

theorem orchestrateSave {id : Nat} (hload : ∀ change promise,
      system.calls id ≠ some (.reloading change (.loading promise))) (key : LightningSaveKey)
    (update : LightningUpdate) (optimistic : List ConnectedLightningWallet) :
    (system.orchestrateSave id key update optimistic).LoadsSound := by
  rw [LightningSystem.orchestrateSave]
  split
  · exact h.setCall_of_ne _ hload
  · rename_i hnone
    have hset := h.setCall_of_ne
      (.saving update optimistic system.saveTracker.promises.length) hload
    exact ⟨hset.running, hset.slot, hset.succeeds⟩

theorem beginLoad {id : Nat} {change : LightningConnectionsUpdate} (hload : ∀ found promise,
      system.calls id ≠ some (.reloading found (.loading promise))) (key : NetworkMode) :
    (system.beginLoad id change key).LoadsSound := by
  rw [LightningSystem.beginLoad]
  split
  · exact h.setCall_of_ne _ hload
  · rename_i hnone
    have hlength : ∀ promise, (system.loads promise).isSome →
        promise < system.loadTracker.promises.length := by
      intro promise hruns
      exact (List.getElem?_eq_some_iff.mp (h.running promise hruns).1).choose
    exact {
      running := by
        intro promise hruns
        by_cases hnew : promise = system.loadTracker.promises.length
        · subst hnew
          exact ⟨promises_begin_self hnone, id, change, setCall_calls_self id _⟩
        · dsimp only at hruns
          rw [Function.update_of_ne hnew] at hruns
          obtain ⟨hpending, other, found, hother⟩ := h.running promise hruns
          refine ⟨(promises_begin_of_lt hnone (hlength promise hruns)).trans
            hpending, other, found, ?_⟩
          have hne : other ≠ id := by
            intro heq
            subst heq
            exact hload found promise hother
          exact (setCall_calls_of_ne hne _).trans hother
      slot := by
        intro current hslot
        rw [begin_of_not_coalesced hnone, Option.some.injEq] at hslot
        subst hslot
        show (Function.update system.loads system.loadTracker.promises.length (some none)
          system.loadTracker.promises.length).isSome
        rw [Function.update_self]
        rfl
      succeeds := by
        intro promise
        dsimp only
        rw [begin_of_not_coalesced hnone, List.getElem?_append]
        split
        · exact h.succeeds promise
        · rw [List.getElem?_singleton]
          split
          · exact fun hstatus => PromiseStatus.noConfusion (Option.some.inj hstatus)
          · intro hstatus
            cases hstatus }

/-- A load puts its list and ends. -/
theorem finishLoad (hruns : (system.loads promise).isSome)
    (connections : List ConnectedLightningWallet) :
    ({ system.replaceConnectionsForWallet connections with
      loads := Function.update system.loads promise none
      loadTracker := system.loadTracker.settle promise .resolved } :
        LightningSystem).LoadsSound where
  running := by
    intro other hother
    by_cases heq : other = promise
    · subst heq
      dsimp only at hother
      rw [Function.update_self] at hother
      cases hother
    · dsimp only at hother
      rw [Function.update_of_ne heq] at hother
      obtain ⟨hpending, hcall⟩ := h.running other hother
      exact ⟨(promises_settle_of_ne heq _).trans hpending, hcall⟩
  slot := by
    intro current hcurrent
    obtain ⟨hslot, hne⟩ := Option.filter_eq_some_iff.mp hcurrent
    dsimp only
    rw [Function.update_of_ne (of_decide_eq_true hne)]
    exact h.slot current hslot
  succeeds := by
    intro other
    dsimp only
    by_cases heq : other = promise
    · subst heq
      have hlt := (List.getElem?_eq_some_iff.mp (h.running other hruns).1).choose
      rw [promises_settle_self hlt]
      exact fun hstatus => PromiseStatus.noConfusion (Option.some.inj hstatus)
    · rw [promises_settle_of_ne heq]
      exact h.succeeds other

theorem readLoad (hruns : (system.loads promise).isSome)
    (connections : List ConnectedLightningWallet) :
    ({ system with
      loads := Function.update system.loads promise (some (some connections)) } :
        LightningSystem).LoadsSound := by
  have hsame : ∀ other,
      (Function.update system.loads promise (some (some connections)) other).isSome ↔
        (system.loads other).isSome := by
    intro other
    by_cases heq : other = promise
    · subst heq
      rw [Function.update_self]
      exact iff_of_true rfl hruns
    · rw [Function.update_of_ne heq]
  exact {
    running := by
      intro other hother
      exact h.running other ((hsame other).mp hother)
    slot := by
      intro current hslot
      exact (hsame current.promise).mpr (h.slot current hslot)
    succeeds := h.succeeds }

end

end LoadsSound

/-! ## What one step keeps -/

theorem current_orchestrateSave (h : system.Current ∨ system.Puts)
    (hcall : ∀ old, system.calls id = some old → ¬ old.Puts) (key : LightningSaveKey)
    (update : LightningUpdate) (optimistic : List ConnectedLightningWallet) :
    (system.orchestrateSave id key update optimistic).Current ∨
      (system.orchestrateSave id key update optimistic).Puts := by
  rw [LightningSystem.orchestrateSave]
  split
  · exact current_setCall h _ hcall
  · have hset := current_setCall h
      (.saving update optimistic system.saveTracker.promises.length) hcall
    apply hset.imp_left
    intro hcurrent
    exact ⟨hcurrent.connectedWallets, hcurrent.active⟩

theorem puts_orchestrateSave (id : Nat) (key : LightningSaveKey)
    (change : LightningConnectionsUpdate) (optimistic : List ConnectedLightningWallet) :
    (system.orchestrateSave id key (.connections change) optimistic).Puts := by
  rw [LightningSystem.orchestrateSave]
  split
  · exact Puts.of_call (setCall_calls_self id _) trivial
  · exact Puts.of_call (setCall_calls_self id _) trivial

theorem LoadsSound.puts_beginLoad (h : system.LoadsSound) (id : Nat)
    (change : LightningConnectionsUpdate) (key : NetworkMode) :
    (system.beginLoad id change key).Puts := by
  rw [LightningSystem.beginLoad]
  split
  · rename_i promise hcoalesced
    obtain ⟨current, hslot, -, rfl⟩ := exists_of_coalesced hcoalesced
    exact .inr ⟨current.promise, h.slot current hslot⟩
  · refine .inr ⟨system.loadTracker.promises.length, ?_⟩
    dsimp only
    rw [Function.update_self]
    rfl

theorem LoadsSound.puts_orchestrateLightningLoad (h : system.LoadsSound) (id : Nat)
    (change : LightningConnectionsUpdate) (key : NetworkMode) :
    (system.orchestrateLightningLoad id change key).Puts := by
  rw [LightningSystem.orchestrateLightningLoad]
  split
  · rename_i promise hcoalesced
    obtain ⟨current, hslot, -, rfl⟩ := exists_of_coalesced hcoalesced
    exact .inr ⟨current.promise, h.slot current hslot⟩
  · split
    · exact Puts.of_call (setCall_calls_self id _) trivial
    · exact Puts.of_call (setCall_calls_self id _) trivial

namespace InStep

variable {id : Nat}

theorem request (h : system.InStep initial) (hnone : system.calls id = none)
    (request : LightningRequest) (hstep : system.StaysInStep (.request id request)) :
    (system.request id request).InStep initial := by
  have hputs : ∀ old, system.calls id = some old → ¬ old.Puts := by
    intro old hold
    rw [hnone] at hold
    cases hold
  have hload : ∀ change promise, system.calls id ≠ some (.reloading change (.loading promise)) := by
    intro change promise hcall
    rw [hnone] at hcall
    cases hcall
  have hrecorded : (system.request id request).Recorded initial := by
    apply h.recorded.request hnone
    intro connectionId hremove
    subst hremove
    exact hstep hnone
  have hset : ∀ call : LightningCall, (system.setCall id call).LoadsSound ∧
      ((system.setCall id call).Current ∨ (system.setCall id call).Puts) := by
    intro call
    exact ⟨h.loads.setCall_of_ne call hload, current_setCall h.current call hputs⟩
  suffices hshown : (system.request id request).LoadsSound ∧
      ((system.request id request).Current ∨ (system.request id request).Puts) from
    ⟨hrecorded, hshown.1, hshown.2⟩
  cases request with
  | addConnection label networkMode connectionString =>
    rw [LightningSystem.request]
    split
    · exact hset _
    · exact hset _
  | removeConnection connectionId =>
    rw [LightningSystem.request]
    split
    · obtain ⟨hloads, hcurrent⟩ := hset (.resolved (.connections (.remove connectionId)))
      refine ⟨⟨hloads.running, hloads.slot, hloads.succeeds⟩, ?_⟩
      apply hcurrent.imp_left
      intro hcurrent
      exact ⟨hcurrent.connectedWallets, hcurrent.active⟩
    · exact hset _
  | renameConnection connectionId newLabel =>
    simp only [LightningSystem.request]
    split
    · exact hset _
    · split
      · exact hset _
      · exact hset _
  | saveSnapshotPatches networkMode patches =>
    exact ⟨h.loads.orchestrateSave hload _ _ _, current_orchestrateSave h.current hputs _ _ _⟩

/-- A call goes on that has not asked for its save. -/
theorem setCall_unsaved (h : system.InStep initial) {old call : LightningCall}
    (hold : system.calls id = some old) (hunsaved : old.Unsaved)
    (hcall : call.Unsaved ∨ call = .rejected) : (system.setCall id call).InStep initial where
  recorded := by
    apply h.recorded.setCall_unsaved _ hcall
    intro found hfound
    cases hold.symm.trans hfound
    exact hunsaved
  loads := by
    apply h.loads.setCall_of_ne
    intro change promise hfound
    cases hold.symm.trans hfound
    exact hunsaved
  current := by
    apply current_setCall h.current
    intro found hfound
    cases hold.symm.trans hfound
    intro hputs
    cases old with
    | reading | read => exact hputs
    | saving | reloading | resolved | rejected => exact hunsaved

/-- The call shows its change and asks for its save. -/
theorem commit (h : system.InStep initial) {request : ConnectionsRequest}
    {stored : List ConnectedLightningWallet}
    (hcall : system.calls id = some (.read request stored)) (networkMode : LightningNetworkMode)
    (change : LightningConnectionsUpdate) :
    (system.commitLightningConnectionsUpdate id networkMode stored change).InStep initial where
  recorded := by
    apply h.recorded.commitLightningConnectionsUpdate
    intro old hold
    cases hcall.symm.trans hold
    trivial
  loads := by
    have hshown : ({ system with
        connectedWallets := change.apply stored
        activeConnectionIds :=
          change.activeConnectionIds (change.apply stored)
            system.activeConnectionIds } : LightningSystem).LoadsSound :=
      ⟨h.loads.running, h.loads.slot, h.loads.succeeds⟩
    apply hshown.orchestrateSave
    intro found promise hfound
    cases hcall.symm.trans hfound
  current := .inr (puts_orchestrateSave id _ change _)

variable {update : LightningUpdate}

theorem write (h : system.InStep initial) {owner : Nat}
    (hsave : system.saves promise = some ⟨owner, update, none⟩)
    (hruns : system.saveTracker.promises[promise]? = some .pending)
    (list : List ConnectedLightningWallet) :
    ({ system with
      stored := update.write system.stored
      saves := Function.update system.saves promise (some ⟨owner, update, some list⟩)
      written := system.written ++ [(owner, update)] } : LightningSystem).InStep initial where
  recorded := h.recorded.write hsave hruns list
  loads := ⟨h.loads.running, h.loads.slot, h.loads.succeeds⟩
  current := by
    cases update with
    | connections change =>
      cases (h.recorded.unwritten promise owner _ hsave).2 with
      | inl hsaving =>
        obtain ⟨optimistic, hcall⟩ := hsaving
        exact .inr (Puts.of_call hcall trivial)
      | inr hrejected => cases hruns.symm.trans hrejected.2
    | snapshotPatches patches =>
      have hview : ((LightningUpdate.snapshotPatches patches).write system.stored).map
          storedToConnected = system.storedForWallet := by
        rw [LightningUpdate.write_eq_effect _ h.recorded.distinct, LightningUpdate.map_effect]
        rfl
      apply h.current.imp_left
      intro hcurrent
      constructor
      · exact hcurrent.connectedWallets.trans hview.symm
      · intro networkMode id hactive
        obtain ⟨connection, hmem, hid⟩ := hcurrent.active networkMode id hactive
        rw [← hview] at hmem
        exact ⟨connection, hmem, hid⟩

theorem settleSave (h : system.InStep initial) {tracker : InFlightTracker LightningSaveKey}
    (hrecorded : ({ system with saveTracker := tracker } : LightningSystem).Recorded initial) :
    ({ system with saveTracker := tracker } : LightningSystem).InStep initial where
  recorded := hrecorded
  loads := ⟨h.loads.running, h.loads.slot, h.loads.succeeds⟩
  current := by
    apply h.current.imp_left
    intro hcurrent
    exact ⟨hcurrent.connectedWallets, hcurrent.active⟩

variable {optimistic : List ConnectedLightningWallet}

/-- The call goes on after its save. -/
theorem resume (h : system.InStep initial) {id : Nat}
    (hcall : system.calls id = some (.saving update optimistic promise))
    (hresolved : system.saveTracker.promises[promise]? = some .resolved)
    (hstep : system.StaysInStep (.resume id)) :
    (system.resumeSaved id update optimistic promise).InStep initial := by
  have hload : ∀ change found, system.calls id ≠ some (.reloading change (.loading found)) := by
    intro change found hfound
    cases hcall.symm.trans hfound
  have hput : (system.replaceConnectionsForWallet
      (system.writtenForWallet id optimistic promise)).LoadsSound :=
    ⟨h.loads.running, h.loads.slot, h.loads.succeeds⟩
  have hrecorded := h.recorded.resumeSaved hcall hresolved
  cases update with
  | snapshotPatches patches =>
    refine ⟨hrecorded, h.loads.setCall_of_ne _ hload, ?_⟩
    apply current_setCall h.current
    intro old hold hputs
    cases hcall.symm.trans hold
    exact hputs
  | connections change =>
    cases change with
    | add | remove =>
      exact ⟨hrecorded, hput.setCall_of_ne _ hload,
        .inr (Puts.of_call (setCall_calls_self id _) trivial)⟩
    | rename connectionId label =>
      refine ⟨hrecorded, hput.setCall_of_ne _ hload, ?_⟩
      have hlist := (hstep _ optimistic promise hcall).2 hresolved connectionId label rfl
      cases hlist with
      | inl hstored =>
        have hcurrent := current_replaceConnectionsForWallet system
        rw [← hstored] at hcurrent
        exact .inl ⟨hcurrent.connectedWallets, hcurrent.active⟩
      | inr hother => exact .inr (Puts.of_otherPuts hother _)

theorem reject (h : system.InStep initial) {id : Nat}
    (hcall : system.calls id = some (.saving update optimistic promise))
    (hrejected : system.saveTracker.promises[promise]? = some .rejected)
    (hstep : system.StaysInStep (.resume id)) :
    (system.setCall id .rejected).InStep initial where
  recorded := h.recorded.setCall_rejected hcall hrejected
  loads := by
    apply h.loads.setCall_of_ne
    intro change found hfound
    cases hcall.symm.trans hfound
  current := by
    cases update with
    | snapshotPatches patches =>
      apply current_setCall h.current
      intro old hold hputs
      cases hcall.symm.trans hold
      exact hputs
    | connections change =>
      exact current_setCall_of_otherPuts
        ((hstep change optimistic promise hcall).1 hrejected) .rejected

variable {change : LightningConnectionsUpdate} {reload : LightningReload}

section

variable (h : system.InStep initial)
include h

theorem setCall_waiting (hcall : system.calls id = some (.reloading change reload))
    (hload : ∀ promise, reload ≠ .loading promise) (wait : DifferentWorkWait NetworkMode) :
    (system.setCall id (.reloading change (.waiting wait))).InStep initial where
  recorded := by
    apply h.recorded.setCall_saved hcall (.inl _)
    · exact rfl
    · exact rfl
  loads := by
    apply h.loads.setCall_of_ne
    intro found promise hfound
    cases hcall.symm.trans hfound
    exact hload promise rfl
  current := .inr (Puts.of_call (setCall_calls_self id _) trivial)

theorem beginLoad (hcall : system.calls id = some (.reloading change reload))
    (hload : ∀ promise, reload ≠ .loading promise) (key : NetworkMode) :
    (system.beginLoad id change key).InStep initial where
  recorded := h.recorded.beginLoad hcall key
  loads := by
    apply h.loads.beginLoad
    intro found promise hfound
    cases hcall.symm.trans hfound
    exact hload promise rfl
  current := .inr (h.loads.puts_beginLoad id change key)

theorem orchestrateLightningLoad (hcall : system.calls id = some (.reloading change .starting))
    (key : NetworkMode) :
    (system.orchestrateLightningLoad id change key).InStep initial where
  recorded := h.recorded.orchestrateLightningLoad hcall key
  loads := by
    have hload : ∀ found promise, system.calls id ≠ some (.reloading found (.loading promise)) := by
      intro found promise hfound
      cases hcall.symm.trans hfound
    rw [LightningSystem.orchestrateLightningLoad]
    split
    · exact h.loads.setCall_of_ne _ hload
    · split
      · exact h.loads.setCall_of_ne _ hload
      · exact h.loads.setCall_of_ne _ hload
  current := .inr (h.loads.puts_orchestrateLightningLoad id change key)

theorem resolve (hcall : system.calls id = some (.reloading change reload))
    (hload : ∀ promise, reload = .loading promise → ¬ (system.loads promise).isSome)
    (hcurrent : system.Current ∨ system.OtherPuts id) :
    (system.setCall id (.resolved (.connections change))).InStep initial where
  recorded := by
    apply h.recorded.setCall_saved hcall (.inl _)
    · exact rfl
    · exact rfl
  loads := by
    apply h.loads.setCall
    intro found promise hfound
    cases hcall.symm.trans hfound
    exact hload promise rfl
  current := current_setCall_of_otherPuts hcurrent _

/-- A load that has read the list puts it into the store. -/
theorem finishLoad (hload : system.loads promise = some (some connections))
    (hlist : connections = system.storedForWallet ∨ system.PutsBeside promise) :
    ({ system.replaceConnectionsForWallet connections with
      loads := Function.update system.loads promise none
      loadTracker := system.loadTracker.settle promise .resolved } :
        LightningSystem).InStep initial where
  recorded := (h.recorded.replaceConnectionsForWallet connections).setLoads _ _
  loads := h.loads.finishLoad (Option.isSome_of_eq_some hload) connections
  current := by
    cases hlist with
    | inl hstored =>
      subst hstored
      have hcurrent := current_replaceConnectionsForWallet system
      exact .inl ⟨hcurrent.connectedWallets, hcurrent.active⟩
    | inr hputs =>
      cases hputs with
      | inl hcall => exact .inr (.inl hcall)
      | inr hother =>
        obtain ⟨other, hne, hruns⟩ := hother
        refine .inr (.inr ⟨other, ?_⟩)
        dsimp only
        rw [Function.update_of_ne hne]
        exact hruns

/-- A save ends, as no other call has joined it. -/
theorem step_finishSave (promise : Nat) (hstep : system.StaysInStep (.finishSave promise)) :
    (lightningStep system (.finishSave promise)).InStep initial := by
  rw [lightningStep]
  split
  · rename_i owner update list hsave
    split
    · rename_i hruns
      apply h.settleSave
      apply h.recorded.settle hsave hruns
      · intro _
        refine ⟨rfl, ?_⟩
        intro id asked optimistic hcall
        exact hstep _ id asked optimistic hsave hcall
      · intro hne
        exact absurd rfl hne
    · exact h
  · exact h

/-- A save that has not written fails. -/
theorem step_failSave (promise : Nat) :
    (lightningStep system (.failSave promise)).InStep initial := by
  rw [lightningStep]
  split
  · rename_i owner update hsave
    split
    · rename_i hruns
      apply h.settleSave
      apply h.recorded.settle hsave hruns
      · exact PromiseStatus.noConfusion
      · exact fun _ => ⟨rfl, rfl⟩
    · exact h
  · exact h

/-- A call goes on after its save. -/
theorem step_resume (id : Nat) (hstep : system.StaysInStep (.resume id)) :
    (lightningStep system (.resume id)).InStep initial := by
  rw [lightningStep]
  split
  · rename_i update optimistic promise hcall
    split
    · rename_i hresolved
      exact h.resume hcall hresolved hstep
    · rename_i hrejected
      exact h.reject hcall hrejected hstep
    · exact h
  · exact h

/-- The load after a change is asked for, or there is none. -/
theorem step_reload (id : Nat) (networkMode : NetworkMode) (isLightningEnabled loadFailed : Bool)
    (hstep : system.StaysInStep (.reload id networkMode isLightningEnabled loadFailed)) :
    (lightningStep system (.reload id networkMode isLightningEnabled loadFailed)).InStep
      initial := by
  rw [lightningStep]
  split
  · rename_i change hcall
    split
    · exact h.orchestrateLightningLoad hcall networkMode
    · rename_i hskipped
      apply h.resolve hcall
      · intro promise hload
        cases hload
      · exact hstep change hcall (Bool.eq_false_of_not_eq_true hskipped)
  · exact h

/-- A call that has waited for another load begins its own. -/
theorem step_proceed (id : Nat) : (lightningStep system (.proceed id)).InStep initial := by
  rw [lightningStep]
  split
  · rename_i hcall
    exact h.beginLoad hcall (fun _ hload => LightningReload.noConfusion hload) _
  · rename_i promise hcall
    split
    · exact h.beginLoad hcall (fun _ hload => LightningReload.noConfusion hload) _
    · rename_i hrejected
      exact absurd hrejected (h.loads.succeeds promise)
    · exact h
  · exact h

/-- A load reads the stored list. -/
theorem step_readLoad (promise : Nat) :
    (lightningStep system (.readLoad promise)).InStep initial := by
  rw [lightningStep]
  split
  · rename_i hload
    have hruns : (system.loads promise).isSome := Option.isSome_of_eq_some hload
    refine ⟨h.recorded.setLoads _ _, h.loads.readLoad hruns _, .inr (.inr ⟨promise, ?_⟩)⟩
    dsimp only
    rw [Function.update_self]
    rfl
  · exact h

/-- A call goes on after its load. -/
theorem step_loaded (id : Nat) : (lightningStep system (.loaded id)).InStep initial := by
  rw [lightningStep]
  split
  · rename_i change promise hcall
    split
    · rename_i hresolved
      have hover : ¬ (system.loads promise).isSome := by
        intro hruns
        cases hresolved.symm.trans (h.loads.running promise hruns).1
      apply h.resolve hcall
      · intro found hfound
        cases hfound
        exact hover
      · apply h.current.imp_right
        intro hputs
        apply hputs.otherPuts
        intro call hfound hcallPuts
        cases hcall.symm.trans hfound
        exact hcallPuts
    · rename_i hrejected
      exact absurd hrejected (h.loads.succeeds promise)
    · exact h
  · exact h

/-- A step that stays in step. -/
theorem step (op : LightningOp) (hstep : system.StaysInStep op) :
    (lightningStep system op).InStep initial := by
  cases op with
  | request id request =>
    rw [lightningStep]
    split
    · exact h
    · rename_i hnone
      exact h.request hnone request hstep
  | readStored id =>
    rw [lightningStep]
    split
    · rename_i hcall
      exact h.setCall_unsaved hcall trivial (.inl trivial)
    · exact h
  | readFails id =>
    rw [lightningStep]
    split
    · rename_i hcall
      exact h.setCall_unsaved hcall trivial (.inr rfl)
    · exact h
  | commit id newId createdAt =>
    rw [lightningStep]
    split
    · rename_i hcall
      split
      · exact h.setCall_unsaved hcall trivial (.inr rfl)
      · exact h.commit hcall _ _
    · exact h
  | write promise =>
    rw [lightningStep]
    split
    · rename_i hsave
      split
      · rename_i hruns
        exact h.write hsave hruns _
      · exact h
    · exact h
  | finishSave promise => exact h.step_finishSave _ hstep
  | failSave promise => exact h.step_failSave _
  | resume id => exact h.step_resume _ hstep
  | reload id networkMode isLightningEnabled loadFailed => exact h.step_reload _ _ _ _ hstep
  | wake id =>
    rw [lightningStep]
    split
    · rename_i hcall
      split
      · exact h
      · exact h.setCall_waiting hcall (fun _ hload => LightningReload.noConfusion hload) _
    · exact h
  | proceed id => exact h.step_proceed _
  | readLoad promise => exact h.step_readLoad _
  | finishLoad promise =>
    rw [lightningStep]
    split
    · rename_i connections hload
      exact h.finishLoad hload (hstep connections hload)
    · exact h
  | failLoad promise =>
    rw [lightningStep]
    split
    · rename_i hload
      cases hload.symm.trans hstep
    · exact h
  | loaded id => exact h.step_loaded _

end

theorem openLightningRail (initial : StoredConnections)
    (activeConnectionIds : ActiveLightningConnectionsByNetwork) :
    (openLightningRail initial activeConnectionIds).InStep initial where
  recorded := {
    stored := rfl
    once := List.nodup_nil
    listed := by intro id call update hcall; cases hcall
    entry := by intro id update hmem; cases hmem
    saving := by intro id update optimistic promise hcall; cases hcall
    unwritten := by intro promise owner update hsave; cases hsave
    written := by intro promise owner update list hsave; cases hsave
    bound := by intro promise save hsave; cases hsave
    slot := by intro current hslot; cases hslot }
  loads := {
    running := by intro promise hruns; cases hruns
    slot := by intro current hslot; cases hslot
    succeeds := by intro promise hrejected; cases hrejected }
  current := by
    apply Or.inl
    constructor
    · rfl
    · intro networkMode id hactive
      exact mem_of_reconcileActiveLightningConnectionIds hactive

/-- Once all calls have settled nothing is left to be put. -/
theorem consistent (h : system.InStep initial) : system.Consistent initial where
  serial := ⟨system.written, h.recorded.serialOrder⟩
  settled := by
    intro hsettled
    apply h.current.resolve_right
    intro hputs
    have hover : ∀ id call, system.calls id = some call → ¬ call.Puts ∧
        ∀ change promise, call ≠ .reloading change (.loading promise) := by
      intro id call hcall
      have hdone := hsettled id call hcall
      cases call with
      | reading | read | saving | reloading => cases hdone
      | resolved | rejected =>
        exact ⟨fun hcallPuts => hcallPuts, fun _ _ heq => LightningCall.noConfusion heq⟩
    cases hputs with
    | inl hcall =>
      obtain ⟨id, call, hcall, hcallPuts⟩ := hcall
      exact (hover id call hcall).1 hcallPuts
    | inr hload =>
      obtain ⟨promise, hruns⟩ := hload
      obtain ⟨-, id, change, hcall⟩ := h.loads.running promise hruns
      exact (hover id _ hcall).2 change promise rfl

end InStep

end LightningSystem

/-- However calls and failures interleave, in a run whose every step stays in step the stored list
comes from the updates of exactly the calls that have resolved, and once all calls have settled the
store has the stored list and active ids of stored connections. -/
theorem lightning_connections_stay_consistent (initial : StoredConnections)
    (activeConnectionIds : ActiveLightningConnectionsByNetwork) (ops : List LightningOp)
    (hmeets : RunMeets lightningStep LightningSystem.StaysInStep
      (openLightningRail initial activeConnectionIds) ops) :
    (lightningRun initial activeConnectionIds ops).Consistent initial := by
  apply LightningSystem.InStep.consistent
  apply run_invariant_of_runMeets (fun system => system.InStep initial) _ _ hmeets
  · intro system op hstep h
    exact h.step op hstep
  · exact LightningSystem.InStep.openLightningRail initial activeConnectionIds

def oneConnection : StoredConnections where
  list := [{
    id := "x", label := "First", networkMode := .signet
    connectionString := "nostr+walletconnect://first", createdAt := "2026", nwcSnapshot := none }]
  distinct := List.nodup_singleton _

def additionDuringPoll : List LightningOp :=
  [.request 0 (.addConnection "One" .signet "nostr+walletconnect://one"),
    .request 1 (.saveSnapshotPatches .signet
      [{ connectionId := "x", payments := none
         balance := some { balanceSats := .finite 21, balanceUpdatedAt := "2027" } }]),
    .readStored 0, .commit 0 "a" "2027", .write 1, .write 0, .finishSave 0, .finishSave 1,
    .resume 1, .resume 0, .reload 0 .signet true false, .proceed 0, .readLoad 0, .finishLoad 0,
    .loaded 0]

/-- Both calls resolve, and the stored list has the addition and the patch. -/
theorem lightning_connections_stay_consistent_during_poll :
    (lightningRun oneConnection (fun _ => none) additionDuringPoll).Consistent oneConnection ∧
      (lightningRun oneConnection (fun _ => none) additionDuringPoll).stored.map (·.id) =
        ["x", "a"] := by
  refine ⟨?_, by decide +kernel⟩
  apply lightning_connections_stay_consistent
  refine ⟨trivial, trivial, trivial, trivial, trivial, trivial, ?_, ?_, ?_, ?_, ?_, trivial,
    trivial, ?_, trivial, trivial⟩
  · intro save id update optimistic hsave hcall
    cases hsave
    cases id with
    | zero => cases hcall
    | succ id =>
        cases id with
        | zero => rfl
        | succ id => cases hcall
  · intro save id update optimistic hsave hcall
    cases hsave
    cases id with
    | zero => rfl
    | succ id =>
        cases id with
        | zero | succ => cases hcall
  · intro change optimistic promise hcall
    cases hcall
  · intro change optimistic promise hcall
    cases hcall
    constructor
    · intro hrejected
      cases hrejected
    · intro _ connectionId label hrename
      cases hrename
  · intro change hcall hskipped
    cases hskipped
  · intro connections hload
    cases hload
    exact .inl rfl

theorem exists_mem_appliedUpdates_of_add {list : List StoredNwcLightningConnection}
    {order : List (Nat × LightningUpdate)}
    (hadds : ∀ entry ∈ order, ∃ connection, entry.2 = .connections (.add connection))
    {id : Nat} {connection : ConnectedLightningWallet}
    (hmem : (id, .connections (.add connection)) ∈ order) :
    ∃ stored ∈ appliedUpdates list order, stored.id = connection.id := by
  induction order using List.reverseRecOn with
  | nil => cases hmem
  | append_singleton order last ih =>
    rw [appliedUpdates_append]
    obtain ⟨added, hlast⟩ := hadds last (List.mem_append_right _ (List.mem_singleton_self _))
    rw [hlast]
    by_cases hsame : connection.id = added.id
    · exact ⟨_, List.mem_append_right _ (List.mem_singleton_self _), hsame.symm⟩
    · cases List.mem_append.mp hmem with
      | inl hearlier =>
        obtain ⟨stored, hstored, hid⟩ := ih
          (fun entry hentry => hadds entry (List.mem_append_left _ hentry)) hearlier
        refine ⟨stored, List.mem_append_left _ (List.mem_filter.mpr ⟨hstored, ?_⟩), hid⟩
        exact decide_eq_true (fun heq => hsame (hid.symm.trans heq))
      | inr hequal =>
        rw [← List.mem_singleton.mp hequal] at hlast
        cases hlast
        exact absurd rfl hsame

def noConnections : StoredConnections where
  list := []
  distinct := List.nodup_nil

def twoAdditions : List LightningOp :=
  [.request 0 (.addConnection "One" .signet "nostr+walletconnect://one"),
    .request 1 (.addConnection "Two" .signet "nostr+walletconnect://two"),
    .readStored 0, .readStored 1, .commit 0 "a" "2026", .commit 1 "b" "2026", .write 0,
    .finishSave 0, .resume 0, .resume 1, .reload 0 .signet true false,
    .reload 1 .signet true false, .proceed 0, .proceed 1, .readLoad 0, .finishLoad 0,
    .loaded 0, .loaded 1]

def failedAddition : List LightningOp :=
  [.request 0 (.addConnection "One" .signet "nostr+walletconnect://one"), .readStored 0,
    .commit 0 "a" "2026", .failSave 0, .resume 0]

/-- The second of two additions joins the save of the first. It resolves as well, and its
connection is not stored. An addition that fails stays in the store. -/
theorem joined_addition_is_lost :
    ¬ (lightningRun noConnections (fun _ => none) twoAdditions).Consistent noConnections ∧
      ¬ (lightningRun noConnections (fun _ => none) failedAddition).Consistent
        noConnections := by
  constructor
  · intro hconsistent
    obtain ⟨order, horder⟩ := hconsistent.serial
    have hadds : ∀ entry ∈ order, ∃ connection, entry.2 = .connections (.add connection) := by
      intro ⟨id, update⟩ hmem
      obtain ⟨call, hcall, hupdate⟩ := horder.only _ hmem
      cases id with
      | zero =>
          cases hcall
          exact ⟨_, (Option.some.inj hupdate).symm⟩
      | succ id =>
          cases id with
          | zero =>
              cases hcall
              exact ⟨_, (Option.some.inj hupdate).symm⟩
          | succ id => cases hcall
    have hresolved : (lightningRun noConnections (fun _ => none) twoAdditions).calls 1 =
        some (.resolved (.connections (.add {
          id := "b", label := "Two", networkMode := .signet
          connectionString := "nostr+walletconnect://two", createdAt := "2026" }))) := rfl
    have hadded : ∃ stored ∈ appliedUpdates noConnections.list order, stored.id = "b" :=
      exists_mem_appliedUpdates_of_add hadds (horder.resolved 1 _ hresolved)
    rw [← horder.stored] at hadded
    exact absurd hadded (by decide +kernel)
  · intro hconsistent
    have hsettled : ∀ id call,
        (lightningRun noConnections (fun _ => none) failedAddition).calls id = some call →
          call.Settled := by
      intro id call hcall
      cases id with
      | zero =>
          cases hcall
          trivial
      | succ id => cases hcall
    have hcurrent := hconsistent.settled hsettled
    exact absurd hcurrent.connectedWallets (by decide +kernel)

end Bitboard.Frontend
