/-
# The order of the writes to the Lightning connections

The stored list is always the initial list with the updates applied that saves have written, one
for each call at most. As long as no save succeeds that a second call has joined, every call that
has resolved has its update among them, and a call that is rejected has not.
-/

import Bitboard.Frontend.LightningConnections

namespace Bitboard.Frontend

open Bitboard.Lib
open InFlightTracker
open Wallet (LightningNetworkMode StoredNwcLightningConnection)

/-- The stored list after the updates, in the order given. -/
def appliedUpdates (initial : List StoredNwcLightningConnection)
    (order : List (Nat × LightningUpdate)) : List StoredNwcLightningConnection :=
  order.foldl (fun stored entry => entry.2.effect stored) initial

def LightningCall.Settled : LightningCall → Prop
  | .resolved _ | .rejected => True
  | _ => False

/-- The update of a call that has asked for its save and has not been rejected. -/
def LightningCall.update : LightningCall → Option LightningUpdate
  | .saving update _ _ | .resolved update => some update
  | .reloading change _ => some (.connections change)
  | _ => none

/-- The stored list comes from the initial one by the updates in this order: one for each call
that has resolved, and besides these only updates of calls under way. A connection that stays
keeps its snapshot, up to the patches for it. -/
structure LightningSystem.SerialOrder (initial : StoredConnections) (system : LightningSystem)
    (order : List (Nat × LightningUpdate)) : Prop where
  stored : system.stored = appliedUpdates initial.list order
  once : (order.map Prod.fst).Nodup
  resolved : ∀ id update, system.calls id = some (.resolved update) → (id, update) ∈ order
  only : ∀ entry ∈ order, ∃ call, system.calls entry.1 = some call ∧
    call.update = some entry.2
  snapshots : ∀ earlier entry later, order = earlier ++ entry :: later →
    ∀ before ∈ appliedUpdates initial.list earlier,
      ∀ after ∈ appliedUpdates initial.list (earlier ++ [entry]), after.id = before.id →
        after.nwcSnapshot = entry.2.snapshot before.id before.nwcSnapshot

def LightningCall.Saved (update : LightningUpdate) : LightningCall → Prop
  | .resolved saved => saved = update
  | .reloading change _ => .connections change = update
  | _ => False

def LightningCall.Unsaved : LightningCall → Prop
  | .reading _ | .read _ _ => True
  | _ => False

/-- What the record of the writes says about the stored list, the calls and the saves. -/
structure LightningSystem.Recorded (initial : StoredConnections) (system : LightningSystem) :
    Prop where
  stored : system.stored = appliedUpdates initial.list system.written
  once : (system.written.map Prod.fst).Nodup
  listed : ∀ id call update, system.calls id = some call → call.Saved update →
    (id, update) ∈ system.written
  entry : ∀ id update, (id, update) ∈ system.written → ∃ call, system.calls id = some call ∧
    (call.Saved update ∨ ∃ optimistic promise list, call = .saving update optimistic promise ∧
      system.saves promise = some ⟨id, update, some list⟩)
  saving : ∀ id update optimistic promise,
    system.calls id = some (.saving update optimistic promise) →
      ∃ save, system.saves promise = some save ∧ (save.owner = id → save.update = update) ∧
        (system.saveTracker.promises[promise]? = some .resolved → save.owner = id)
  unwritten : ∀ promise owner update, system.saves promise = some ⟨owner, update, none⟩ →
    system.saveTracker.promises[promise]? ≠ some .resolved ∧
      ((∃ optimistic, system.calls owner = some (.saving update optimistic promise)) ∨
        (system.calls owner = some .rejected ∧
          system.saveTracker.promises[promise]? = some .rejected))
  written : ∀ promise owner update list,
    system.saves promise = some ⟨owner, update, some list⟩ →
      (owner, update) ∈ system.written ∧
        system.saveTracker.promises[promise]? ≠ some .rejected
  bound : ∀ promise save, system.saves promise = some save →
    promise < system.saveTracker.promises.length
  slot : ∀ current, system.saveTracker.inFlight = some current →
    system.saveTracker.promises[current.promise]? = some .pending ∧
      ∃ save, system.saves current.promise = some save

namespace LightningCall

variable {call : LightningCall} {update other : LightningUpdate}

theorem Saved.unique (hupdate : call.Saved update) (hother : call.Saved other) :
    other = update := by
  cases call with
  | resolved | reloading => exact hother.symm.trans hupdate
  | reading | read | saving | rejected => cases hupdate

theorem Saved.update_eq (hupdate : call.Saved update) : call.update = some update := by
  cases call with
  | resolved | reloading => exact congrArg some hupdate
  | reading | read | saving | rejected => cases hupdate

theorem Unsaved.not_saved (hunsaved : call.Unsaved) : ¬ call.Saved update := by
  intro hupdate
  cases call with
  | resolved | reloading => cases hunsaved
  | reading | read | saving | rejected => cases hupdate

end LightningCall

variable {initial : StoredConnections} {system : LightningSystem}

theorem appliedUpdates_append (list : List StoredNwcLightningConnection)
    (order : List (Nat × LightningUpdate)) (entry : Nat × LightningUpdate) :
    appliedUpdates list (order ++ [entry]) = entry.2.effect (appliedUpdates list order) := by
  rw [appliedUpdates, List.foldl_append]
  rfl

theorem distinct_appliedUpdates (initial : StoredConnections)
    (order : List (Nat × LightningUpdate)) :
    DistinctIds (appliedUpdates initial.list order) := by
  induction order using List.reverseRecOn with
  | nil => exact initial.distinct
  | append_singleton order entry ih =>
    rw [appliedUpdates_append]
    exact entry.2.distinct_effect ih

variable {promise : Nat}

namespace LightningSystem

@[simp] theorem setCall_calls_self (id : Nat) (call : LightningCall) :
    (system.setCall id call).calls id = some call :=
  Function.update_self ..

theorem setCall_calls_of_ne {id other : Nat} (hne : other ≠ id) (call : LightningCall) :
    (system.setCall id call).calls other = system.calls other :=
  Function.update_of_ne hne ..

namespace Recorded

theorem distinct (h : system.Recorded initial) : DistinctIds system.stored := by
  rw [h.stored]
  exact distinct_appliedUpdates initial system.written

theorem serialOrder (h : system.Recorded initial) : system.SerialOrder initial system.written where
  stored := h.stored
  once := h.once
  resolved := by
    intro id update hcall
    exact h.listed id _ update hcall rfl
  only := by
    intro ⟨id, update⟩ hmem
    obtain ⟨call, hcall, hsaved⟩ := h.entry id update hmem
    refine ⟨call, hcall, ?_⟩
    cases hsaved with
    | inl hsaved => exact hsaved.update_eq
    | inr hsaving =>
      obtain ⟨optimistic, promise, list, rfl, -⟩ := hsaving
      rfl
  snapshots := by
    intro earlier entry later _ before hbefore after hafter hid
    rw [appliedUpdates_append] at hafter
    exact entry.2.snapshot_effect (distinct_appliedUpdates initial earlier) hbefore hafter hid

variable {id : Nat}

theorem not_mem_of_unsaved (h : system.Recorded initial)
    (hunsaved : ∀ call, system.calls id = some call → call.Unsaved) (update : LightningUpdate) :
    (id, update) ∉ system.written := by
  intro hmem
  obtain ⟨call, hcall, hsaved⟩ := h.entry id update hmem
  cases hsaved with
  | inl hsaved => exact (hunsaved call hcall).not_saved hsaved
  | inr hsaving =>
    obtain ⟨optimistic, promise, list, rfl, -⟩ := hsaving
    exact hunsaved _ hcall

variable {update : LightningUpdate}

theorem owner_ne_of_unsaved (h : system.Recorded initial)
    (hunsaved : ∀ call, system.calls id = some call → call.Unsaved) {owner : Nat}
    (hsave : system.saves promise = some ⟨owner, update, none⟩) : owner ≠ id := by
  intro heq
  subst heq
  cases (h.unwritten promise owner update hsave).2 with
  | inl hsaving =>
    obtain ⟨optimistic, hcall⟩ := hsaving
    exact hunsaved _ hcall
  | inr hrejected => exact hunsaved _ hrejected.1

/-- A call that has not asked for its save goes on without one. -/
theorem setCall_unsaved (h : system.Recorded initial) {call : LightningCall}
    (hunsaved : ∀ old, system.calls id = some old → old.Unsaved)
    (hcall : call.Unsaved ∨ call = .rejected) : (system.setCall id call).Recorded initial := by
  have hsaved : ∀ update, ¬ call.Saved update := by
    intro update hsaved
    cases hcall with
    | inl hplain => exact hplain.not_saved hsaved
    | inr hrejected =>
      subst hrejected
      cases hsaved
  have hsaving : ∀ update optimistic promise, call ≠ .saving update optimistic promise := by
    intro update optimistic promise heq
    subst heq
    cases hcall with
    | inl hplain => cases hplain
    | inr hrejected => cases hrejected
  exact { h with
    listed := by
      intro other found update hfound hupdate
      obtain ⟨rfl, rfl⟩ | ⟨-, hfound⟩ := update_some_cases hfound
      · exact absurd hupdate (hsaved update)
      · exact h.listed other found update hfound hupdate
    entry := by
      intro other update hmem
      by_cases hother : other = id
      · subst hother
        exact absurd hmem (h.not_mem_of_unsaved hunsaved update)
      · rw [setCall_calls_of_ne hother]
        exact h.entry other update hmem
    saving := by
      intro other update optimistic promise hfound
      obtain ⟨-, hnew⟩ | ⟨-, hbefore⟩ := update_some_cases hfound
      · exact absurd hnew.symm (hsaving update optimistic promise)
      · exact h.saving other update optimistic promise hbefore
    unwritten := by
      intro promise owner update hsave
      rw [setCall_calls_of_ne (h.owner_ne_of_unsaved hunsaved hsave)]
      exact h.unwritten promise owner update hsave }

/-- A call whose update has been written goes on with it. -/
theorem setCall_saved (h : system.Recorded initial) {old call : LightningCall}
    (hold : system.calls id = some old)
    (hupdate : old.Saved update ∨ ∃ optimistic promise,
      old = .saving update optimistic promise ∧
        system.saveTracker.promises[promise]? = some .resolved)
    (hcall : call.Saved update) : (system.setCall id call).Recorded initial := by
  have hmem : (id, update) ∈ system.written := by
    cases hupdate with
    | inl hsaved => exact h.listed id old update hold hsaved
    | inr hsaving =>
      obtain ⟨optimistic, promise, rfl, hresolved⟩ := hsaving
      obtain ⟨⟨owner, saved, written⟩, hsave, hsame, howner⟩ :=
        h.saving id update optimistic promise hold
      obtain rfl : owner = id := howner hresolved
      obtain rfl : saved = update := hsame rfl
      cases written with
      | none => exact absurd hresolved (h.unwritten promise owner saved hsave).1
      | some list => exact (h.written promise owner saved list hsave).1
  have hunique : ∀ other, (id, other) ∈ system.written → other = update := by
    intro other hother
    have heq := List.inj_on_of_nodup_map h.once hother hmem rfl
    exact (Prod.mk.inj heq).2
  have howner : ∀ promise owner saved,
      system.saves promise = some ⟨owner, saved, none⟩ → owner ≠ id := by
    intro promise owner saved hsave heq
    subst heq
    obtain ⟨hnot, hstage⟩ := h.unwritten promise owner saved hsave
    cases hstage with
    | inl hsaving =>
      obtain ⟨optimistic, hsaving⟩ := hsaving
      rw [hold, Option.some.injEq] at hsaving
      subst hsaving
      cases hupdate with
      | inl hsaved => cases hsaved
      | inr hresolved =>
        obtain ⟨_, found, hsaving, hresolved⟩ := hresolved
        cases hsaving
        exact hnot hresolved
    | inr hrejected =>
      rw [hold, Option.some.injEq] at hrejected
      rw [hrejected.1] at hupdate
      cases hupdate with
      | inl hsaved => cases hsaved
      | inr hresolved =>
        obtain ⟨_, _, hsaving, -⟩ := hresolved
        cases hsaving
  exact { h with
    listed := by
      intro other found saved hfound hsaved
      obtain ⟨rfl, rfl⟩ | ⟨-, hfound⟩ := update_some_cases hfound
      · rw [hcall.unique hsaved]
        exact hmem
      · exact h.listed other found saved hfound hsaved
    entry := by
      intro other saved hfound
      by_cases hother : other = id
      · subst hother
        rw [setCall_calls_self, hunique saved hfound]
        exact ⟨call, rfl, .inl hcall⟩
      · rw [setCall_calls_of_ne hother]
        exact h.entry other saved hfound
    saving := by
      intro other saved optimistic promise hfound
      obtain ⟨-, rfl⟩ | ⟨-, hbefore⟩ := update_some_cases hfound
      · cases hcall
      · exact h.saving other saved optimistic promise hbefore
    unwritten := by
      intro promise owner saved hsave
      rw [setCall_calls_of_ne (howner promise owner saved hsave)]
      exact h.unwritten promise owner saved hsave }

variable {optimistic : List ConnectedLightningWallet}

section

variable (h : system.Recorded initial)
include h

/-- A call whose save has failed is rejected. -/
theorem setCall_rejected {id : Nat}
    (hold : system.calls id = some (.saving update optimistic promise))
    (hfailed : system.saveTracker.promises[promise]? = some .rejected) :
    (system.setCall id .rejected).Recorded initial := { h with
  listed := by
    intro other found saved hfound hsaved
    obtain ⟨rfl, rfl⟩ | ⟨-, hfound⟩ := update_some_cases hfound
    · cases hsaved
    · exact h.listed other found saved hfound hsaved
  entry := by
    intro other saved hmem
    by_cases hother : other = id
    · subst hother
      obtain ⟨call, hcall, hstage⟩ := h.entry other saved hmem
      rw [hold, Option.some.injEq] at hcall
      subst hcall
      cases hstage with
      | inl hsaved => cases hsaved
      | inr hsaving =>
        obtain ⟨_, _, list, heq, hsave⟩ := hsaving
        cases heq
        exact absurd hfailed (h.written promise other update list hsave).2
    · rw [setCall_calls_of_ne hother]
      exact h.entry other saved hmem
  saving := by
    intro other saved found asked hfound
    obtain ⟨-, hnew⟩ | ⟨-, hbefore⟩ := update_some_cases hfound
    · cases hnew
    · exact h.saving other saved found asked hbefore
  unwritten := by
    intro asked owner saved hsave
    obtain ⟨hnot, hstage⟩ := h.unwritten asked owner saved hsave
    refine ⟨hnot, ?_⟩
    by_cases howner : owner = id
    · subst howner
      apply Or.inr
      refine ⟨setCall_calls_self owner .rejected, ?_⟩
      cases hstage with
      | inl hsaving =>
        obtain ⟨_, hsaving⟩ := hsaving
        rw [hold] at hsaving
        cases hsaving
        exact hfailed
      | inr hrejected => exact hrejected.2
    · rw [setCall_calls_of_ne howner]
      exact hstage }

theorem listed_setCall_saving {other : Nat} {call : LightningCall} {saved : LightningUpdate}
    (hcall : (system.setCall id (.saving update optimistic promise)).calls other = some call)
    (hsaved : call.Saved saved) : (other, saved) ∈ system.written := by
  obtain ⟨-, rfl⟩ | ⟨-, hbefore⟩ := update_some_cases hcall
  · cases hsaved
  · exact h.listed other call saved hbefore hsaved

section

variable (hunsaved : ∀ old, system.calls id = some old → old.Unsaved)
include hunsaved

/-- A call that is recorded as written is not one that has yet to ask for its save. -/
theorem ne_of_written {other : Nat} {saved : LightningUpdate}
    (hmem : (other, saved) ∈ system.written) : other ≠ id := by
  intro heq
  subst heq
  exact h.not_mem_of_unsaved hunsaved saved hmem

/-- A call joins the save in flight, which belongs to another call. -/
theorem joinSave {current : InFlightLifecycleWork LightningSaveKey}
    (hslot : system.saveTracker.inFlight = some current) (update : LightningUpdate)
    (optimistic : List ConnectedLightningWallet) :
    (system.setCall id (.saving update optimistic current.promise)).Recorded initial := by
  obtain ⟨hpending, save, hsave⟩ := h.slot current hslot
  exact { h with
    listed := fun other call saved hcall => h.listed_setCall_saving hcall
    entry := by
      intro other saved hmem
      rw [setCall_calls_of_ne (h.ne_of_written hunsaved hmem)]
      exact h.entry other saved hmem
    saving := by
      intro other saved found asked hfound
      obtain ⟨rfl, hnew⟩ | ⟨-, hbefore⟩ := update_some_cases hfound
      · cases hnew
        refine ⟨save, hsave, ?_, ?_⟩
        · intro howner
          obtain ⟨owner, own, written⟩ := save
          cases written with
          | none => exact absurd howner (h.owner_ne_of_unsaved hunsaved hsave)
          | some list =>
            have hmem := (h.written current.promise owner own list hsave).1
            exact absurd howner (h.ne_of_written hunsaved hmem)
        · intro hresolved
          cases hpending.symm.trans hresolved
      · exact h.saving other saved found asked hbefore
    unwritten := by
      intro asked owner saved hfound
      rw [setCall_calls_of_ne (h.owner_ne_of_unsaved hunsaved hfound)]
      exact h.unwritten asked owner saved hfound }

/-- A save of the call's own begins under the next promise. -/
theorem beginSave {key : LightningSaveKey}
    (hfree : system.saveTracker.coalescedInFlightPromise key = none) (update : LightningUpdate)
    (optimistic : List ConnectedLightningWallet) :
    ({ system.setCall id (.saving update optimistic system.saveTracker.promises.length) with
      saveTracker := system.saveTracker.begin key
      saves := Function.update system.saves system.saveTracker.promises.length
        (some ⟨id, update, none⟩) } : LightningSystem).Recorded initial := by
  have hne : ∀ promise save, system.saves promise = some save →
      promise ≠ system.saveTracker.promises.length := by
    intro promise save hsave
    exact Nat.ne_of_lt (h.bound promise save hsave)
  have hstatus : ∀ promise save, system.saves promise = some save →
      (system.saveTracker.begin key).promises[promise]? =
        system.saveTracker.promises[promise]? := by
    intro promise save hsave
    exact promises_begin_of_lt hfree (h.bound promise save hsave)
  have hnew := promises_begin_self hfree
  exact {
    stored := h.stored
    once := h.once
    listed := fun other call saved hcall => h.listed_setCall_saving hcall
    entry := by
      intro other saved hmem
      obtain ⟨call, hcall, hstage⟩ := h.entry other saved hmem
      refine ⟨call, (setCall_calls_of_ne (h.ne_of_written hunsaved hmem) _).trans hcall, ?_⟩
      apply hstage.imp_right
      intro hfound
      obtain ⟨found, promise, list, hsaving, hsave⟩ := hfound
      exact ⟨found, promise, list, hsaving,
        (Function.update_of_ne (hne promise _ hsave) ..).trans hsave⟩
    saving := by
      intro other saved found promise hfound
      obtain ⟨rfl, hcall⟩ | ⟨-, hbefore⟩ := update_some_cases hfound
      · cases hcall
        exact ⟨_, Function.update_self .., fun _ => rfl, fun _ => rfl⟩
      · obtain ⟨save, hsave, hsame, howner⟩ := h.saving other saved found promise hbefore
        refine ⟨save, (Function.update_of_ne (hne promise save hsave) ..).trans hsave, hsame, ?_⟩
        intro hresolved
        exact howner ((hstatus promise save hsave).symm.trans hresolved)
    unwritten := by
      intro promise owner saved hfound
      obtain ⟨rfl, hown⟩ | ⟨-, hsave⟩ := update_some_cases hfound
      · cases hown
        constructor
        · intro hresolved
          cases hnew.symm.trans hresolved
        · exact .inl ⟨optimistic, setCall_calls_self id _⟩
      · dsimp only
        rw [hstatus promise _ hsave, setCall_calls_of_ne (h.owner_ne_of_unsaved hunsaved hsave)]
        exact h.unwritten promise owner saved hsave
    written := by
      intro promise owner saved list hfound
      obtain ⟨-, hown⟩ | ⟨-, hsave⟩ := update_some_cases hfound
      · cases hown
      · dsimp only
        rw [hstatus promise _ hsave]
        exact h.written promise owner saved list hsave
    bound := by
      intro promise save hfound
      dsimp only
      rw [begin_of_not_coalesced hfree, List.length_append]
      obtain ⟨rfl, -⟩ | ⟨-, hsave⟩ := update_some_cases hfound
      · exact Nat.lt_succ_self _
      · exact Nat.lt_succ_of_lt (h.bound promise save hsave)
    slot := by
      intro current hslot
      rw [begin_of_not_coalesced hfree, Option.some.injEq] at hslot
      subst hslot
      exact ⟨hnew, _, Function.update_self ..⟩ }

/-- A call asks for its save: it joins one in flight, or its own begins. -/
theorem orchestrateSave (key : LightningSaveKey) (update : LightningUpdate)
    (optimistic : List ConnectedLightningWallet) :
    (system.orchestrateSave id key update optimistic).Recorded initial := by
  cases hcoalesced : system.saveTracker.coalescedInFlightPromise key with
  | some promise =>
    simp only [LightningSystem.orchestrateSave, hcoalesced]
    obtain ⟨current, hslot, -, rfl⟩ := exists_of_coalesced hcoalesced
    exact h.joinSave hunsaved hslot update optimistic
  | none =>
    simp only [LightningSystem.orchestrateSave, hcoalesced]
    exact h.beginSave hunsaved hcoalesced update optimistic

end

/-- A removal of a connection that is not stored changes nothing. -/
theorem skip {connectionId : String} (hunsaved : system.calls id = none)
    (habsent : ∀ connection ∈ system.stored, connection.id ≠ connectionId) :
    ({ system.setCall id (.resolved (.connections (.remove connectionId))) with
      written :=
        system.written ++
          [(id, .connections (.remove connectionId))] } : LightningSystem).Recorded initial := by
  have hplain : ∀ old, system.calls id = some old → old.Unsaved := by
    intro old hold
    rw [hunsaved] at hold
    cases hold
  exact {
    stored := by
      dsimp only [setCall]
      rw [appliedUpdates_append, ← h.stored]
      apply (List.filter_eq_self.mpr _).symm
      intro connection hmem
      exact decide_eq_true (habsent connection hmem)
    once := by
      rw [List.map_append]
      apply List.Nodup.append h.once (List.nodup_singleton _)
      intro other hmem hadded
      rw [List.mem_singleton.mp hadded] at hmem
      obtain ⟨⟨found, update⟩, hentry, hfound⟩ := List.mem_map.mp hmem
      dsimp only at hfound
      subst hfound
      exact h.not_mem_of_unsaved hplain update hentry
    listed := by
      intro other call update hcall hsaved
      obtain ⟨rfl, rfl⟩ | ⟨-, hfound⟩ := update_some_cases hcall
      · cases hsaved
        exact List.mem_append_right _ (List.mem_singleton_self _)
      · exact List.mem_append_left _ (h.listed other call update hfound hsaved)
    entry := by
      intro other update hmem
      cases List.mem_append.mp hmem with
      | inl hearlier =>
        have hother := h.ne_of_written hplain hearlier
        obtain ⟨call, hcall, hstage⟩ := h.entry other update hearlier
        exact ⟨call, (setCall_calls_of_ne hother _).trans hcall, hstage⟩
      | inr hadded =>
        cases List.mem_singleton.mp hadded
        exact ⟨_, setCall_calls_self id _, .inl rfl⟩
    saving := by
      intro other update optimistic promise hfound
      obtain ⟨-, hnew⟩ | ⟨-, hbefore⟩ := update_some_cases hfound
      · cases hnew
      · exact h.saving other update optimistic promise hbefore
    unwritten := by
      intro promise owner update hsave
      dsimp only
      rw [setCall_calls_of_ne (h.owner_ne_of_unsaved hplain hsave)]
      exact h.unwritten promise owner update hsave
    written := by
      intro promise owner update list hsave
      obtain ⟨hmem, hstatus⟩ := h.written promise owner update list hsave
      exact ⟨List.mem_append_left _ hmem, hstatus⟩
    bound := h.bound
    slot := h.slot }

/-- A save writes its update over the list that is stored. -/
theorem write {owner : Nat} (hsave : system.saves promise = some ⟨owner, update, none⟩)
    (hruns : system.saveTracker.promises[promise]? = some .pending)
    (list : List ConnectedLightningWallet) :
    ({ system with
      stored := update.write system.stored
      saves := Function.update system.saves promise (some ⟨owner, update, some list⟩)
      written := system.written ++ [(owner, update)] } : LightningSystem).Recorded initial := by
  obtain ⟨optimistic, hcall⟩ : ∃ optimistic,
      system.calls owner = some (.saving update optimistic promise) := by
    cases (h.unwritten promise owner update hsave).2 with
    | inl hsaving => exact hsaving
    | inr hrejected => cases hruns.symm.trans hrejected.2
  have hfresh : ∀ saved, (owner, saved) ∉ system.written := by
    intro saved hmem
    obtain ⟨call, hfound, hstage⟩ := h.entry owner saved hmem
    rw [hcall, Option.some.injEq] at hfound
    subst hfound
    cases hstage with
    | inl hsaved => cases hsaved
    | inr hsaving =>
      obtain ⟨_, _, written, heq, hfound⟩ := hsaving
      cases heq
      cases hsave.symm.trans hfound
  exact {
    stored := by
      dsimp only
      rw [appliedUpdates_append, ← h.stored]
      exact update.write_eq_effect h.distinct
    once := by
      rw [List.map_append]
      apply List.Nodup.append h.once (List.nodup_singleton _)
      intro other hmem hadded
      rw [List.mem_singleton.mp hadded] at hmem
      obtain ⟨⟨found, saved⟩, hentry, hfound⟩ := List.mem_map.mp hmem
      dsimp only at hfound
      subst hfound
      exact hfresh saved hentry
    listed := by
      intro id call saved hfound hsaved
      exact List.mem_append_left _ (h.listed id call saved hfound hsaved)
    entry := by
      intro id saved hmem
      cases List.mem_append.mp hmem with
      | inl hearlier =>
        obtain ⟨call, hfound, hstage⟩ := h.entry id saved hearlier
        refine ⟨call, hfound, ?_⟩
        apply hstage.imp_right
        intro ⟨shown, asked, written, hsaving, hasked⟩
        refine ⟨shown, asked, written, hsaving, ?_⟩
        have hne : asked ≠ promise := by
          intro heq
          subst heq
          cases hsave.symm.trans hasked
        exact (Function.update_of_ne hne ..).trans hasked
      | inr hadded =>
        cases List.mem_singleton.mp hadded
        exact ⟨_, hcall, .inr ⟨optimistic, promise, list, rfl, Function.update_self ..⟩⟩
    saving := by
      intro id saved shown asked hfound
      obtain ⟨save, hasked, hsame, howner⟩ := h.saving id saved shown asked hfound
      by_cases heq : asked = promise
      · subst heq
        cases hsave.symm.trans hasked
        exact ⟨_, Function.update_self .., hsame, howner⟩
      · exact ⟨save, (Function.update_of_ne heq ..).trans hasked, hsame, howner⟩
    unwritten := by
      intro asked other saved hfound
      obtain ⟨-, hnew⟩ | ⟨-, hbefore⟩ := update_some_cases hfound
      · cases hnew
      · exact h.unwritten asked other saved hbefore
    written := by
      intro asked other saved found hfound
      obtain ⟨rfl, hnew⟩ | ⟨-, hbefore⟩ := update_some_cases hfound
      · cases hnew
        refine ⟨List.mem_append_right _ (List.mem_singleton_self _), ?_⟩
        intro hrejected
        cases hruns.symm.trans hrejected
      · obtain ⟨hmem, hstatus⟩ := h.written asked other saved found hbefore
        exact ⟨List.mem_append_left _ hmem, hstatus⟩
    bound := by
      intro asked save hfound
      obtain ⟨rfl, -⟩ | ⟨-, hbefore⟩ := update_some_cases hfound
      · exact h.bound asked _ hsave
      · exact h.bound asked save hbefore
    slot := by
      intro current hslot
      obtain ⟨hpending, save, hfound⟩ := h.slot current hslot
      refine ⟨hpending, ?_⟩
      by_cases heq : current.promise = promise
      · exact ⟨_, by rw [heq]; exact Function.update_self ..⟩
      · exact ⟨save, (Function.update_of_ne heq ..).trans hfound⟩ }

/-- The promise of a save settles: it is resolved once the save has written and only if no second
call has joined it, and rejected if the save has not written. -/
theorem settle {save : LightningSave} {status : PromiseStatus}
    (hsave : system.saves promise = some save)
    (hruns : system.saveTracker.promises[promise]? = some .pending)
    (hresolved : status = .resolved → save.written.isSome ∧
      ∀ id update optimistic, system.calls id = some (.saving update optimistic promise) →
      save.owner = id) (hrejected : status ≠ .resolved → status = .rejected ∧ save.written = none) :
    ({ system with
      saveTracker := system.saveTracker.settle promise status } :
        LightningSystem).Recorded initial := by
  have hself := promises_settle_self (h.bound promise save hsave) status
  exact { h with
    saving := by
      intro id update optimistic asked hcall
      obtain ⟨found, hfound, hsame, howner⟩ := h.saving id update optimistic asked hcall
      refine ⟨found, hfound, hsame, ?_⟩
      intro hstatus
      by_cases heq : asked = promise
      · subst heq
        cases hsave.symm.trans hfound
        exact (hresolved (Option.some.inj (hself.symm.trans hstatus))).2 id update optimistic
          hcall
      · exact howner ((promises_settle_of_ne heq status).symm.trans hstatus)
    unwritten := by
      intro asked owner update hfound
      obtain ⟨hnot, hstage⟩ := h.unwritten asked owner update hfound
      dsimp only
      by_cases heq : asked = promise
      · subst heq
        cases hsave.symm.trans hfound
        have hne : status ≠ .resolved := by
          intro hstatus
          cases (hresolved hstatus).1
        rw [hself]
        refine ⟨fun hstatus => hne (Option.some.inj hstatus), ?_⟩
        apply hstage.imp_right
        intro hcall
        exact ⟨hcall.1, congrArg some (hrejected hne).1⟩
      · rw [promises_settle_of_ne heq]
        exact ⟨hnot, hstage⟩
    written := by
      intro asked owner update list hfound
      obtain ⟨hmem, hnot⟩ := h.written asked owner update list hfound
      refine ⟨hmem, ?_⟩
      dsimp only
      by_cases heq : asked = promise
      · subst heq
        cases hsave.symm.trans hfound
        rw [hself]
        intro hstatus
        have hne : status ≠ .resolved := by
          rw [Option.some.inj hstatus]
          exact PromiseStatus.noConfusion
        cases (hrejected hne).2
      · rw [promises_settle_of_ne heq]
        exact hnot
    bound := by
      intro asked found hfound
      exact lt_of_lt_of_eq (h.bound asked found hfound) (List.length_set ..).symm
    slot := by
      intro current hcurrent
      obtain ⟨hslot, hne⟩ := Option.filter_eq_some_iff.mp hcurrent
      obtain ⟨hpending, hfound⟩ := h.slot current hslot
      exact ⟨(promises_settle_of_ne (of_decide_eq_true hne) status).trans hpending, hfound⟩ }

theorem replaceConnectionsForWallet (connections : List ConnectedLightningWallet) :
    (system.replaceConnectionsForWallet connections).Recorded initial :=
  { h with }

theorem setLoads (loadTracker : InFlightTracker NetworkMode)
    (loads : Nat → Option (Option (List ConnectedLightningWallet))) :
    ({ system with loadTracker, loads } : LightningSystem).Recorded initial :=
  { h with }

theorem commitLightningConnectionsUpdate
    (hunsaved : ∀ old, system.calls id = some old → old.Unsaved)
    (networkMode : LightningNetworkMode) (stored : List ConnectedLightningWallet)
    (change : LightningConnectionsUpdate) :
    (system.commitLightningConnectionsUpdate id networkMode stored change).Recorded initial := by
  have hshown : ({ system with
      connectedWallets := change.apply stored
      activeConnectionIds :=
        change.activeConnectionIds (change.apply stored)
          system.activeConnectionIds } : LightningSystem).Recorded initial := { h with }
  exact hshown.orchestrateSave hunsaved _ _ _

theorem resumeSaved {id : Nat} (hcall : system.calls id = some (.saving update optimistic promise))
    (hresolved : system.saveTracker.promises[promise]? = some .resolved) :
    (system.resumeSaved id update optimistic promise).Recorded initial := by
  have hput := h.replaceConnectionsForWallet (system.writtenForWallet id optimistic promise)
  have hsaved : ∃ shown asked, LightningCall.saving update optimistic promise =
      .saving update shown asked ∧ system.saveTracker.promises[asked]? = some .resolved :=
    ⟨optimistic, promise, rfl, hresolved⟩
  cases update with
  | snapshotPatches patches => exact h.setCall_saved hcall (.inr hsaved) rfl
  | connections change =>
    cases change with
    | rename | add | remove => exact hput.setCall_saved hcall (.inr hsaved) rfl

end

variable {change : LightningConnectionsUpdate}

theorem beginLoad (h : system.Recorded initial)
    {reload : LightningReload} (hcall : system.calls id = some (.reloading change reload))
    (key : NetworkMode) : (system.beginLoad id change key).Recorded initial := by
  have hsaved : (LightningCall.reloading change reload).Saved (.connections change) := rfl
  rw [LightningSystem.beginLoad]
  split
  · exact h.setCall_saved hcall (.inl hsaved) rfl
  · refine (h.setCall_saved hcall (.inl hsaved) ?_).setLoads _ _
    rfl

theorem orchestrateLightningLoad (h : system.Recorded initial) {reload : LightningReload}
    (hcall : system.calls id = some (.reloading change reload)) (key : NetworkMode) :
    (system.orchestrateLightningLoad id change key).Recorded initial := by
  have hsaved : (LightningCall.reloading change reload).Saved (.connections change) := rfl
  rw [LightningSystem.orchestrateLightningLoad]
  split
  · exact h.setCall_saved hcall (.inl hsaved) rfl
  · split
    · exact h.setCall_saved hcall (.inl hsaved) rfl
    · exact h.setCall_saved hcall (.inl hsaved) rfl

/-- A call that is made. A removal is over at once only if there is nothing to remove. -/
theorem request (h : system.Recorded initial) (hnone : system.calls id = none)
    (request : LightningRequest)
    (hremove : ∀ connectionId, request = .removeConnection connectionId →
      (∀ connection ∈ system.connectedWallets, connection.id ≠ connectionId) →
        ∀ connection ∈ system.stored, connection.id ≠ connectionId) :
    (system.request id request).Recorded initial := by
  have hunsaved : ∀ old, system.calls id = some old → old.Unsaved := by
    intro old hold
    rw [hnone] at hold
    cases hold
  cases request with
  | addConnection label networkMode connectionString =>
    rw [LightningSystem.request]
    split
    · exact h.setCall_unsaved hunsaved (.inl trivial)
    · exact h.setCall_unsaved hunsaved (.inr rfl)
  | removeConnection connectionId =>
    rw [LightningSystem.request]
    split
    · rename_i habsent
      apply h.skip hnone
      apply hremove connectionId rfl
      intro connection hmem hid
      exact absurd (decide_eq_true hid) (List.find?_eq_none.mp habsent connection hmem)
    · exact h.setCall_unsaved hunsaved (.inl trivial)
  | renameConnection connectionId newLabel =>
    simp only [LightningSystem.request]
    split
    · exact h.setCall_unsaved hunsaved (.inr rfl)
    · split
      · exact h.setCall_unsaved hunsaved (.inr rfl)
      · exact h.setCall_unsaved hunsaved (.inl trivial)
  | saveSnapshotPatches networkMode patches =>
    exact h.orchestrateSave hunsaved _ _ _

end Recorded

end LightningSystem

end Bitboard.Frontend
