/-
# When the slots belong to one session

Between opens the slots should hold the session of one open that succeeded, or nothing. They
do not always: an operation puts its wallet back into whatever session it finds, an open does
not clear a prepared key, and an open that fails clears the store and the network of a
session but not its wallet. These are all the ways: in a run where no step does one of them
the slots always agree, and a step that does one is seen at once.
-/

import Bitboard.Bark.Session

namespace Bitboard.Bark

open Bitboard.Lib

section Agreement

variable {Id Wallet Store Keypair : Type}

/-- The slots hold the session of an open. The wallet is not there while it is taken. -/
structure SessionSlots.SessionOf (slots : SessionSlots Id Wallet Store Keypair) (id : Id) :
    Prop where
  store : ∃ store, slots.activeRecordStore = some { openedBy := id, value := store }
  network : ∃ network, slots.activeBitcoinNetwork = some { openedBy := id, value := network }
  wallet : ∀ wallet, slots.activeWallet = some wallet → wallet.openedBy = id
  prepared : ∀ prepared, slots.preparedBoardFunding = some prepared → prepared.openedBy = id
  gate : ∀ marked, slots.sessionSyncGate = some marked → marked = id

namespace BarkSystem

variable (system : BarkSystem Id Wallet Store Keypair)

def OpenInProgress (id : Id) : Prop :=
  ∃ network found, system.opens id = some (.opening network found)

structure Agrees : Prop where
  session : (∀ id, ¬ system.OpenInProgress id) →
    system.slots = .closed ∨ ∃ id, system.opens id = some .succeeded ∧ system.slots.SessionOf id
  staysClosed : system.closedSince = true → system.slots.activeWallet = none
  gate : ∀ marked wallet, system.slots.sessionSyncGate = some marked →
    system.slots.activeWallet = some wallet → wallet.openedBy ∈ system.synced

/-- What is asked of an open that fails: a session that it was called on is left as it was, or
all slots are empty. -/
def FailedOpenKeeps (next : BarkSystem Id Wallet Store Keypair) :
    BarkOp Id Wallet Store Keypair → Prop
  | .openSession id request =>
    ∀ message, system.opens id = none → request.parse = .error message →
      next.slots = system.slots
  | .opened id (.error _) =>
    ∀ network found, system.opens id = some (.opening network found) →
      (∃ other, found.SessionOf other) → next.slots = found ∨ next.slots = .closed
  | _ => True

def OnlyOpen (id : Id) : Prop := ∀ other, other ≠ id → ¬ system.OpenInProgress other

/-- The last open in progress finds, as it succeeds, the store that it has installed and no
prepared key. -/
def OpenInOrder (id : Id) : Prop :=
  system.OnlyOpen id →
    (∃ store, system.slots.activeRecordStore = some { openedBy := id, value := store }) ∧
      system.slots.preparedBoardFunding = none

/-- The last open in progress, and every open that was called on a session, finds as it fails no
wallet, no mark and no prepared key. -/
def FailureInOrder (id : Id) (found : SessionSlots Id Wallet Store Keypair) : Prop :=
  (system.OnlyOpen id ∨ ∃ other, found.SessionOf other) →
    system.slots.activeWallet = none ∧ system.slots.sessionSyncGate = none ∧
      system.slots.preparedBoardFunding = none

/-- An operation ends in the session from which it took the wallet: there was no close, the
store is still that of the wallet's open, and no other wallet's sync has marked the gate. -/
structure EndInOrder (operation : WalletOperation) (wallet : OfOpen Id Wallet)
    (answer : Except String (PreparedBoardFunding Keypair)) : Prop where
  notClosed : system.closedSince = false
  store : (∀ id, ¬ system.OpenInProgress id) →
    ∃ store, system.slots.activeRecordStore = some { openedBy := wallet.openedBy, value := store }
  gate : system.slots.sessionSyncGate ≠ none →
    wallet.openedBy ∈ system.synced ∨ operation = .sync ∧ ∃ prepared, answer = .ok prepared

def StepInOrder : BarkOp Id Wallet Store Keypair → Prop
  | .opened id (.ok _) =>
    ∀ network found, system.opens id = some (.opening network found) → system.OpenInOrder id
  | .opened id (.error _) =>
    ∀ network found, system.opens id = some (.opening network found) →
      system.FailureInOrder id found
  | .answered id answer =>
    ∀ operation wallet, system.operations id = some (operation, .running wallet) →
      system.EndInOrder operation wallet answer
  | _ => True

/-- What the slots and the operations hold comes from opens that have succeeded. -/
structure Origins : Prop where
  wallet : ∀ wallet, system.slots.activeWallet = some wallet →
    system.opens wallet.openedBy = some .succeeded
  prepared : ∀ prepared, system.slots.preparedBoardFunding = some prepared →
    system.opens prepared.openedBy = some .succeeded
  running : ∀ id operation wallet, system.operations id = some (operation, .running wallet) →
    system.opens wallet.openedBy = some .succeeded

end BarkSystem

def BarkSystem.StepAgrees [DecidableEq Id] (system : BarkSystem Id Wallet Store Keypair)
    (op : BarkOp Id Wallet Store Keypair) : Prop :=
  (barkStep system op).Agrees ∧ system.FailedOpenKeeps (barkStep system op) op

variable [DecidableEq Id] {system next : BarkSystem Id Wallet Store Keypair} {id : Id}
  {op : BarkOp Id Wallet Store Keypair}

inductive BarkTransition (system : BarkSystem Id Wallet Store Keypair) :
    BarkOp Id Wallet Store Keypair → BarkSystem Id Wallet Store Keypair → Prop
  | idle (op : BarkOp Id Wallet Store Keypair)
      (hopening : ∀ id answer, op = .opened id answer → ¬ system.OpenInProgress id)
      (hrunning : ∀ id answer, op = .answered id answer → ∀ operation wallet,
        system.operations id ≠ some (operation, .running wallet))
      (hnew : ∀ id request, op = .openSession id request → system.opens id ≠ none) :
      BarkTransition system op system
  | refused (id : Id) (request : OpenRequest Store) (message : String)
      (hnew : system.opens id = none) :
      BarkTransition system (.openSession id request) (system.setOpen id (.failed message))
  | opening (id : Id) (request : OpenRequest Store) (network : Network) (store : Store)
      (hnew : system.opens id = none) (hparse : request.parse = .ok (network, store)) :
      BarkTransition system (.openSession id request)
        { system.setOpen id (.opening network system.slots) with
          slots := system.slots.installRecordStore { openedBy := id, value := store } }
  | succeeded (id : Id) (network : Network) (found : SessionSlots Id Wallet Store Keypair)
      (wallet : Wallet) (hopening : system.opens id = some (.opening network found)) :
      BarkTransition system (.opened id (.ok wallet)) (system.openSucceeded id network wallet)
  | failed (id : Id) (network : Network) (found : SessionSlots Id Wallet Store Keypair)
      (message : String) (hopening : system.opens id = some (.opening network found)) :
      BarkTransition system (.opened id (.error message)) (system.openFailed id message)
  | closed : BarkTransition system .closeSession system.closeSession
  | threw (id : Id) (operation : WalletOperation) (message : String)
      (hnew : system.operations id = none) :
      BarkTransition system (.call id operation) (system.setOperation id operation (.threw message))
  | taken (id : Id) (operation : WalletOperation) (wallet : OfOpen Id Wallet)
      (hnew : system.operations id = none) (hactive : system.slots.activeWallet = some wallet) :
      BarkTransition system (.call id operation)
        { system.setOperation id operation (.running wallet) with
          slots := { system.slots with activeWallet := none } }
  | ended (id : Id) (operation : WalletOperation) (wallet : OfOpen Id Wallet)
      (answer : Except String (PreparedBoardFunding Keypair))
      (hrunning : system.operations id = some (operation, .running wallet)) :
      BarkTransition system (.answered id answer)
        (system.finishWalletOperation id operation wallet answer)

variable {slots : SessionSlots Id Wallet Store Keypair}

omit [DecidableEq Id] in
theorem takeActiveWallet_eq_ok {after : SessionSlots Id Wallet Store Keypair}
    {operation : WalletOperation} {wallet : OfOpen Id Wallet}
    (h : slots.takeActiveWallet operation = .ok (wallet, after)) :
    slots.activeWallet = some wallet ∧ after = { slots with activeWallet := none } := by
  unfold SessionSlots.takeActiveWallet at h
  cases hcheck : slots.check operation with
  | error message =>
    rw [hcheck] at h
    cases h
  | ok checked =>
    rw [hcheck] at h
    cases hwallet : slots.activeWallet with
    | none =>
      simp only [hwallet] at h
      cases h
    | some active =>
      simp only [hwallet] at h
      cases h
      exact ⟨rfl, rfl⟩

/-- Every step is one of these. -/
theorem barkStep_transition (system : BarkSystem Id Wallet Store Keypair)
    (op : BarkOp Id Wallet Store Keypair) : BarkTransition system op (barkStep system op) := by
  cases op with
  | openSession id request =>
    cases hnew : system.opens id with
    | some phase =>
      simp only [barkStep, hnew]
      apply BarkTransition.idle
      · intro other answer heq
        cases heq
      · intro other answer heq
        cases heq
      · intro other request heq
        cases heq
        rw [hnew]
        exact Option.some_ne_none phase
    | none =>
      simp only [barkStep, hnew, BarkSystem.openSession]
      split
      · exact .refused id request _ hnew
      · rename_i network store hparse
        exact .opening id request network store hnew hparse
  | opened id answer =>
    simp only [barkStep]
    split
    · rename_i network found wallet hopening
      exact .succeeded id network found wallet hopening
    · rename_i network found message hopening
      exact .failed id network found message hopening
    · rename_i outcome _ _ hsucceeds hfails
      apply BarkTransition.idle
      · intro other given heq hopen
        obtain ⟨rfl, rfl⟩ := BarkOp.opened.inj heq
        obtain ⟨network, found, hopening⟩ := hopen
        cases outcome with
        | ok wallet => exact hsucceeds network found wallet hopening rfl
        | error message => exact hfails network found message hopening rfl
      · intro other given heq
        cases heq
      · intro other request heq
        cases heq
  | closeSession => exact .closed
  | call id operation =>
    cases hnew : system.operations id with
    | some phase =>
      simp only [barkStep, hnew]
      apply BarkTransition.idle
      · intro other answer heq
        cases heq
      · intro other answer heq
        cases heq
      · intro other request heq
        cases heq
    | none =>
      simp only [barkStep, hnew, BarkSystem.call]
      split
      · exact .threw id operation _ hnew
      · rename_i wallet slots htaken
        obtain ⟨hactive, hslots⟩ := takeActiveWallet_eq_ok htaken
        rw [hslots]
        exact .taken id operation wallet hnew hactive
  | answered id answer =>
    simp only [barkStep]
    split
    · rename_i operation wallet hrunning
      exact .ended id operation wallet answer hrunning
    · rename_i hends
      apply BarkTransition.idle
      · intro other given heq
        cases heq
      · intro other given heq operation wallet hrunning
        cases heq
        exact hends operation wallet hrunning
      · intro other request heq
        cases heq

theorem BarkTransition.succeeded_stays (h : BarkTransition system op next) {other : Id}
    (hother : system.opens other = some .succeeded) : next.opens other = some .succeeded := by
  have hset (id : Id) (phase : OpenPhase Id Wallet Store Keypair)
      (hopen : system.opens id ≠ some .succeeded) :
      (system.setOpen id phase).opens other = some .succeeded := by
    have hne : other ≠ id := by
      intro heq
      exact hopen (heq ▸ hother)
    rw [system.opens_setOpen_of_ne hne]
    exact hother
  cases h with
  | idle | closed | threw | taken => exact hother
  | refused id request message hnew => exact hset id _ (by simp [hnew])
  | opening id request network store hnew => exact hset id _ (by simp [hnew])
  | succeeded id network found wallet hopening => exact hset id _ (by simp [hopening])
  | failed id network found message hopening => exact hset id _ (by simp [hopening])
  | ended id operation wallet answer => cases answer <;> exact hother

omit [DecidableEq Id] in
theorem finish_preparedBoardFunding {wallet : OfOpen Id Wallet}
    {prepared : PreparedBoardFunding Keypair} {operation : WalletOperation}
    {kept : OfOpen Id (PreparedBoardFunding Keypair)}
    (h : (slots.finish wallet prepared operation).preparedBoardFunding = some kept) :
    slots.preparedBoardFunding = some kept ∨ kept.openedBy = wallet.openedBy := by
  cases operation with
  | prepareBoardFunding =>
    cases h
    exact Or.inr rfl
  | boardPsbt => cases h
  | sync | balance | arkoor | offboard | other => exact Or.inl h

omit [DecidableEq Id] in
@[simp] theorem finish_activeWallet (slots : SessionSlots Id Wallet Store Keypair)
    (wallet : OfOpen Id Wallet) (prepared : PreparedBoardFunding Keypair)
    (operation : WalletOperation) :
    (slots.finish wallet prepared operation).activeWallet = slots.activeWallet := by
  cases operation <;> rfl

/-- The wallet and the prepared key of the next state, and what operations have taken there, are
those of the state before or come from an open that has succeeded. -/
theorem BarkTransition.origins (h : BarkTransition system op next) (horigins : system.Origins) :
    next.Origins := by
  have hstays {other : Id} (hother : system.opens other = some .succeeded) :
      next.opens other = some .succeeded := h.succeeded_stays hother
  have hrunning {id : Id} {operation : WalletOperation} {phase : OperationPhase Id Wallet}
      {found : WalletOperation} {wallet : OfOpen Id Wallet} {other : Id}
      (hphase : ∀ taken, phase = .running taken → system.opens taken.openedBy = some .succeeded)
      (hfound : (system.setOperation id operation phase).operations other =
        some (found, .running wallet)) : system.opens wallet.openedBy = some .succeeded := by
    by_cases hother : other = id
    · subst hother
      rw [system.operations_setOperation_self] at hfound
      cases hfound
      exact hphase wallet rfl
    · rw [system.operations_setOperation_of_ne hother] at hfound
      exact horigins.running other found wallet hfound
  cases h with
  | idle => exact horigins
  | refused | opening | failed =>
    exact ⟨fun wallet hwallet => hstays (horigins.wallet wallet hwallet),
      fun prepared hprepared => hstays (horigins.prepared prepared hprepared),
      fun other operation wallet htaken =>
        hstays (horigins.running other operation wallet htaken)⟩
  | succeeded id network found wallet hopening =>
    constructor
    · intro active hactive
      cases hactive
      exact system.opens_setOpen_self id .succeeded
    · intro prepared hprepared
      exact hstays (horigins.prepared prepared hprepared)
    · intro other operation taken htaken
      exact hstays (horigins.running other operation taken htaken)
  | closed =>
    constructor
    · intro wallet hwallet
      cases hwallet
    · intro prepared hprepared
      cases hprepared
    · exact horigins.running
  | threw id operation message hnew =>
    refine ⟨horigins.wallet, horigins.prepared, ?_⟩
    intro other found wallet hfound
    apply hrunning _ hfound
    intro taken htaken
    cases htaken
  | taken id operation wallet hnew hactive =>
    constructor
    · intro active hnone
      cases hnone
    · exact horigins.prepared
    · intro other found taken hfound
      apply hrunning _ hfound
      intro wallet hwallet
      cases hwallet
      exact horigins.wallet wallet hactive
  | ended id operation wallet answer htaken =>
    have hwallet := horigins.running id operation wallet htaken
    cases answer with
    | error message =>
      constructor
      · intro active hactive
        cases hactive
        exact hwallet
      · exact horigins.prepared
      · intro other found taken hfound
        apply hrunning _ hfound
        intro taken hphase
        cases hphase
    | ok prepared =>
      constructor
      · intro active hactive
        simp only [BarkSystem.finishWalletOperation, finish_activeWallet] at hactive
        cases hactive
        exact hwallet
      · intro kept hkept
        rcases finish_preparedBoardFunding hkept with hbefore | hnew
        · exact horigins.prepared kept hbefore
        · rw [hnew]
          exact hwallet
      · intro other found taken hfound
        apply hrunning _ hfound
        intro taken hphase
        cases hphase

end Agreement

end Bitboard.Bark
