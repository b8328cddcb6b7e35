/-
# Runs of a Bark session

In a state whose slots agree, a step keeps the agreement exactly when it is in order. So the
runs in which the slots always agree are those in which every step is in order. A sync that
ends after a close, and a switch of the network that fails, are two that are not.
-/

import Bitboard.Bark.SessionAgreement

namespace Bitboard.Bark

open Bitboard.Lib

section Runs

variable {Id Wallet Store Keypair : Type} [DecidableEq Id]
  {system next : BarkSystem Id Wallet Store Keypair} {id : Id}
  {op : BarkOp Id Wallet Store Keypair}

theorem openInProgress_setOpen_of_ne {other : Id} (hne : other ≠ id)
    (phase : OpenPhase Id Wallet Store Keypair) :
    (system.setOpen id phase).OpenInProgress other ↔ system.OpenInProgress other := by
  rw [BarkSystem.OpenInProgress, system.opens_setOpen_of_ne hne]
  rfl

theorem noneInProgress_iff {phase : OpenPhase Id Wallet Store Keypair}
    (hended : ∀ network found, phase ≠ .opening network found) :
    (∀ other, ¬ (system.setOpen id phase).OpenInProgress other) ↔ system.OnlyOpen id := by
  constructor
  · intro hnone other hne hopen
    exact hnone other ((openInProgress_setOpen_of_ne hne phase).mpr hopen)
  · intro honly other hopen
    by_cases hother : other = id
    · subst hother
      obtain ⟨network, found, hphase⟩ := hopen
      rw [system.opens_setOpen_self] at hphase
      exact hended network found (Option.some.inj hphase)
    · exact honly other hother ((openInProgress_setOpen_of_ne hother phase).mp hopen)

variable (wallet : Wallet) in
/-- After an open that succeeds the slots agree exactly when it was in order. -/
theorem agrees_openSucceeded_iff (horigins : system.Origins) {network : Network}
    {found : SessionSlots Id Wallet Store Keypair}
    (hopening : system.opens id = some (.opening network found)) :
    (system.openSucceeded id network wallet).Agrees ↔ system.OpenInOrder id := by
  have hended : ∀ network found, (.succeeded : OpenPhase Id Wallet Store Keypair) ≠
      .opening network found := by
    intro network found h
    cases h
  constructor
  · intro hagrees honly
    rcases hagrees.session ((noneInProgress_iff hended).mpr honly) with
      hclosed | ⟨other, -, hsession⟩
    · have hwallet := congrArg SessionSlots.activeWallet hclosed
      cases hwallet
    · have hother : id = other := hsession.wallet _ rfl
      subst hother
      refine ⟨hsession.store, ?_⟩
      rw [Option.eq_none_iff_forall_ne_some]
      intro prepared hprepared
      have hsucceeded := horigins.prepared prepared hprepared
      rw [hsession.prepared prepared hprepared, hopening] at hsucceeded
      cases hsucceeded
  · intro horder
    constructor
    · intro hnone
      obtain ⟨hstore, hprepared⟩ := horder ((noneInProgress_iff hended).mp hnone)
      refine Or.inr ⟨id, system.opens_setOpen_self id .succeeded, hstore, ⟨network, rfl⟩,
        ?_, ?_, ?_⟩
      · intro active hactive
        cases hactive
        rfl
      · intro prepared hkey
        cases hprepared.symm.trans hkey
      · intro marked hmarked
        cases hmarked
    · intro hclosed
      cases hclosed
    · intro marked active hmarked
      cases hmarked

omit [DecidableEq Id] in
theorem failed_eq_closed_iff (slots : SessionSlots Id Wallet Store Keypair) :
    slots.clearRecordStore.clearSessionNetwork = .closed ↔
      slots.activeWallet = none ∧ slots.sessionSyncGate = none ∧
        slots.preparedBoardFunding = none := by
  obtain ⟨wallet, store, gate, network, prepared⟩ := slots
  simp [SessionSlots.clearRecordStore, SessionSlots.clearSessionNetwork, SessionSlots.closed]

/-- After an open that fails the slots agree, and hold no half of a session that it was called
on, exactly when it was in order. -/
theorem agrees_openFailed_iff (hagrees : system.Agrees) (id : Id)
    (found : SessionSlots Id Wallet Store Keypair) (message : String) :
    ((system.openFailed id message).Agrees ∧ ((∃ other, found.SessionOf other) →
        (system.openFailed id message).slots = found ∨
          (system.openFailed id message).slots = .closed)) ↔
      system.FailureInOrder id found := by
  have hended : ∀ network found, (.failed message : OpenPhase Id Wallet Store Keypair) ≠
      .opening network found := by
    intro network found h
    cases h
  have hslots : (system.openFailed id message).slots = .closed ↔
      system.slots.activeWallet = none ∧ system.slots.sessionSyncGate = none ∧
        system.slots.preparedBoardFunding = none := failed_eq_closed_iff system.slots
  rw [BarkSystem.FailureInOrder, ← hslots]
  constructor
  · rintro ⟨hafter, hkeeps⟩ (honly | hsession)
    · rcases hafter.session ((noneInProgress_iff hended).mpr honly) with
        hclosed | ⟨other, -, hsession⟩
      · exact hclosed
      · obtain ⟨store, hstore⟩ := hsession.store
        cases hstore
    · rcases hkeeps hsession with hfound | hclosed
      · obtain ⟨other, hother⟩ := hsession
        obtain ⟨store, hstore⟩ := hother.store
        rw [← hfound] at hstore
        cases hstore
      · exact hclosed
  · intro horder
    refine ⟨⟨?_, ?_, ?_⟩, ?_⟩
    · intro hnone
      exact Or.inl (horder (Or.inl ((noneInProgress_iff hended).mp hnone)))
    · exact hagrees.staysClosed
    · exact hagrees.gate
    · intro hsession
      exact Or.inr (horder (Or.inr hsession))

structure OperationEnd (system : BarkSystem Id Wallet Store Keypair) (operation : WalletOperation)
    (wallet : OfOpen Id Wallet) (answer : Except String (PreparedBoardFunding Keypair))
    (next : BarkSystem Id Wallet Store Keypair) : Prop where
  opens : next.opens = system.opens
  closedSince : next.closedSince = system.closedSince
  active : next.slots.activeWallet = some wallet
  store : next.slots.activeRecordStore = system.slots.activeRecordStore
  network : next.slots.activeBitcoinNetwork = system.slots.activeBitcoinNetwork
  prepared : ∀ prepared, next.slots.preparedBoardFunding = some prepared →
    system.slots.preparedBoardFunding = some prepared ∨ prepared.openedBy = wallet.openedBy
  gate : (operation = .sync ∧ ∃ prepared, answer = .ok prepared) ∧
      next.slots.sessionSyncGate = some wallet.openedBy ∧
        next.synced = wallet.openedBy :: system.synced ∨
    ¬ (operation = .sync ∧ ∃ prepared, answer = .ok prepared) ∧
      next.slots.sessionSyncGate = system.slots.sessionSyncGate ∧ next.synced = system.synced

theorem operationEnd_finishWalletOperation (system : BarkSystem Id Wallet Store Keypair) (id : Id)
    (operation : WalletOperation) (wallet : OfOpen Id Wallet)
    (answer : Except String (PreparedBoardFunding Keypair)) :
    OperationEnd system operation wallet answer
      (system.finishWalletOperation id operation wallet answer) := by
  cases answer with
  | error message =>
    exact ⟨rfl, rfl, rfl, rfl, rfl, fun prepared hprepared => Or.inl hprepared,
      Or.inr ⟨by simp, rfl, rfl⟩⟩
  | ok prepared =>
    constructor
    · rfl
    · rfl
    · exact finish_activeWallet _ _ _ _
    · cases operation <;> rfl
    · cases operation <;> rfl
    · intro kept hkept
      have hfinish : ((system.slots.storeWallet wallet).finish wallet prepared
          operation).preparedBoardFunding = some kept := hkept
      have hfrom := finish_preparedBoardFunding hfinish
      exact hfrom
    · cases operation with
      | sync => exact Or.inl ⟨⟨rfl, prepared, rfl⟩, rfl, rfl⟩
      | balance | prepareBoardFunding | boardPsbt | arkoor | offboard | other =>
        exact Or.inr ⟨by simp, rfl, rfl⟩

omit [DecidableEq Id] in
/-- After the end of an operation the slots agree exactly when it was in order. -/
theorem OperationEnd.agrees_iff {operation : WalletOperation} {wallet : OfOpen Id Wallet}
    {answer : Except String (PreparedBoardFunding Keypair)}
    (h : OperationEnd system operation wallet answer next) (hagrees : system.Agrees) :
    next.Agrees ↔ system.EndInOrder operation wallet answer := by
  have hprogress : ∀ id, next.OpenInProgress id ↔ system.OpenInProgress id := by
    intro id
    rw [BarkSystem.OpenInProgress, h.opens]
    rfl
  constructor
  · intro hafter
    constructor
    · rw [← h.closedSince]
      cases hclosed : next.closedSince with
      | false => rfl
      | true => cases h.active.symm.trans (hafter.staysClosed hclosed)
    · intro hnone
      have hnext : ∀ id, ¬ next.OpenInProgress id := by
        intro id hopen
        exact hnone id ((hprogress id).mp hopen)
      rcases hafter.session hnext with hclosed | ⟨other, -, hsession⟩
      · have hactive := h.active
        rw [hclosed] at hactive
        cases hactive
      · rw [hsession.wallet wallet h.active, ← h.store]
        exact hsession.store
    · intro hmarked
      rcases h.gate with ⟨hsync, -⟩ | ⟨-, hgate, hsynced⟩
      · exact Or.inr hsync
      · obtain ⟨marked, hmarked⟩ := Option.ne_none_iff_exists'.mp hmarked
        left
        rw [← hsynced]
        exact hafter.gate marked wallet (hgate.trans hmarked) h.active
  · intro horder
    constructor
    · intro hnone
      have hbefore : ∀ id, ¬ system.OpenInProgress id := by
        intro id hopen
        exact hnone id ((hprogress id).mpr hopen)
      obtain ⟨store, hstore⟩ := horder.store hbefore
      rcases hagrees.session hbefore with hclosed | ⟨other, hsucceeded, hsession⟩
      · rw [hclosed] at hstore
        cases hstore
      · obtain ⟨kept, hkept⟩ := hsession.store
        have hother : wallet.openedBy = other :=
          congrArg OfOpen.openedBy (Option.some.inj (hstore.symm.trans hkept))
        refine Or.inr ⟨other, by rw [h.opens, hsucceeded], ⟨kept, h.store.trans hkept⟩,
          ?_, ?_, ?_, ?_⟩
        · rw [h.network]
          exact hsession.network
        · intro active hactive
          cases h.active.symm.trans hactive
          exact hother
        · intro prepared hprepared
          rcases h.prepared prepared hprepared with hold | hnew
          · exact hsession.prepared prepared hold
          · exact hnew.trans hother
        · intro marked hmarked
          rcases h.gate with ⟨-, hgate, -⟩ | ⟨-, hgate, -⟩
          · cases hgate.symm.trans hmarked
            exact hother
          · exact hsession.gate marked (hgate.symm.trans hmarked)
    · intro hclosed
      rw [h.closedSince, horder.notClosed] at hclosed
      cases hclosed
    · intro marked active hmarked hactive
      cases h.active.symm.trans hactive
      rcases h.gate with ⟨-, -, hsynced⟩ | ⟨hother, hgate, hsynced⟩
      · rw [hsynced]
        exact List.mem_cons_self
      · rw [hsynced]
        have hbefore : system.slots.sessionSyncGate ≠ none := by
          rw [← hgate, hmarked]
          exact Option.some_ne_none marked
        exact (horder.gate hbefore).resolve_right hother

/-! ## Runs -/

omit [DecidableEq Id] in
/-- A step that ends no open keeps the agreement if it leaves the slots, up to a wallet that is
taken out. -/
theorem BarkSystem.Agrees.keep (h : system.Agrees)
    (hopens : ∀ other, system.OpenInProgress other → next.OpenInProgress other)
    (hsucceeded : ∀ other, system.opens other = some .succeeded →
      next.opens other = some .succeeded)
    (hslots : next.slots = system.slots ∨ next.slots = { system.slots with activeWallet := none })
    (hclosed : next.closedSince = system.closedSince) (hsynced : next.synced = system.synced) :
    next.Agrees where
  session := by
    intro hnone
    have hbefore : ∀ id, ¬ system.OpenInProgress id := by
      intro id hopen
      exact hnone id (hopens id hopen)
    rcases h.session hbefore with hempty | ⟨id, hid, hsession⟩
    · left
      rcases hslots with hsame | htaken
      · rw [hsame, hempty]
      · rw [htaken, hempty]
        rfl
    · right
      refine ⟨id, hsucceeded id hid, ?_⟩
      rcases hslots with hsame | htaken
      · rw [hsame]
        exact hsession
      · rw [htaken]
        refine ⟨hsession.store, hsession.network, ?_, hsession.prepared, hsession.gate⟩
        intro wallet hwallet
        cases hwallet
  staysClosed := by
    intro hsince
    rw [hclosed] at hsince
    rcases hslots with hsame | htaken
    · rw [hsame]
      exact h.staysClosed hsince
    · rw [htaken]
  gate := by
    intro marked wallet hmarked hwallet
    rw [hsynced]
    rcases hslots with hsame | htaken
    · rw [hsame] at hmarked hwallet
      exact h.gate marked wallet hmarked hwallet
    · rw [htaken] at hwallet
      cases hwallet

/-- In a state that agrees a step keeps what is asked of it exactly when it is in order. -/
theorem BarkTransition.agrees_iff (h : BarkTransition system op next) (hagrees : system.Agrees)
    (horigins : system.Origins) :
    (next.Agrees ∧ system.FailedOpenKeeps next op) ↔ system.StepInOrder op := by
  have hstays {other : Id} (hother : system.opens other = some .succeeded) :
      next.opens other = some .succeeded := h.succeeded_stays hother
  cases h with
  | idle op hopening hrunning hnew =>
    cases op with
    | openSession id request =>
      refine iff_of_true ⟨hagrees, ?_⟩ trivial
      intro message hnone
      exact absurd hnone (hnew id request rfl)
    | opened id answer =>
      have hnone := hopening id answer rfl
      cases answer with
      | ok wallet =>
        refine iff_of_true ⟨hagrees, trivial⟩ ?_
        intro network found hphase
        exact absurd ⟨network, found, hphase⟩ hnone
      | error message =>
        refine iff_of_true ⟨hagrees, ?_⟩ ?_
        · intro network found hphase
          exact absurd ⟨network, found, hphase⟩ hnone
        · intro network found hphase
          exact absurd ⟨network, found, hphase⟩ hnone
    | closeSession | call => exact iff_of_true ⟨hagrees, trivial⟩ trivial
    | answered id answer =>
      refine iff_of_true ⟨hagrees, trivial⟩ ?_
      intro operation wallet htaken
      exact absurd htaken (hrunning id answer rfl operation wallet)
  | refused id request message hnew =>
    refine iff_of_true ⟨?_, ?_⟩ trivial
    · apply hagrees.keep _ (fun other hother => hstays hother) (Or.inl rfl) rfl rfl
      rintro other ⟨network, found, hphase⟩
      have hne : other ≠ id := by
        intro heq
        rw [heq, hnew] at hphase
        cases hphase
      exact (openInProgress_setOpen_of_ne hne _).mpr ⟨network, found, hphase⟩
    · intro other _ _
      rfl
  | opening id request network store hnew hparse =>
    refine iff_of_true ⟨⟨?_, hagrees.staysClosed, hagrees.gate⟩, ?_⟩ trivial
    · intro hnone
      exact absurd ⟨network, system.slots, system.opens_setOpen_self id _⟩ (hnone id)
    · intro message _ herror
      cases hparse.symm.trans herror
  | succeeded id network found wallet hopening =>
    have hiff := agrees_openSucceeded_iff wallet horigins hopening
    constructor
    · rintro ⟨hafter, -⟩ _ _ _
      exact hiff.mp hafter
    · intro horder
      exact ⟨hiff.mpr (horder network found hopening), trivial⟩
  | failed id network found message hopening =>
    have hiff := agrees_openFailed_iff hagrees id found message
    constructor
    · rintro ⟨hafter, hkeeps⟩ given foundSlots hphase
      cases hopening.symm.trans hphase
      exact hiff.mp ⟨hafter, hkeeps network found hopening⟩
    · intro horder
      obtain ⟨hafter, hkeeps⟩ := hiff.mpr (horder network found hopening)
      refine ⟨hafter, ?_⟩
      intro given foundSlots hphase
      cases hopening.symm.trans hphase
      exact hkeeps
  | closed =>
    refine iff_of_true ⟨⟨?_, ?_, ?_⟩, trivial⟩ trivial
    · intro _
      exact Or.inl rfl
    · intro _
      rfl
    · intro marked wallet hmarked
      cases hmarked
  | threw id operation message hnew =>
    exact iff_of_true ⟨hagrees.keep (fun other hother => hother) (fun other hother => hother)
      (Or.inl rfl) rfl rfl, trivial⟩ trivial
  | taken id operation wallet hnew hactive =>
    exact iff_of_true ⟨hagrees.keep (fun other hother => hother) (fun other hother => hother)
      (Or.inr rfl) rfl rfl, trivial⟩ trivial
  | ended id operation wallet answer htaken =>
    have hiff := (operationEnd_finishWalletOperation system id operation wallet
      answer).agrees_iff hagrees
    constructor
    · rintro ⟨hafter, -⟩ given found hrunning
      cases htaken.symm.trans hrunning
      exact hiff.mp hafter
    · intro horder
      exact ⟨hiff.mpr (horder operation wallet htaken), trivial⟩

omit [DecidableEq Id] in
theorem agrees_initial : (initialBarkSystem : BarkSystem Id Wallet Store Keypair).Agrees where
  session := fun _ => Or.inl rfl
  staysClosed := fun _ => rfl
  gate := by
    intro marked wallet hmarked
    cases hmarked

omit [DecidableEq Id] in
theorem origins_initial : (initialBarkSystem : BarkSystem Id Wallet Store Keypair).Origins where
  wallet := by
    intro wallet hwallet
    cases hwallet
  prepared := by
    intro prepared hprepared
    cases hprepared
  running := by
    intro id operation wallet hrunning
    cases hrunning

/-- In a run everything that is asked holds at every step exactly when every step is in order. -/
theorem session_agrees_iff_in_order (ops : List (BarkOp Id Wallet Store Keypair)) :
    RunMeets barkStep BarkSystem.StepAgrees initialBarkSystem ops ↔
      RunMeets barkStep BarkSystem.StepInOrder initialBarkSystem ops := by
  have hiff (system : BarkSystem Id Wallet Store Keypair) (op : BarkOp Id Wallet Store Keypair)
      (hinv : system.Agrees ∧ system.Origins) :
      system.StepAgrees op ↔ system.StepInOrder op :=
    (barkStep_transition system op).agrees_iff hinv.1 hinv.2
  apply runMeets_iff_of_invariant (fun system => system.Agrees ∧ system.Origins) hiff
  · intro system op horder hinv
    exact ⟨((hiff system op hinv).mpr horder).1, (barkStep_transition system op).origins hinv.2⟩
  · exact ⟨agrees_initial, origins_initial⟩

end Runs

def syncOutlivesClose : List (BarkOp Nat String String Unit) :=
  [.openSession 0
      { call := .openSession "signet", mnemonic := .ok (), recordEnvelope := .ok "" },
    .opened 0 (.ok "wallet"), .call 0 .sync, .closeSession,
    .answered 0 (.ok { userKeypair := (), expiryHeight := 0, fundingAddress := "" })]

def switchFails : List (BarkOp Nat String String Unit) :=
  [.openSession 0
      { call := .openSession "signet", mnemonic := .ok (), recordEnvelope := .ok "" },
    .opened 0 (.ok "wallet"),
    .openSession 1
      { call := .openSession "mainnet", mnemonic := .ok (), recordEnvelope := .ok "" },
    .opened 1 (.error "connection refused")]

theorem slots_do_not_agree :
    ¬ RunMeets barkStep BarkSystem.StepAgrees initialBarkSystem syncOutlivesClose ∧
      ¬ RunMeets barkStep BarkSystem.StepAgrees initialBarkSystem switchFails := by
  constructor
  · intro hmeets
    have hend := hmeets.2.2.2.2.1.1
    cases hend.staysClosed rfl
  · intro hmeets
    -- the open was called on the Signet session
    have hsession : (run barkStep initialBarkSystem (switchFails.take 2)).slots.SessionOf 0 := by
      constructor
      · exact ⟨"", rfl⟩
      · exact ⟨.signet, rfl⟩
      · intro wallet hwallet
        cases hwallet
        rfl
      · intro prepared hprepared
        cases hprepared
      · intro marked hmarked
        cases hmarked
    rcases hmeets.2.2.2.1.2 .bitcoin _ rfl ⟨0, hsession⟩ with hfound | hclosed
    · cases congrArg SessionSlots.activeRecordStore hfound
    · cases congrArg SessionSlots.activeWallet hclosed

end Bitboard.Bark
