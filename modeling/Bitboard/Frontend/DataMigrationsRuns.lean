/-
# Every pending migration is applied once

A marker of a wallet is only inserted together with a write that raises the revision of its
row. So a transform that reads the markers after the row has been read, and whose write
then finds the revision unchanged, has read the markers as they still are: the names it
applies are the ones without a marker, and they get theirs with the payload.
-/

import Bitboard.Frontend.DataMigrations

namespace Bitboard.Frontend

open Bitboard.Lib Bitboard.Wallet
open WalletTables

section Migrations

variable {Id Random : Type}

/-- A wallet with its payload, its markers, those of them it was there with first, and the
names of the migrations that were applied to it since. -/
structure WalletContents where
  payload : EncryptedWalletSecretsBlob
  markers : List String
  initial : List String
  applied : List String

variable (codec : PayloadCodec JsonValue Random) (registry : List WalletDataMigration)

def registryNames : List String := registry.map WalletDataMigration.name

/-- A call made alone on the wallets. A migration applies what has no marker. -/
def applyEvent (contents : Nat → Option WalletContents) :
    MigrationEvent Random → Except String (Nat → Option WalletContents)
  | .create walletId payload =>
    match contents walletId with
    | some _ => .error "the wallet is there already"
    | none =>
      .ok (Function.update contents walletId (some
        { payload := payload
          markers := registryNames registry
          initial := registryNames registry
          applied := [] }))
  | .update walletId transform random =>
    match contents walletId with
    | none => .error "no such wallet"
    | some before => do
        let payload ← codec.onBlob transform random before.payload
        return Function.update contents walletId (some { before with payload := payload })
  | .migrate walletId chain random =>
    match contents walletId with
    | none => .error "no such wallet"
    | some before => do
        let pending := pendingMigrations registry before.markers
        let payload ← codec.onBlob
          (fun _ payload => applyWalletDataMigrations payload pending chain) random
          before.payload
        return Function.update contents walletId (some
          { before with
            payload := payload
            markers := before.markers ++ registryNames pending
            applied := before.applied ++ registryNames pending })

def startContents (start : WalletTables) (walletId : Nat) : Option WalletContents :=
  if walletId ∈ start.walletIds then
    some
      { payload := rowToPayloadBlob (start.wallet walletId).row
        markers := (start.wallet walletId).alongside
        initial := (start.wallet walletId).alongside
        applied := [] }
  else none

/-- The markers are those of the start and those of the migrations that were applied since, each
once. A wallet that is new has had all markers from its creation. -/
structure WalletContents.Marked (start : WalletTables) (walletId : Nat)
    (contents : WalletContents) : Prop where
  once : contents.markers.Nodup
  markers : contents.markers = contents.initial ++ contents.applied
  known : ∀ name ∈ contents.applied, name ∈ registryNames registry
  initial : contents.initial =
    if walletId ∈ start.walletIds then (start.wallet walletId).alongside
    else registryNames registry

structure WalletTables.Hold (start : WalletTables) (tables : WalletTables)
    (contents : Nat → Option WalletContents) : Prop where
  absent : ∀ walletId, walletId ∉ tables.walletIds → contents walletId = none
  stored : ∀ walletId ∈ tables.walletIds, ∃ wallet, contents walletId = some wallet ∧
    wallet.payload = rowToPayloadBlob (tables.wallet walletId).row ∧
    wallet.markers = (tables.wallet walletId).alongside ∧
    wallet.Marked registry start walletId

def WalletTables.Complete (tables : WalletTables) (walletId : Nat) : Prop :=
  ∀ migration ∈ registry, migration.name ∈ (tables.wallet walletId).alongside

variable {codec registry} {start tables next : WalletTables}
  {contents : Nat → Option WalletContents} {before : WalletContents} {walletId : Nat}

theorem mem_registryNames_pending {applied : List String} {name : String} :
    name ∈ registryNames (pendingMigrations registry applied) ↔
      name ∈ registryNames registry ∧ name ∉ applied := by
  simp only [registryNames, pendingMigrations, List.mem_map, List.mem_filter, decide_eq_true_eq]
  constructor
  · rintro ⟨migration, ⟨hmem, hnot⟩, rfl⟩
    exact ⟨⟨migration, hmem, rfl⟩, hnot⟩
  · rintro ⟨⟨migration, hmem, rfl⟩, hnot⟩
    exact ⟨migration, ⟨hmem, hnot⟩, rfl⟩

theorem WalletContents.Marked.applied_eq_nil (h : before.Marked registry start walletId)
    (hnew : walletId ∉ start.walletIds) : before.applied = [] := by
  rw [List.eq_nil_iff_forall_not_mem]
  intro name hname
  have honce := h.once
  rw [h.markers, h.initial, if_neg hnew, List.nodup_append] at honce
  exact honce.2.2 name (h.known name hname) name hname rfl

theorem WalletContents.Marked.applyPending (h : before.Marked registry start walletId)
    {payload : EncryptedWalletSecretsBlob}
    (honce : (before.markers ++
      registryNames (pendingMigrations registry before.markers)).Nodup) :
    ({ before with
        payload := payload
        markers := before.markers ++ registryNames (pendingMigrations registry before.markers)
        applied := before.applied ++
          registryNames (pendingMigrations registry before.markers) } : WalletContents).Marked
      registry start walletId where
  once := honce
  markers := by
    show before.markers ++ _ = before.initial ++ (before.applied ++ _)
    rw [h.markers, List.append_assoc]
  known := by
    intro name hname
    rcases List.mem_append.mp hname with hbefore | hnew
    · exact h.known name hbefore
    · exact (mem_registryNames_pending.mp hnew).1
  initial := h.initial

variable (registry) in
/-- The wallets stay, a row that was written has a later revision, no marker goes, and a wallet
that is new has all markers. -/
structure WalletTables.Later (tables next : WalletTables) : Prop where
  stay : ∀ walletId ∈ tables.walletIds, walletId ∈ next.walletIds
  wallet : ∀ walletId ∈ tables.walletIds, next.wallet walletId = tables.wallet walletId ∨
    (∃ payload, (next.wallet walletId).row = (tables.wallet walletId).row.withPayload payload) ∧
      ∀ name ∈ (tables.wallet walletId).alongside, name ∈ (next.wallet walletId).alongside
  new : ∀ walletId ∈ next.walletIds, walletId ∈ tables.walletIds ∨ next.Complete registry walletId

theorem later_of_same (hids : next.walletIds = tables.walletIds)
    (hwallet : next.wallet = tables.wallet) : tables.Later registry next where
  stay := by
    intro walletId hmem
    rw [hids]
    exact hmem
  wallet := by
    intro walletId hmem
    rw [hwallet]
    exact Or.inl rfl
  new := by
    intro walletId hmem
    rw [hids] at hmem
    exact Or.inl hmem

theorem WalletTables.Later.complete (h : tables.Later registry next)
    (hmem : walletId ∈ tables.walletIds) (hcomplete : tables.Complete registry walletId) :
    next.Complete registry walletId := by
  intro migration hmigration
  rcases h.wallet walletId hmem with hsame | ⟨-, hmarkers⟩
  · rw [hsame]
    exact hcomplete migration hmigration
  · exact hmarkers _ (hcomplete migration hmigration)

/-! ## The calls -/

variable (codec) in
/-- What an attempt has read is of a wallet that is there; if its revision is still the one that
was read, its markers are still those that the transform has read. -/
structure CallSound (tables : WalletTables) (walletId : Nat)
    (call : UpdateCall JsonValue (MigrationAmbient Random) (List String)) : Prop where
  saw : call.Sound (attemptCodec codec) (tables.wallet walletId).row
  there : ∀ attempt current, call.phase = .transforming attempt current →
    walletId ∈ tables.walletIds
  markers : ∀ attempt current ambient nextPayload,
    call.phase = .putting attempt current ambient nextPayload → walletId ∈ tables.walletIds ∧
      (current.version = (tables.wallet walletId).row.revision →
        ambient.applied = (tables.wallet walletId).alongside)

variable {call : UpdateCall JsonValue (MigrationAmbient Random) (List String)}

theorem callSound_of_phase
    (htransforming : ∀ attempt current, call.phase ≠ .transforming attempt current)
    (hputting : ∀ attempt current ambient nextPayload,
      call.phase ≠ .putting attempt current ambient nextPayload) :
    CallSound codec tables walletId call where
  saw := by
    unfold UpdateCall.Sound
    cases hphase : call.phase with
    | transforming attempt current => exact absurd hphase (htransforming attempt current)
    | putting attempt current ambient nextPayload =>
      exact absurd hphase (hputting attempt current ambient nextPayload)
    | reading | returned | threw => trivial
  there := by
    intro attempt current hphase
    exact absurd hphase (htransforming attempt current)
  markers := by
    intro attempt current ambient nextPayload hphase
    exact absurd hphase (hputting attempt current ambient nextPayload)

/-- A write of somebody else leaves a call sound. -/
theorem CallSound.later
    (h : CallSound codec tables walletId call) (hlater : tables.Later registry next) :
    CallSound codec next walletId call := by
  by_cases hreads : (∃ attempt current, call.phase = .transforming attempt current) ∨
      ∃ attempt current ambient nextPayload,
        call.phase = .putting attempt current ambient nextPayload
  · have hmem : walletId ∈ tables.walletIds := by
      rcases hreads with ⟨attempt, current, hphase⟩ |
        ⟨attempt, current, ambient, nextPayload, hphase⟩
      · exact h.there attempt current hphase
      · exact (h.markers attempt current ambient nextPayload hphase).1
    rcases hlater.wallet walletId hmem with hsame | ⟨⟨payload, hrow⟩, -⟩
    · constructor
      · rw [hsame]
        exact h.saw
      · intro attempt current hphase
        exact hlater.stay walletId hmem
      · intro attempt current ambient nextPayload hphase
        rw [hsame]
        exact ⟨hlater.stay walletId hmem, (h.markers attempt current ambient nextPayload hphase).2⟩
    · constructor
      · rw [hrow]
        exact h.saw.withPayload payload
      · intro attempt current hphase
        exact hlater.stay walletId hmem
      · intro attempt current ambient nextPayload hphase
        refine ⟨hlater.stay walletId hmem, ?_⟩
        -- the revision has gone past the one that was read
        intro hversion
        have hsaw := h.saw
        rw [UpdateCall.Sound, hphase] at hsaw
        rw [hrow] at hversion
        rcases hsaw.1 with hcell | hold
        · rw [hcell] at hversion
          exact absurd hversion (Nat.ne_of_lt (Nat.lt_succ_self _))
        · have hold : current.version < (tables.wallet walletId).row.revision := hold
          exact absurd hversion (Nat.ne_of_lt (Nat.lt_succ_of_lt hold))
  · apply callSound_of_phase
    · intro attempt current hphase
      exact hreads (Or.inl ⟨attempt, current, hphase⟩)
    · intro attempt current ambient nextPayload hphase
      exact hreads (Or.inr ⟨attempt, current, ambient, nextPayload, hphase⟩)

/-- A step of an update that writes: its transform was applied to the payload as it is, and it
has read the markers as they are. -/
structure WalletWrite (codec : PayloadCodec JsonValue Random) (tables : WalletTables)
    (walletId : Nat) (call : UpdateCall JsonValue (MigrationAmbient Random) (List String))
    (random : Random)
    (result : UpdateCall JsonValue (MigrationAmbient Random) (List String) × WalletTables) :
    Prop where
  there : walletId ∈ tables.walletIds
  bytes : writtenRandom call.phase result.1.phase = some random
  returned : result.1.phase = .returned
  written : ∃ database, result.2 = tables.setWallet walletId database ∧
    (∃ payload, database.row = (tables.wallet walletId).row.withPayload payload) ∧
    applyCommit (attemptCodec codec) (tables.wallet walletId).contents
      ({ id := ()
         update := call.update
         ambient :=
          { random := random, applied := (tables.wallet walletId).alongside } } :
        PayloadCommit Unit JsonValue (MigrationAmbient Random) (List String)) =
      .ok database.contents

structure WalletWait (codec : PayloadCodec JsonValue Random) (tables : WalletTables)
    (walletId : Nat) (call : UpdateCall JsonValue (MigrationAmbient Random) (List String))
    (result : UpdateCall JsonValue (MigrationAmbient Random) (List String) × WalletTables) :
    Prop where
  unchanged : result.2 = tables
  bytes : writtenRandom call.phase result.1.phase = none
  returned : result.1.phase = .returned → call.phase = .returned
  sound : CallSound codec tables walletId result.1

theorem setWallet_self : tables.setWallet walletId (tables.wallet walletId) = tables := by
  simp [setWallet]

theorem callSound_threw
    (message : String) : CallSound codec tables walletId { call with phase := .threw message } := by
  apply callSound_of_phase
  · intro attempt current hphase
    cases hphase
  · intro attempt current ambient nextPayload hphase
    cases hphase

theorem callSound_enterAttempt (attempt : Nat) :
    CallSound codec tables walletId (call.enterAttempt attempt) := by
  unfold UpdateCall.enterAttempt
  split
  · apply callSound_of_phase
    · intro attempt current hphase
      cases hphase
    · intro attempt current ambient nextPayload hphase
      cases hphase
  · exact callSound_threw _

/-- An attempt reads the row of a wallet that is there, and its transform the markers as they
are. -/
theorem callSound_step (hsound : CallSound codec tables walletId call) (input : UpdateInput Random)
    (hreturned : (call.step (attemptCodec codec) (tables.wallet walletId)
      (tables.inputOn walletId input)).1.phase = .returned → call.phase = .returned) :
    CallSound codec tables walletId
      (call.step (attemptCodec codec) (tables.wallet walletId)
        (tables.inputOn walletId input)).1 := by
  cases input with
  | read =>
    simp only [inputOn]
    split
    · rename_i hmem
      simp only [UpdateCall.step]
      split
      · exact ⟨Versioned.saw_self _, fun _ _ _ => hmem, by simp⟩
      · exact hsound
    · simp only [UpdateCall.step]
      split
      · exact hsound
      · exact hsound
      · exact callSound_threw _
  | transform random =>
    simp only [inputOn, UpdateCall.step]
    split
    · rename_i attempt current hphase
      have hmem := hsound.there attempt current hphase
      have hsaw := hsound.saw
      rw [UpdateCall.Sound, hphase] at hsaw
      split
      · rename_i nextPayload hnext
        refine ⟨⟨hsaw, hnext⟩, by simp, ?_⟩
        intro attempt' current' ambient' nextPayload' hputting
        cases hputting
        exact ⟨hmem, fun _ => rfl⟩
      · exact callSound_threw _
    · exact hsound
  | put =>
    simp only [inputOn, UpdateCall.step] at hreturned ⊢
    split at hreturned
    · rename_i attempt current ambient nextPayload hphase
      simp only [hphase] at hreturned ⊢
      split at hreturned
      · cases hreturned rfl
      · exact callSound_enterAttempt _
      · exact callSound_threw _
    · exact hsound
  | fail message =>
    simp only [inputOn, UpdateCall.step]
    split
    · exact hsound
    · exact hsound
    · exact callSound_threw _

theorem revision_of_put_returned {Payload Ambient Side : Type}
    {codec : PayloadCodec Payload Ambient} {database : SecretsDatabase Side}
    {call : UpdateCall Payload Ambient Side} {attempt : Nat}
    {current : Versioned EncryptedWalletSecretsBlob} {ambient : Ambient}
    {nextPayload : EncryptedWalletSecretsBlob}
    (hphase : call.phase = .putting attempt current ambient nextPayload)
    (hreturned : (call.step codec database .put).1.phase = .returned) :
    database.row.revision = current.version := by
  simp only [UpdateCall.step, hphase] at hreturned
  split at hreturned
  · rename_i written hput
    exact (put_eq_written hput).1
  · exact absurd hreturned (enterAttempt_phase_ne_returned _)
  · cases hreturned

/-- Every step of an update waits or writes. -/
theorem updateWalletStep_cases
    (hsound : CallSound codec tables walletId call) (input : UpdateInput Random) :
    WalletWait codec tables walletId call (updateWalletStep codec tables walletId call input) ∨
      ∃ random, WalletWrite codec tables walletId call random
        (updateWalletStep codec tables walletId call input) := by
  have hcases := step_cases () hsound.saw (tables.inputOn walletId input)
  have hwait (hwaits : call.Waits (attemptCodec codec) (tables.wallet walletId)
      (call.step (attemptCodec codec) (tables.wallet walletId) (tables.inputOn walletId input))) :
      WalletWait codec tables walletId call
        (updateWalletStep codec tables walletId call input) := by
    constructor
    · simp only [updateWalletStep, hwaits.unchanged]
      exact setWallet_self
    · simp only [updateWalletStep, writtenRandom]
      split
      · rename_i hphase hreturned
        rw [hwaits.returned.mp hreturned] at hphase
        cases hphase
      · rfl
    · exact hwaits.returned.mp
    · exact callSound_step hsound input hwaits.returned.mp
  rcases hcases with hwaits | ⟨other, hwrites⟩
  · exact Or.inl (hwait hwaits)
  · obtain ⟨hinput, attempt, current, ambient, nextPayload, hphase⟩ :=
      putting_of_returned hwrites.fresh hwrites.returned
    rw [hinput] at hwait hwrites
    rcases put_cases () hphase hsound.saw with hwaits | hwrites
    · exact Or.inl (hwait hwaits)
    · obtain ⟨hmem, hmarkers⟩ := hsound.markers attempt current ambient nextPayload hphase
      have hversion := revision_of_put_returned hphase hwrites.returned
      have hambient : ambient =
          { random := ambient.random, applied := (tables.wallet walletId).alongside } := by
        rw [← hmarkers hversion.symm]
      refine Or.inr ⟨ambient.random, hmem, ?_, ?_, _, rfl, ?_, ?_⟩
      · simp only [updateWalletStep, hinput, hphase, hwrites.returned, writtenRandom]
      · simp only [updateWalletStep, hinput, hwrites.returned]
      · rw [hinput]
        exact hwrites.written
      · rw [hinput, ← hambient]
        exact hwrites.contents

variable {database : SecretsDatabase (List String)}

/-- The wallet that was written has its new contents, the others are as they were. -/
theorem hold_setWallet (h : WalletTables.Hold registry start tables contents)
    (hmem : walletId ∈ tables.walletIds) {wallet : WalletContents}
    (hpayload : wallet.payload = rowToPayloadBlob database.row)
    (hmarkers : wallet.markers = database.alongside)
    (hmarked : wallet.Marked registry start walletId) :
    WalletTables.Hold registry start (tables.setWallet walletId database)
      (Function.update contents walletId (some wallet)) where
  absent := by
    intro other hother
    have hne : other ≠ walletId := by
      intro heq
      exact hother (heq ▸ hmem)
    rw [Function.update_of_ne hne]
    exact h.absent other hother
  stored := by
    intro other hother
    by_cases heq : other = walletId
    · subst heq
      refine ⟨wallet, Function.update_self _ _ _, ?_, ?_, hmarked⟩
      · simpa only [setWallet, Function.update_self] using hpayload
      · simpa only [setWallet, Function.update_self] using hmarkers
    · simp only [setWallet, Function.update_of_ne heq]
      exact h.stored other hother

theorem later_setWallet
    (hrow : ∃ payload, database.row = (tables.wallet walletId).row.withPayload payload)
    (hmarkers : ∀ name ∈ (tables.wallet walletId).alongside, name ∈ database.alongside) :
    tables.Later registry (tables.setWallet walletId database) where
  stay := by
    intro other hother
    exact hother
  wallet := by
    intro other hother
    by_cases heq : other = walletId
    · subst heq
      simp only [setWallet, Function.update_self]
      exact Or.inr ⟨hrow, hmarkers⟩
    · exact Or.inl (Function.update_of_ne heq _ _)
  new := by
    intro other hother
    exact Or.inl hother

/-- An ordinary update that writes leaves the markers and amounts to its transform. -/
theorem hold_ordinaryUpdate (h : WalletTables.Hold registry start tables contents)
    {transform : Random → JsonValue → Except String JsonValue} {random : Random}
    (hmem : walletId ∈ tables.walletIds)
    (hcommit : applyCommit (attemptCodec codec) (tables.wallet walletId).contents
      ({ id := ()
         update := ordinaryUpdate transform
         ambient := { random := random, applied := (tables.wallet walletId).alongside } } :
        PayloadCommit Unit JsonValue (MigrationAmbient Random) (List String)) =
      .ok database.contents) :
    (∃ after, applyEvent codec registry contents (.update walletId transform random) = .ok after ∧
      WalletTables.Hold registry start (tables.setWallet walletId database) after) ∧
      database.alongside = (tables.wallet walletId).alongside := by
  obtain ⟨wallet, hwallet, hpayload, hmarkers, hmarked⟩ := h.stored walletId hmem
  simp only [applyCommit, bind_eq_ok] at hcommit
  obtain ⟨blob, hblob, alongside, halongside, hdatabase⟩ := hcommit
  cases halongside
  have hparts := Prod.mk.inj (Except.ok.inj hdatabase)
  have hnext : codec.onBlob transform random wallet.payload = .ok blob := by
    rw [hpayload]
    exact hblob
  refine ⟨⟨Function.update contents walletId (some { wallet with payload := blob }), ?_, ?_⟩,
    hparts.2.symm⟩
  · simp only [applyEvent, hwallet, hnext]
    rfl
  · apply hold_setWallet h hmem
    · exact hparts.1
    · exact hmarkers.trans hparts.2
    · exact ⟨hmarked.once, hmarked.markers, hmarked.known, hmarked.initial⟩

/-- A migration that writes applies what is pending and inserts its markers. -/
theorem hold_migrationUpdate (h : WalletTables.Hold registry start tables contents)
    {chain : HistoricalSignetOnchainChain} {random : Random} (hmem : walletId ∈ tables.walletIds)
    (hcommit : applyCommit (attemptCodec codec) (tables.wallet walletId).contents
      ({ id := ()
         update := migrationUpdate registry chain
         ambient := { random := random, applied := (tables.wallet walletId).alongside } } :
        PayloadCommit Unit JsonValue (MigrationAmbient Random) (List String)) =
      .ok database.contents) :
    (∃ after, applyEvent codec registry contents (.migrate walletId chain random) = .ok after ∧
      WalletTables.Hold registry start (tables.setWallet walletId database) after) ∧
      database.alongside = (tables.wallet walletId).alongside ++
        registryNames (pendingMigrations registry (tables.wallet walletId).alongside) := by
  obtain ⟨wallet, hwallet, hpayload, hmarkers, hmarked⟩ := h.stored walletId hmem
  simp only [applyCommit, bind_eq_ok] at hcommit
  obtain ⟨blob, hblob, alongside, halongside, hdatabase⟩ := hcommit
  have hparts := Prod.mk.inj (Except.ok.inj hdatabase)
  have hinserted : ((tables.wallet walletId).alongside ++
        registryNames (pendingMigrations registry (tables.wallet walletId).alongside)).Nodup ∧
      (tables.wallet walletId).alongside ++
        registryNames (pendingMigrations registry (tables.wallet walletId).alongside) =
          alongside := by
    have hrecord : recordWalletDataMigrationsApplied (tables.wallet walletId).alongside
        (registryNames (pendingMigrations registry (tables.wallet walletId).alongside)) =
      .ok alongside := halongside
    rw [recordWalletDataMigrationsApplied] at hrecord
    split at hrecord
    · rename_i honce
      cases hrecord
      exact ⟨honce, rfl⟩
    · cases hrecord
  have hnext : codec.onBlob (fun _ payload => applyWalletDataMigrations payload
      (pendingMigrations registry wallet.markers) chain) random wallet.payload = .ok blob := by
    rw [hpayload, hmarkers]
    exact hblob
  have halongsideEq := hparts.2.symm.trans hinserted.2.symm
  refine ⟨⟨Function.update contents walletId (some
    { wallet with
      payload := blob
      markers := wallet.markers ++ registryNames (pendingMigrations registry wallet.markers)
      applied := wallet.applied ++
        registryNames (pendingMigrations registry wallet.markers) }), ?_, ?_⟩, halongsideEq⟩
  · simp only [applyEvent, hwallet, hnext]
    rfl
  · apply hold_setWallet h hmem
    · exact hparts.1
    · show wallet.markers ++ _ = database.alongside
      rw [hmarkers, halongsideEq]
    · apply hmarked.applyPending
      rw [hmarkers]
      exact hinserted.1

theorem complete_of_pending {markers : List String} {migration : WalletDataMigration}
    (hmem : migration ∈ registry) :
    migration.name ∈ markers ++ registryNames (pendingMigrations registry markers) := by
  rw [List.mem_append, mem_registryNames_pending]
  by_cases hmarker : migration.name ∈ markers
  · exact Or.inl hmarker
  · exact Or.inr ⟨List.mem_map_of_mem hmem, hmarker⟩

theorem complete_of_pending_eq_nil
    (hnone : pendingMigrations registry (tables.wallet walletId).alongside = []) :
    tables.Complete registry walletId := by
  intro migration hmem
  have hcomplete : migration.name ∈ (tables.wallet walletId).alongside ++
      registryNames (pendingMigrations registry (tables.wallet walletId).alongside) :=
    complete_of_pending hmem
  rw [hnone] at hcomplete
  simpa [registryNames] using hcomplete

end Migrations

end Bitboard.Frontend
