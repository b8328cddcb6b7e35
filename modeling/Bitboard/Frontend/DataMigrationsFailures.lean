/-
# Migrations that fail, and the runs of the registry

A wallet changes only in a step that is recorded, and a step that makes a runner start over
or give up is none. So a migration that fails leaves payload and markers as they were, at
whatever statement it fails.
-/

import Bitboard.Frontend.DataMigrationsOnce

namespace Bitboard.Frontend

open Bitboard.Lib Bitboard.Wallet

section Failures

variable {Id Random : Type}

/-- The wallets, their payloads and their markers are the same. -/
structure WalletTables.SameWallets (tables next : WalletTables) : Prop where
  walletIds : next.walletIds = tables.walletIds
  wallet : next.wallet = tables.wallet

variable {codec : PayloadCodec JsonValue Random} {registry : List WalletDataMigration}
  {start tables next : WalletTables} {system : MigrationSystem Id Random} {id : Id}

theorem WalletTables.SameWallets.refl (tables : WalletTables) : tables.SameWallets tables where
  walletIds := rfl
  wallet := rfl

variable (codec tables) in
/-- A step of an update writes or leaves the tables. -/
theorem updateWalletStep_tables (walletId : Nat)
    (call : UpdateCall JsonValue (MigrationAmbient Random) (List String))
    (input : UpdateInput Random) :
    (updateWalletStep codec tables walletId call input).2 = tables ∨
      (∃ random, writtenRandom call.phase
        (updateWalletStep codec tables walletId call input).1.phase = some random) ∧
        (updateWalletStep codec tables walletId call input).1.phase = .returned := by
  rcases step_database_or_returned (attemptCodec codec) (tables.wallet walletId) call
    (tables.inputOn walletId input) with
    hsame | ⟨⟨attempt, current, ambient, nextPayload, hphase⟩, hreturned⟩
  · left
    simp only [updateWalletStep, hsame]
    exact setWallet_self
  · right
    refine ⟨⟨ambient.random, ?_⟩, hreturned⟩
    simp only [updateWalletStep, hreturned, hphase, writtenRandom]

variable (codec registry tables) in
theorem runnerStep_tables (attempt : Nat) (phase : RunnerPhase Random)
    (input : RunnerInput Random) :
    tables.SameWallets (runnerStep codec registry tables attempt phase input).tables ∨
      (∃ event, (runnerStep codec registry tables attempt phase input).event = some event) ∧
        ∃ chain rest, (runnerStep codec registry tables attempt phase input).task =
          .runner attempt (.checking chain rest) := by
  have hsame : tables.SameWallets tables := .refl tables
  cases phase with
  | device =>
    cases input with
    | device classified => exact Or.inl ⟨rfl, rfl⟩
    | list | check | update | fail => exact Or.inl hsame
  | listing chain => cases input <;> exact Or.inl hsame
  | checking chain rest =>
    left
    cases rest with
    | nil => cases input <;> exact hsame
    | cons walletId rest =>
      cases input with
      | check =>
        simp only [runnerStep]
        split
        · exact hsame
        · exact hsame
      | device | list | update | fail => exact hsame
  | updating chain walletId rest phase =>
    cases input with
    | update input =>
      simp only [runnerStep]
      rcases updateWalletStep_tables codec tables walletId
        (migrationCall registry chain phase) input with
        hunchanged | ⟨⟨random, hbytes⟩, hreturned⟩
      · left
        rw [hunchanged]
        exact hsame
      · right
        refine ⟨⟨.migrate walletId chain random, ?_⟩, chain, rest, ?_⟩
        · have hwritten : writtenRandom phase (updateWalletStep codec tables walletId
              (migrationCall registry chain phase) input).1.phase = some random := hbytes
          rw [hwritten]
          rfl
        · rw [hreturned]
          rfl
    | device | list | check | fail => exact Or.inl hsame
  | returned | threw => exact Or.inl hsame

variable (codec tables) in
theorem ordinaryStep_tables (walletId maxRetries : Nat)
    (transform : Random → JsonValue → Except String JsonValue)
    (phase : UpdatePhase (MigrationAmbient Random)) (input : UpdateInput Random) :
    tables.SameWallets
        (ordinaryStep codec tables walletId transform maxRetries phase input).tables ∨
      ∃ event, (ordinaryStep codec tables walletId transform maxRetries phase input).event =
        some event := by
  simp only [ordinaryStep]
  rcases updateWalletStep_tables codec tables walletId
    { update := ordinaryUpdate transform, maxRetries := maxRetries, phase := phase } input with
    hunchanged | ⟨⟨random, hbytes⟩, -⟩
  · left
    rw [hunchanged]
    exact .refl tables
  · right
    dsimp only at hbytes
    rw [hbytes]
    exact ⟨_, rfl⟩

variable (registry tables) in
theorem creationStep_tables (payload mnemonic : EncryptedWalletSecretsBlob)
    (phase : CreationPhase) (input : CreationInput) :
    tables.SameWallets (creationStep registry tables payload mnemonic phase input :
        MigrationResult Random).tables ∨
      ∃ event, (creationStep registry tables payload mnemonic phase input :
        MigrationResult Random).event = some event := by
  cases phase with
  | inserting => cases input <;> exact Or.inl ⟨rfl, rfl⟩
  | storing walletId =>
    cases input with
    | store =>
      simp only [creationStep]
      split
      · exact Or.inl (.refl tables)
      · exact Or.inr ⟨_, rfl⟩
    | insert | fail => exact Or.inl (.refl tables)
  | returned | threw => cases input <;> exact Or.inl (.refl tables)

variable (codec registry tables) in
theorem migrationTaskStep_tables (task : MigrationTask Random) (input : MigrationInput Random) :
    tables.SameWallets (migrationTaskStep codec registry tables task input).tables ∨
      ∃ event, (migrationTaskStep codec registry tables task input).event = some event := by
  cases task with
  | update walletId transform maxRetries phase =>
    cases input with
    | update input =>
      exact ordinaryStep_tables codec tables walletId maxRetries transform phase input
    | runner | creation => exact Or.inl (.refl tables)
  | runner attempt phase =>
    cases input with
    | runner input =>
      exact (runnerStep_tables codec registry tables attempt phase input).imp_right And.left
    | update | creation => exact Or.inl (.refl tables)
  | creation payload mnemonic phase =>
    cases input with
    | creation input => exact creationStep_tables registry tables payload mnemonic phase input
    | update | runner => exact Or.inl (.refl tables)

variable [DecidableEq Id]

/-- Wallets change only in a step that is recorded. -/
theorem sameWallets_of_log_eq (op : MigrationOp Id Random)
    (hlog : (migrationStep codec registry system op).log = system.log) :
    system.tables.SameWallets (migrationStep codec registry system op).tables := by
  cases op with
  | call id request =>
    simp only [migrationStep]
    split
    · exact .refl _
    · exact .refl _
  | crash id => exact .refl _
  | step id input =>
    cases htask : system.tasks id with
    | none =>
      simp only [migrationStep, htask]
      exact .refl _
    | some task =>
      simp only [migrationStep, htask] at hlog ⊢
      rcases migrationTaskStep_tables codec registry system.tables task input with
        hsame | ⟨event, hevent⟩
      · exact hsame
      · rw [hevent, Option.toList_some, List.append_right_eq_self] at hlog
        cases hlog

omit [DecidableEq Id] in
theorem retryRunner_ne_checking (attempt other : Nat) (message : String)
    (chain : HistoricalSignetOnchainChain) (rest : List Nat) :
    (retryRunner attempt message : MigrationTask Random) ≠
      .runner other (.checking chain rest) := by
  unfold retryRunner
  split
  · intro h
    cases h
  · intro h
    cases h

theorem sameWallets_of_retry {attempt : Nat} {phase : RunnerPhase Random}
    (htask : system.tasks id = some (.runner attempt phase)) {input : MigrationInput Random}
    {message : String}
    (hretry : (migrationStep codec registry system (.step id input)).tasks id =
      some (retryRunner attempt message)) :
    system.tables.SameWallets (migrationStep codec registry system (.step id input)).tables := by
  simp only [migrationStep, htask, Function.update_self] at hretry ⊢
  cases input with
  | runner input =>
    rcases runnerStep_tables codec registry system.tables attempt phase input with
      hsame | ⟨-, chain, rest, hnext⟩
    · exact hsame
    · have hchecking : (runnerStep codec registry system.tables attempt phase input).task =
          retryRunner attempt message := Option.some.inj hretry
      rw [hnext] at hchecking
      exact absurd hchecking.symm (retryRunner_ne_checking attempt attempt message chain rest)
  | update | creation => exact .refl _

end Failures

section AppliedOnce

variable {Id Random : Type}

/-- What the schema keeps: ids are below the next one, and a wallet has no marker twice. -/
structure WalletTables.Schema (tables : WalletTables) : Prop where
  fresh : ∀ walletId ∈ tables.walletIds, walletId < tables.nextWalletId
  once : ∀ walletId ∈ tables.walletIds, (tables.wallet walletId).alongside.Nodup

/-- Of a wallet that is stored: its payload is what the writes amount to; what was applied was
pending at the start, was applied once, and it and only it got a marker. A wallet that is new
has had all markers from the start and nothing was applied to it. -/
structure WalletContents.AppliedOnce (registry : List WalletDataMigration)
    (start tables : WalletTables) (walletId : Nat) (contents : WalletContents) : Prop where
  payload : rowToPayloadBlob (tables.wallet walletId).row = contents.payload
  once : ∀ name, contents.applied.count name ≤ 1
  pending : walletId ∈ start.walletIds → ∀ name ∈ contents.applied,
    name ∈ registryNames registry ∧ name ∉ (start.wallet walletId).alongside
  recorded : walletId ∈ start.walletIds → ∀ name,
    name ∈ (tables.wallet walletId).alongside ↔
      name ∈ (start.wallet walletId).alongside ∨ name ∈ contents.applied
  new : walletId ∉ start.walletIds →
    (tables.wallet walletId).alongside = registryNames registry ∧ contents.applied = []

variable {codec : PayloadCodec JsonValue Random} {registry : List WalletDataMigration}
  {start tables : WalletTables} {contents : WalletContents} {walletId : Nat}

theorem WalletContents.Marked.appliedOnce (h : contents.Marked registry start walletId)
    (hpayload : contents.payload = rowToPayloadBlob (tables.wallet walletId).row)
    (hmarkers : contents.markers = (tables.wallet walletId).alongside) :
    contents.AppliedOnce registry start tables walletId := by
  have honce := h.once
  rw [h.markers, List.nodup_append] at honce
  obtain ⟨-, happlied, hdisjoint⟩ := honce
  constructor
  · exact hpayload.symm
  · intro name
    exact List.nodup_iff_count_le_one.mp happlied name
  · intro hmem name hname
    refine ⟨h.known name hname, ?_⟩
    intro hmarker
    rw [h.initial, if_pos hmem] at hdisjoint
    exact hdisjoint name hmarker name hname rfl
  · intro hmem name
    rw [← hmarkers, h.markers, h.initial, if_pos hmem, List.mem_append]
  · intro hnew
    have hnone := h.applied_eq_nil hnew
    refine ⟨?_, hnone⟩
    rw [← hmarkers, h.markers, h.initial, if_neg hnew, hnone, List.append_nil]

theorem WalletContents.AppliedOnce.count_eq_one
    (h : contents.AppliedOnce registry start tables walletId) (hmem : walletId ∈ start.walletIds)
    (hcomplete : tables.Complete registry walletId) {migration : WalletDataMigration}
    (hmigration : migration ∈ registry)
    (hpending : migration.name ∉ (start.wallet walletId).alongside) :
    contents.applied.count migration.name = 1 := by
  have happlied := ((h.recorded hmem migration.name).mp
    (hcomplete migration hmigration)).resolve_left hpending
  exact Nat.le_antisymm (h.once migration.name) (List.count_pos_iff.mpr happlied)

variable [DecidableEq Id]

omit [DecidableEq Id] in
theorem migrationInv_initial (hstart : start.Schema) :
    MigrationInv codec registry start
      (initialMigrationSystem start : MigrationSystem Id Random) where
  hold := by
    refine ⟨startContents start, rfl, ?_, ?_⟩
    · intro walletId hnot
      exact if_neg hnot
    · intro walletId hmem
      refine ⟨_, if_pos hmem, rfl, rfl, ?_⟩
      exact
        { once := hstart.once walletId hmem
          markers := (List.append_nil _).symm
          known := List.forall_mem_nil _
          initial := (if_pos hmem).symm }
  fresh := hstart.fresh
  kept := by
    intro walletId hmem
    exact hmem
  storing := by
    intro id task walletId htask
    cases htask
  sound := by
    intro id task htask
    cases htask

end AppliedOnce

def unsplitPayload : JsonValue := .object [("arkadeAccounts", .array [])]

def splitPayload : JsonValue :=
  .object [("arkadeAccounts", .array []), ("activeArkadeAccountIdByNetwork", .object [])]

def splitCodec : PayloadCodec JsonValue Unit where
  encryptData := textCodec.encryptData
  decryptData := textCodec.decryptData
  stringify := fun payload =>
    if (payload.get? "activeArkadeAccountIdByNetwork").isSome then
      "\x7b\"arkadeAccounts\":[],\"activeArkadeAccountIdByNetwork\":\x7b\x7d\x7d"
    else "\x7b\"arkadeAccounts\":[]\x7d"
  parseWalletPayloadJson := fun text =>
    if text = "\x7b\"arkadeAccounts\":[]\x7d" then .ok unsplitPayload
    else if text = "\x7b\"arkadeAccounts\":[],\"activeArkadeAccountIdByNetwork\":\x7b\x7d\x7d" then
      .ok splitPayload
    else .error "Invalid wallet payload"

def unsplitTables : WalletTables where
  nextWalletId := 2
  walletIds := [1]
  wallet := fun _ =>
    { row :=
        { revision := 0
          encryptedData := (splitCodec.stringify unsplitPayload).toUTF8.data.toList
          iv := [1], salt := [2], kdfPhc := "v=19",
          mnemonicEncryptedData := [3], mnemonicIv := [4], mnemonicSalt := [5],
          mnemonicKdfPhc := "v=19" }
      alongside := [] }
  deviceResult := none

theorem unsplitTables_schema : unsplitTables.Schema where
  fresh := by decide
  once := by
    intro walletId _
    exact List.nodup_nil

def conflictingRunners : List (MigrationOp Bool Unit) :=
  [.call false .migrate, .call true .migrate,
    .step false (.runner (.device .publicSignet)), .step true (.runner (.device .mutinynet)),
    .step false (.runner .list), .step true (.runner .list),
    .step false (.runner .check), .step true (.runner .check),
    .step false (.runner (.update .read)), .step true (.runner (.update .read)),
    .step false (.runner (.update (.transform ()))), .step true (.runner (.update (.transform ()))),
    .step false (.runner (.update .put)), .step true (.runner (.update .put)),
    .step true (.runner (.update .read)), .step true (.runner (.update (.transform ()))),
    .step true (.runner (.update .put)), .step true (.runner .check)]

end Bitboard.Frontend
