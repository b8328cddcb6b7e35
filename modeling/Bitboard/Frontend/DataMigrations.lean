/-
# Migrations of the wallet payloads

At every unlock a runner goes through all wallets. For a wallet that lacks markers it
updates the payload: the transform reads the markers again, applies the migrations that are
still pending, and the markers of these are inserted in the transaction of the write. New
wallets get all markers in the transaction that stores their secrets. Runners of any number
of tabs, ordinary updates and creations of wallets interleave here in any order; the writer
lock around the updates allows fewer orders. A call that crashes takes no further step.
-/

import Bitboard.Frontend.PayloadUpdateRuns
import Bitboard.Wallet.SignetNetworkSplit

namespace Bitboard.Frontend

open Bitboard.Lib Bitboard.Wallet

/-- A migration of a decrypted payload; none where it throws. -/
structure WalletDataMigration where
  name : String
  migrate : JsonValue → HistoricalSignetOnchainChain → Option JsonValue

def signetNetworkSplitDataMigrationName : String := "signet-network-split"

def walletDataMigrations : List WalletDataMigration :=
  [{ name := signetNetworkSplitDataMigrationName
     migrate := applySignetNetworkSplitToPayload }]

/-- `listPendingWalletDataMigrations`, from the names that have a marker. -/
def pendingMigrations (registry : List WalletDataMigration) (applied : List String) :
    List WalletDataMigration :=
  registry.filter fun migration => migration.name ∉ applied

def applyWalletDataMigrations (payload : JsonValue) (migrations : List WalletDataMigration)
    (chain : HistoricalSignetOnchainChain) : Except String JsonValue :=
  migrations.foldlM (fun migrated migration =>
    match migration.migrate migrated chain with
    | some next => .ok next
    | none => .error ("Migration \"" ++ migration.name ++ "\" failed")) payload

/-- `recordWalletDataMigrationsApplied`: no two markers of a wallet have the same name. -/
def recordWalletDataMigrationsApplied (markers names : List String) : Except String (List String) :=
  if (markers ++ names).Nodup then .ok (markers ++ names)
  else .error "UNIQUE constraint failed: wallet_data_migrations.wallet_id, migration_name"

section Updates

variable {Random : Type}

/-- What an attempt depends on: the random bytes, and the markers that the transform reads. -/
structure MigrationAmbient (Random : Type) where
  random : Random
  applied : List String

def attemptCodec (codec : PayloadCodec JsonValue Random) :
    PayloadCodec JsonValue (MigrationAmbient Random) where
  encryptData := fun ambient => codec.encryptData ambient.random
  decryptData := codec.decryptData
  stringify := codec.stringify
  parseWalletPayloadJson := codec.parseWalletPayloadJson

/-- The update of a runner. The names it records are those of its last transform. -/
def migrationUpdate (registry : List WalletDataMigration) (chain : HistoricalSignetOnchainChain) :
    PayloadUpdate JsonValue (MigrationAmbient Random) (List String) :=
  .payload
    (fun ambient payload =>
      applyWalletDataMigrations payload (pendingMigrations registry ambient.applied) chain)
    (some fun ambient markers => recordWalletDataMigrationsApplied markers
      ((pendingMigrations registry ambient.applied).map WalletDataMigration.name))

/-- An update that has nothing to do with migrations. -/
def ordinaryUpdate (transform : Random → JsonValue → Except String JsonValue) :
    PayloadUpdate JsonValue (MigrationAmbient Random) (List String) :=
  .payload (fun ambient => transform ambient.random) none

/-- The wallets with secrets in the order of their ids, the row and the markers of each, the
next id of the `wallets` table, and the result of the device migration. Ids are not used
twice, so a new wallet has no markers. -/
structure WalletTables where
  nextWalletId : Nat
  walletIds : List Nat
  wallet : Nat → SecretsDatabase (List String)
  deviceResult : Option (Option String)

inductive RunnerPhase (Random : Type)
  | device
  | listing (chain : HistoricalSignetOnchainChain)
  | checking (chain : HistoricalSignetOnchainChain) (walletIds : List Nat)
  | updating (chain : HistoricalSignetOnchainChain) (walletId : Nat) (walletIds : List Nat)
      (phase : UpdatePhase (MigrationAmbient Random))
  | returned
  | threw (message : String)

inductive CreationPhase
  | inserting
  | storing (walletId : Nat)
  | returned (walletId : Nat)
  | threw (message : String)

/-- An ordinary update, a run of `runPendingWalletDataMigrations` in one of its attempts, or a
`persistNewWalletWithSecrets`. -/
inductive MigrationTask (Random : Type)
  | update (walletId : Nat) (transform : Random → JsonValue → Except String JsonValue)
      (maxRetries : Nat) (phase : UpdatePhase (MigrationAmbient Random))
  | runner (attempt : Nat) (phase : RunnerPhase Random)
  | creation (payload mnemonic : EncryptedWalletSecretsBlob) (phase : CreationPhase)

inductive MigrationRequest (Random : Type)
  | update (walletId : Nat) (transform : Random → JsonValue → Except String JsonValue)
      (maxRetries : Option Nat)
  | migrate
  | create (payload mnemonic : EncryptedWalletSecretsBlob)

def MigrationRequest.start : MigrationRequest Random → MigrationTask Random
  | .update walletId transform maxRetries =>
    let call := startCall (ordinaryUpdate transform) maxRetries
    .update walletId transform call.maxRetries call.phase
  | .migrate => .runner 1 .device
  | .create payload mnemonic => .creation payload mnemonic .inserting

inductive RunnerInput (Random : Type)
  | device (classified : HistoricalSignetOnchainChain)
  | list
  | check
  | update (input : UpdateInput Random)
  | fail (message : String)

inductive CreationInput
  | insert
  | store
  | fail (message : String)

inductive MigrationInput (Random : Type)
  | update (input : UpdateInput Random)
  | runner (input : RunnerInput Random)
  | creation (input : CreationInput)

/-- A write to the wallets, for the record of the writes. -/
inductive MigrationEvent (Random : Type)
  | create (walletId : Nat) (payload : EncryptedWalletSecretsBlob)
  | update (walletId : Nat) (transform : Random → JsonValue → Except String JsonValue)
      (random : Random)
  | migrate (walletId : Nat) (chain : HistoricalSignetOnchainChain) (random : Random)

/-- What a step leaves: the call, the tables, and what it has written. -/
structure MigrationResult (Random : Type) where
  task : MigrationTask Random
  tables : WalletTables
  event : Option (MigrationEvent Random)

/-- What an attempt does next on the row of a wallet; the transform sees its markers. -/
def WalletTables.inputOn (tables : WalletTables) (walletId : Nat) :
    UpdateInput Random → UpdateInput (MigrationAmbient Random)
  | .read =>
    if walletId ∈ tables.walletIds then .read
    else .fail s!"Wallet secrets for wallet {walletId} not found"
  | .transform random =>
    .transform { random := random, applied := (tables.wallet walletId).alongside }
  | .put => .put
  | .fail message => .fail message

def WalletTables.setWallet (tables : WalletTables) (walletId : Nat)
    (database : SecretsDatabase (List String)) : WalletTables :=
  { tables with wallet := Function.update tables.wallet walletId database }

/-- The random bytes of a write that has taken place. -/
def writtenRandom :
    UpdatePhase (MigrationAmbient Random) → UpdatePhase (MigrationAmbient Random) → Option Random
  | .putting _ _ ambient _, .returned => some ambient.random
  | _, _ => none

def schemaMigrationRetryMaxAttempts : Nat := 3

/-- `withRetries`: after an error the runner starts over, for a bounded number of attempts. -/
def retryRunner (attempt : Nat) (message : String) : MigrationTask Random :=
  if attempt < schemaMigrationRetryMaxAttempts then .runner (attempt + 1) .device
  else .runner attempt (.threw message)

def newWalletSecretsRow (payload mnemonic : EncryptedWalletSecretsBlob) : WalletSecretsRow where
  revision := 0
  encryptedData := payload.ciphertext
  iv := payload.iv
  salt := payload.salt
  kdfPhc := payload.kdfPhc
  mnemonicEncryptedData := mnemonic.ciphertext
  mnemonicIv := mnemonic.iv
  mnemonicSalt := mnemonic.salt
  mnemonicKdfPhc := mnemonic.kdfPhc

variable (codec : PayloadCodec JsonValue Random) (registry : List WalletDataMigration)

def updateWalletStep (tables : WalletTables) (walletId : Nat)
    (call : UpdateCall JsonValue (MigrationAmbient Random) (List String))
    (input : UpdateInput Random) :
    UpdateCall JsonValue (MigrationAmbient Random) (List String) × WalletTables :=
  let result := call.step (attemptCodec codec) (tables.wallet walletId)
    (tables.inputOn walletId input)
  (result.1, tables.setWallet walletId result.2)

def ordinaryStep (tables : WalletTables) (walletId : Nat)
    (transform : Random → JsonValue → Except String JsonValue) (maxRetries : Nat)
    (phase : UpdatePhase (MigrationAmbient Random)) (input : UpdateInput Random) :
    MigrationResult Random :=
  let result := updateWalletStep codec tables walletId
    { update := ordinaryUpdate transform, maxRetries := maxRetries, phase := phase } input
  { task := .update walletId transform maxRetries result.1.phase
    tables := result.2
    event := (writtenRandom phase result.1.phase).map (.update walletId transform) }

/-- The call of a runner to `updateWalletSecretsPayloadWithRetry`. -/
def migrationCall (chain : HistoricalSignetOnchainChain)
    (phase : UpdatePhase (MigrationAmbient Random)) :
    UpdateCall JsonValue (MigrationAmbient Random) (List String) where
  update := migrationUpdate registry chain
  maxRetries := walletSecretsCasMaxRetries
  phase := phase

/-- Where a runner goes after a step of its update: to the next wallet once it has returned, and
to its next attempt once it has thrown. -/
def afterUpdate (attempt : Nat) (chain : HistoricalSignetOnchainChain) (walletId : Nat)
    (walletIds : List Nat) : UpdatePhase (MigrationAmbient Random) → MigrationTask Random
  | .returned => .runner attempt (.checking chain walletIds)
  | .threw message => retryRunner attempt message
  | phase => .runner attempt (.updating chain walletId walletIds phase)

def runnerStep (tables : WalletTables) (attempt : Nat) (phase : RunnerPhase Random)
    (input : RunnerInput Random) : MigrationResult Random :=
  let goTo (task : MigrationTask Random) : MigrationResult Random :=
    { task := task, tables := tables, event := none }
  match phase, input with
  | .device, .device classified =>
    let result := tables.deviceResult.getD (some classified.toString)
    { task :=
        match parseHistoricalSignetOnchainChain result with
        | some chain => .runner attempt (.listing chain)
        | none =>
          retryRunner attempt "Signet network split device migration has no valid result"
      tables := { tables with deviceResult := some result }
      event := none }
  | .listing chain, .list => goTo (.runner attempt (.checking chain tables.walletIds))
  | .checking _ [], .check => goTo (.runner attempt .returned)
  | .checking chain (walletId :: walletIds), .check =>
    if pendingMigrations registry (tables.wallet walletId).alongside = [] then
      goTo (.runner attempt (.checking chain walletIds))
    else
      goTo (.runner attempt (.updating chain walletId walletIds
        (startCall (migrationUpdate registry chain) none).phase))
  | .updating chain walletId walletIds phase, .update input =>
    let result := updateWalletStep codec tables walletId (migrationCall registry chain phase)
      input
    { task := afterUpdate attempt chain walletId walletIds result.1.phase
      tables := result.2
      event := (writtenRandom phase result.1.phase).map (.migrate walletId chain) }
  | .returned, _ | .threw _, _ => goTo (.runner attempt phase)
  | _, .fail message => goTo (retryRunner attempt message)
  | _, _ => goTo (.runner attempt phase)

/-- One step of a creation: the row of the wallet, then its secrets and all markers in one
transaction; an error takes the row back. -/
def creationStep (tables : WalletTables) (payload mnemonic : EncryptedWalletSecretsBlob)
    (phase : CreationPhase) (input : CreationInput) : MigrationResult Random :=
  let goTo (next : CreationPhase) : MigrationResult Random :=
    { task := .creation payload mnemonic next, tables := tables, event := none }
  match phase, input with
  | .inserting, .insert =>
    { task := .creation payload mnemonic (.storing tables.nextWalletId)
      tables := { tables with nextWalletId := tables.nextWalletId + 1 }
      event := none }
  | .storing walletId, .store =>
    match recordWalletDataMigrationsApplied [] (registry.map WalletDataMigration.name) with
    | .error message => goTo (.threw message)
    | .ok markers =>
      { task := .creation payload mnemonic (.returned walletId)
        tables :=
          { tables with
            walletIds := tables.walletIds ++ [walletId]
            wallet := Function.update tables.wallet walletId
              { row := newWalletSecretsRow payload mnemonic, alongside := markers } }
        event := some (.create walletId payload) }
  | .inserting, .fail message | .storing _, .fail message => goTo (.threw message)
  | _, _ => goTo phase

/-- One step of a call; an input that is not its own changes nothing. -/
def migrationTaskStep (tables : WalletTables) :
    MigrationTask Random → MigrationInput Random → MigrationResult Random
  | .update walletId transform maxRetries phase, .update input =>
    ordinaryStep codec tables walletId transform maxRetries phase input
  | .runner attempt phase, .runner input => runnerStep codec registry tables attempt phase input
  | .creation payload mnemonic phase, .creation input =>
    creationStep registry tables payload mnemonic phase input
  | task, _ => { task := task, tables := tables, event := none }

end Updates

section Tabs

variable {Id Random : Type}

/-- The tables, the calls that go on or have ended, and the record of the writes. -/
structure MigrationSystem (Id Random : Type) where
  tables : WalletTables
  tasks : Id → Option (MigrationTask Random)
  log : List (MigrationEvent Random)

def initialMigrationSystem (tables : WalletTables) : MigrationSystem Id Random where
  tables := tables
  tasks := fun _ => none
  log := []

inductive MigrationOp (Id Random : Type)
  | call (id : Id) (request : MigrationRequest Random)
  | step (id : Id) (input : MigrationInput Random)
  | crash (id : Id)

/-- A new call, a step of a call, or the end of a tab in the middle of one. -/
def migrationStep [DecidableEq Id] (codec : PayloadCodec JsonValue Random)
    (registry : List WalletDataMigration) (system : MigrationSystem Id Random) :
    MigrationOp Id Random → MigrationSystem Id Random
  | .call id request =>
    match system.tasks id with
    | some _ => system
    | none => { system with tasks := Function.update system.tasks id (some request.start) }
  | .step id input =>
    match system.tasks id with
    | none => system
    | some task =>
      let result := migrationTaskStep codec registry system.tables task input
      { tables := result.tables
        tasks := Function.update system.tasks id (some result.task)
        log := system.log ++ result.event.toList }
  | .crash id => { system with tasks := Function.update system.tasks id none }

end Tabs

end Bitboard.Frontend
