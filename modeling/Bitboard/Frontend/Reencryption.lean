/-
# Changing the password of the wallet secrets

`reencryptAllWalletSecretsWithNewPassword` reads every row of `wallet_secrets` with the old
password, encrypts what it has read with the new one, writes all rows in one transaction,
and moves the secrets session of its tab to the new password. Payload updates of all tabs
go on meanwhile. Both kinds of calls run under the writer lock and, within their tab, one
after the other; but the transaction does not look at the revisions of the rows.

The puts of the transaction ask for the writer lock again. This can delay the transaction
but changes nothing else, so the transaction is one step here.
-/

import Bitboard.Frontend.PayloadUpdateRuns
import Bitboard.Frontend.WriterLock
import Bitboard.Wallet.PayloadJson

namespace Bitboard.Frontend

open Bitboard.Lib Bitboard.Wallet Bitboard.Wallet.PayloadJson

/-- A property with the value that `??` gives it. -/
def nullishDefault (given : Option JsonValue) (fallback : JsonValue) : JsonValue :=
  match given with
  | none => fallback
  | some .null => fallback
  | some value => value

/-- A property that `JSON.stringify` leaves out if it is `undefined`. -/
def propertyIfDefined (name : String) (given : Option JsonValue) : List (String × JsonValue) :=
  match given with
  | none => []
  | some value => [(name, value)]

/-- `walletSecretsPayloadFromSecrets`: the five lists of the payload and nothing else. -/
def walletSecretsPayloadFromSecrets (secrets : JsonValue) : JsonValue :=
  .object (propertyIfDefined "descriptorWallets" (secrets.get? "descriptorWallets") ++
    propertyIfDefined "lightningNwcConnections" (secrets.get? "lightningNwcConnections") ++
    [("arkadeAccounts", nullishDefault (secrets.get? "arkadeAccounts") (.array [])),
      ("activeArkadeAccountIdByNetwork",
        nullishDefault (secrets.get? "activeArkadeAccountIdByNetwork") (.object [])),
      ("barkAccounts", nullishDefault (secrets.get? "barkAccounts") (.array []))])

structure WalletSecrets where
  mnemonic : String
  payload : JsonValue

def assembleWalletSecrets (mnemonic : String) (payload : JsonValue) : WalletSecrets where
  mnemonic := mnemonic
  payload := walletSecretsPayloadFromSecrets payload

section Vault

variable {Ambient Side : Type}

/-- `doEncrypt` and `doDecrypt` of the encryption worker; the random bytes are in the
`Ambient` of an encryption. -/
structure Vault (Ambient : Type) where
  doEncrypt : Ambient → String → String → Except String EncryptedWalletSecretsBlob
  doDecrypt : String → EncryptedWalletSecretsBlob → Except String String

def Vault.Sealed (vault : Vault Ambient) (password plaintext : String)
    (blob : EncryptedWalletSecretsBlob) : Prop :=
  ∃ ambient, vault.doEncrypt ambient password plaintext = .ok blob

/-- A blob is opened by the password it was encrypted with and by no other one. -/
structure Vault.Lawful (vault : Vault Ambient) : Prop where
  opens : ∀ password plaintext blob, vault.Sealed password plaintext blob →
    vault.doDecrypt password blob = .ok plaintext
  rejects : ∀ password plaintext blob other, vault.Sealed password plaintext blob →
    other ≠ password → ∃ message, vault.doDecrypt other blob = .error message

theorem Vault.Lawful.eq_of_doDecrypt {vault : Vault Ambient} (hlawful : vault.Lawful)
    {password plaintext other read : String} {blob : EncryptedWalletSecretsBlob}
    (hsealed : vault.Sealed password plaintext blob)
    (hread : vault.doDecrypt other blob = .ok read) : other = password ∧ read = plaintext := by
  by_cases hother : other = password
  · rw [hother, hlawful.opens _ _ _ hsealed] at hread
    cases hread
    exact ⟨hother, rfl⟩
  · obtain ⟨message, hmessage⟩ := hlawful.rejects _ _ _ _ hsealed hother
    rw [hmessage] at hread
    cases hread

def msgSecretsSessionNotActive : String :=
  "Wallet secrets session is not active — unlock the wallet first"

/-- `encryptData` and `decryptData` under the secrets session of a tab. -/
def sessionCodec (vault : Vault Ambient) (env : Environment)
    (engine : JsonEngine String) (session : Option String) : PayloadCodec JsonValue Ambient where
  encryptData := fun ambient plaintext =>
    match session with
    | none => .error msgSecretsSessionNotActive
    | some password => vault.doEncrypt ambient password plaintext
  decryptData := fun blob =>
    match session with
    | none => .error msgSecretsSessionNotActive
    | some password => vault.doDecrypt password blob
  stringify := engine.stringify
  parseWalletPayloadJson := parseWalletPayloadJson env engine

/-- `loadWalletSecretsWithPassword` on the row it has read. -/
def loadWalletSecretsWithPassword (vault : Vault Ambient) (env : Environment)
    (engine : JsonEngine String) (password : String) (row : WalletSecretsRow) :
    Except String WalletSecrets := do
  let payloadPlaintext ← vault.doDecrypt password (rowToPayloadBlob row)
  let mnemonicPlaintext ← vault.doDecrypt password (rowToMnemonicBlob row)
  let payload ← parseWalletPayloadJson env engine payloadPlaintext
  return assembleWalletSecrets mnemonicPlaintext payload

/-- The text of the payload that a re-encryption writes. -/
def WalletSecrets.payloadText (secrets : WalletSecrets) (engine : JsonEngine String) : String :=
  engine.stringify (walletSecretsPayloadFromSecrets secrets.payload)

structure SplitWalletSecretsEncryptedBlobs where
  payload : EncryptedWalletSecretsBlob
  mnemonic : EncryptedWalletSecretsBlob

def encryptWalletSecrets (vault : Vault Ambient) (engine : JsonEngine String)
    (newPassword : String) (ambient : Ambient × Ambient) (secrets : WalletSecrets) :
    Except String SplitWalletSecretsEncryptedBlobs := do
  let payload ← vault.doEncrypt ambient.1 newPassword (secrets.payloadText engine)
  let mnemonic ← vault.doEncrypt ambient.2 newPassword secrets.mnemonic
  return { payload := payload, mnemonic := mnemonic }

/-- The rows of `wallet_secrets` by wallet id, and the rows that updates write alongside.
Only the rows of the listed ids are there. -/
structure SecretsTable (Side : Type) where
  walletIds : List Nat
  nodup : walletIds.Nodup
  row : Nat → WalletSecretsRow
  alongside : Side

variable (table : SecretsTable Side)

namespace SecretsTable

def database (walletId : Nat) : SecretsDatabase Side where
  row := table.row walletId
  alongside := table.alongside

def setDatabase (walletId : Nat) (database : SecretsDatabase Side) : SecretsTable Side :=
  { table with
    row := Function.update table.row walletId database.row
    alongside := database.alongside }

/-- `putSplitWalletSecretsEncrypted` with both blobs, on a row that exists. -/
def putSplitWalletSecretsEncrypted (walletId : Nat) (blobs : SplitWalletSecretsEncryptedBlobs) :
    SecretsTable Side :=
  { table with
    row := Function.update table.row walletId
      (((table.row walletId).withPayload blobs.payload).withMnemonic blobs.mnemonic) }

def writeAll (blobs : List (Nat × SplitWalletSecretsEncryptedBlobs)) : SecretsTable Side :=
  blobs.foldl (fun table entry => table.putSplitWalletSecretsEncrypted entry.1 entry.2) table

end SecretsTable

/-- An update that decrypts the payload under the session, in the tab or in a worker, with
what it may write alongside. -/
structure SecretsUpdate (Ambient Side : Type) where
  transform : Ambient → JsonValue → Except String JsonValue
  writeAlongsideInTransaction : Option (Ambient → Side → Except String Side)

variable (update : SecretsUpdate Ambient Side)

def SecretsUpdate.toPayloadUpdate : PayloadUpdate JsonValue Ambient Side :=
  .payload update.transform update.writeAlongsideInTransaction

def SecretsUpdate.call (maxRetries : Nat) (phase : UpdatePhase Ambient) :
    UpdateCall JsonValue Ambient Side where
  update := update.toPayloadUpdate
  maxRetries := maxRetries
  phase := phase

/-- Where a re-encryption stands. It throws before its transaction or, if the session cannot
be moved, after it. -/
inductive ReencryptPhase
  | listing
  | loading (walletIds : List Nat) (decrypted : List (Nat × WalletSecrets))
  | encrypting (decrypted : List (Nat × WalletSecrets))
  | writing (decrypted : List (Nat × WalletSecrets))
      (blobs : List (Nat × SplitWalletSecretsEncryptedBlobs))
  | replacingSession
  | returned
  | threwBeforeWrite (message : String)
  | threwAfterWrite (message : String)

inductive SecretsTask (Ambient Side : Type)
  | update (walletId : Nat) (update : SecretsUpdate Ambient Side) (maxRetries : Nat)
      (phase : UpdatePhase Ambient)
  | reencrypt (oldPassword newPassword : String) (phase : ReencryptPhase)

def SecretsTask.settled : SecretsTask Ambient Side → Bool
  | .update _ _ _ .returned => true
  | .update _ _ _ (.threw _) => true
  | .reencrypt _ _ .returned => true
  | .reencrypt _ _ (.threwBeforeWrite _) => true
  | .reencrypt _ _ (.threwAfterWrite _) => true
  | _ => false

def SecretsTask.committed : SecretsTask Ambient Side → Bool
  | .update _ _ _ .returned => true
  | .reencrypt _ _ .replacingSession => true
  | .reencrypt _ _ .returned => true
  | .reencrypt _ _ (.threwAfterWrite _) => true
  | _ => false

inductive SecretsRequest (Ambient Side : Type)
  | update (walletId : Nat) (update : SecretsUpdate Ambient Side) (maxRetries : Option Nat)
  | reencrypt (oldPassword newPassword : String)

def SecretsRequest.start : SecretsRequest Ambient Side → SecretsTask Ambient Side
  | .update walletId request maxRetries =>
    let call := startCall request.toPayloadUpdate maxRetries
    .update walletId request call.maxRetries call.phase
  | .reencrypt oldPassword newPassword => .reencrypt oldPassword newPassword .listing

inductive ReencryptInput (Ambient : Type)
  | list
  | load
  | encrypt (ambient : Nat → Ambient × Ambient)
  | write
  | replaceSession
  | fail (message : String)

inductive SecretsInput (Ambient : Type)
  | update (input : UpdateInput Ambient)
  | reencrypt (input : ReencryptInput Ambient)

/-- What a call has written, for the record of the writes. -/
inductive SecretsEffect (Ambient Side : Type)
  | update (walletId : Nat) (update : SecretsUpdate Ambient Side) (ambient : Ambient)
  | reencrypt (newPassword : String)

/-- What a step of a body leaves: the body, the table, the session of its tab, and what it
has written. -/
structure TaskResult (Ambient Side : Type) where
  task : SecretsTask Ambient Side
  table : SecretsTable Side
  session : Option String
  written : Option (SecretsEffect Ambient Side)

def walletSecretsNotFound (walletId : Nat) : String :=
  s!"Wallet secrets for wallet {walletId} not found"

def SecretsTable.inputOn (walletId : Nat) : UpdateInput Ambient → UpdateInput Ambient
  | .read => if walletId ∈ table.walletIds then .read else .fail (walletSecretsNotFound walletId)
  | input => input

/-- The write of an update, which takes place as the update returns. -/
def updateWritten (walletId : Nat) (update : SecretsUpdate Ambient Side) :
    UpdatePhase Ambient → UpdatePhase Ambient → Option (SecretsEffect Ambient Side)
  | .putting _ _ ambient _, .returned => some (.update walletId update ambient)
  | _, _ => none

variable (vault : Vault Ambient) (env : Environment) (engine : JsonEngine String)

def updateTaskStep (table : SecretsTable Side) (session : Option String) (walletId : Nat)
    (update : SecretsUpdate Ambient Side) (maxRetries : Nat) (phase : UpdatePhase Ambient)
    (input : UpdateInput Ambient) : TaskResult Ambient Side :=
  let result := (update.call maxRetries phase).step
    (sessionCodec vault env engine session) (table.database walletId)
    (table.inputOn walletId input)
  { task := .update walletId update maxRetries result.1.phase
    table := table.setDatabase walletId result.2
    session := session
    written := updateWritten walletId update phase result.1.phase }

def reencryptTaskStep (table : SecretsTable Side) (session : Option String)
    (oldPassword newPassword : String) (phase : ReencryptPhase)
    (input : ReencryptInput Ambient) : TaskResult Ambient Side :=
  let stay (next : ReencryptPhase) : TaskResult Ambient Side :=
    { task := .reencrypt oldPassword newPassword next
      table := table
      session := session
      written := none }
  match phase, input with
  | .listing, .list =>
    if table.walletIds.isEmpty then stay (.threwBeforeWrite "No wallet secrets to re-encrypt")
    else stay (.loading table.walletIds [])
  | .loading [] decrypted, .load => stay (.encrypting decrypted)
  | .loading (walletId :: walletIds) decrypted, .load =>
    match loadWalletSecretsWithPassword vault env engine oldPassword
        (table.row walletId) with
    | .ok secrets => stay (.loading walletIds (decrypted ++ [(walletId, secrets)]))
    | .error message => stay (.threwBeforeWrite message)
  | .encrypting decrypted, .encrypt ambient =>
    match decrypted.mapM fun entry =>
        (encryptWalletSecrets vault engine newPassword (ambient entry.1) entry.2).map
          fun blobs => (entry.1, blobs) with
    | .ok blobs => stay (.writing decrypted blobs)
    | .error message => stay (.threwBeforeWrite message)
  | .writing _ blobs, .write =>
    { task := .reencrypt oldPassword newPassword .replacingSession
      table := table.writeAll blobs
      session := session
      written := some (.reencrypt newPassword) }
  | .replacingSession, .replaceSession =>
    { task := .reencrypt oldPassword newPassword .returned
      table := table
      session := some newPassword
      written := none }
  | .replacingSession, .fail message => stay (.threwAfterWrite message)
  | .returned, .fail _ | .threwBeforeWrite _, .fail _ | .threwAfterWrite _, .fail _ => stay phase
  | _, .fail message => stay (.threwBeforeWrite message)
  | _, _ => stay phase

/-- One step of a body; an input that is not its own changes nothing. -/
def secretsTaskStep (table : SecretsTable Side) (session : Option String) :
    SecretsTask Ambient Side → SecretsInput Ambient → TaskResult Ambient Side
  | .update walletId update maxRetries phase, .update input =>
    updateTaskStep vault env engine table session walletId update maxRetries phase input
  | .reencrypt oldPassword newPassword phase, .reencrypt input =>
    reencryptTaskStep vault env engine table session oldPassword newPassword phase input
  | task, _ => { task := task, table := table, session := session, written := none }

end Vault

section Tabs

variable {Tab Id Ambient Side : Type}

structure SecretsCall (Tab Ambient Side : Type) where
  tab : Tab
  task : SecretsTask Ambient Side

structure SecretsCommit (Id Ambient Side : Type) where
  id : Id
  effect : SecretsEffect Ambient Side

/-- The lock, the secrets session of each tab, the table, the calls made so far, and the
record of the writes in their order. -/
structure SecretsSystem (Tab Id Ambient Side : Type) where
  lock : WriterSystem Tab Id
  sessions : Tab → Option String
  table : SecretsTable Side
  calls : Id → Option (SecretsCall Tab Ambient Side)
  log : List (SecretsCommit Id Ambient Side)

def initialSecretsSystem (sessions : Tab → Option String) (table : SecretsTable Side) :
    SecretsSystem Tab Id Ambient Side where
  lock := initialWriterSystem
  sessions := sessions
  table := table
  calls := fun _ => none
  log := []

/-- What can happen next: a call, the steps of the lock, a step of a body, and a tab that is
locked or unlocked. A session does not change between the decryption and the encryption of
one attempt. -/
inductive SecretsOp (Tab Id Ambient Side : Type)
  | call (tab : Tab) (id : Id) (request : SecretsRequest Ambient Side)
  | takeTurn (tab : Tab)
  | grant (tab : Tab) (id : Id)
  | settle (work : WriterWork Tab Id)
  | release
  | step (id : Id) (input : SecretsInput Ambient)
  | beginSession (tab : Tab) (password : String)
  | endSession (tab : Tab)

variable [DecidableEq Tab] [DecidableEq Id]
variable (system : SecretsSystem Tab Id Ambient Side)

namespace SecretsSystem

def isSettled (id : Id) : Bool :=
  match system.calls id with
  | none => false
  | some call => call.task.settled

/-- `runWalletSecretsCriticalSection`: of the works that have started in a tab, the first one
that has not settled. -/
def currentTask (tab : Tab) : Option Id :=
  (system.lock.running.find? fun work =>
    decide (work.tab = tab) && !system.isSettled work.call).map WriterWork.call

def stepTask (vault : Vault Ambient) (env : Environment) (engine : JsonEngine String)
    (system : SecretsSystem Tab Id Ambient Side) (id : Id) (call : SecretsCall Tab Ambient Side)
    (input : SecretsInput Ambient) : SecretsSystem Tab Id Ambient Side :=
  let result := secretsTaskStep vault env engine system.table
    (system.sessions call.tab) call.task input
  { system with
    sessions := Function.update system.sessions call.tab result.session
    table := result.table
    calls := Function.update system.calls id (some { call with task := result.task })
    log := system.log ++ (result.written.map fun effect => { id := id, effect := effect }).toList }

end SecretsSystem

def secretsStep (vault : Vault Ambient) (env : Environment) (engine : JsonEngine String)
    (system : SecretsSystem Tab Id Ambient Side) :
    SecretsOp Tab Id Ambient Side → SecretsSystem Tab Id Ambient Side
  | .call tab id request =>
    match system.calls id with
    | some _ => system
    | none =>
      { system with
        lock := withWalletSecretsWriterLock system.lock tab id
        calls := Function.update system.calls id
          (some { tab := tab, task := request.start }) }
  | .takeTurn tab => { system with lock := writerStep system.lock (.takeTurn tab) }
  | .grant tab id => { system with lock := writerStep system.lock (.grant tab id) }
  | .settle work =>
    if system.isSettled work.call then
      { system with lock := writerStep system.lock (.settle work) }
    else system
  | .release => { system with lock := writerStep system.lock .release }
  | .step id input =>
    match system.calls id with
    | none => system
    | some call =>
      if system.currentTask call.tab = some id then
        system.stepTask vault env engine id call input
      else system
  | .beginSession tab password =>
    { system with sessions := Function.update system.sessions tab (some password) }
  | .endSession tab => { system with sessions := Function.update system.sessions tab none }

end Tabs

end Bitboard.Frontend
