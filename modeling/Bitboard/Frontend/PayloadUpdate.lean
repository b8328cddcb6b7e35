/-
# Updates of the wallet secrets payload

Two functions of the store change the encrypted payload of a wallet: one maps the
decrypted payload, the other the ciphertext. Both read the row with its revision, run
the caller's transform, and write the result if the revision is still the one they have
read; else they start again, for a bounded number of attempts. Calls of any number of
tabs interleave between these steps. The writer lock and the same-tab queue around the
calls allow fewer orders than are considered here.
-/

import Bitboard.Lib.Run
import Bitboard.Lib.VersionedCell

namespace Bitboard.Frontend

open Bitboard.Lib

/-- An encrypted blob as it is read and written without decryption. -/
structure EncryptedWalletSecretsBlob where
  ciphertext : List UInt8
  iv : List UInt8
  salt : List UInt8
  kdfPhc : String
  deriving DecidableEq

/-- The row of one wallet in `wallet_secrets`. -/
structure WalletSecretsRow where
  revision : Nat
  encryptedData : List UInt8
  iv : List UInt8
  salt : List UInt8
  kdfPhc : String
  mnemonicEncryptedData : List UInt8
  mnemonicIv : List UInt8
  mnemonicSalt : List UInt8
  mnemonicKdfPhc : String

def rowToPayloadBlob (row : WalletSecretsRow) : EncryptedWalletSecretsBlob where
  ciphertext := row.encryptedData
  iv := row.iv
  salt := row.salt
  kdfPhc := row.kdfPhc

def rowToMnemonicBlob (row : WalletSecretsRow) : EncryptedWalletSecretsBlob where
  ciphertext := row.mnemonicEncryptedData
  iv := row.mnemonicIv
  salt := row.mnemonicSalt
  kdfPhc := row.mnemonicKdfPhc

/-- What a writer puts; without a mnemonic the mnemonic columns are left as they are. -/
structure PutSplitWalletSecretsEncryptedInput where
  payload : EncryptedWalletSecretsBlob
  mnemonic : Option EncryptedWalletSecretsBlob

def WalletSecretsRow.withPayload (row : WalletSecretsRow)
    (payload : EncryptedWalletSecretsBlob) : WalletSecretsRow :=
  { row with
    revision := row.revision + 1
    encryptedData := payload.ciphertext
    iv := payload.iv
    salt := payload.salt
    kdfPhc := payload.kdfPhc }

def WalletSecretsRow.withMnemonic (row : WalletSecretsRow)
    (mnemonic : EncryptedWalletSecretsBlob) : WalletSecretsRow :=
  { row with
    mnemonicEncryptedData := mnemonic.ciphertext
    mnemonicIv := mnemonic.iv
    mnemonicSalt := mnemonic.salt
    mnemonicKdfPhc := mnemonic.kdfPhc }

/-- The compare and set of one statement; nothing if no row had the expected revision. -/
def putSplitWalletSecretsEncryptedIfRevisionMatches (row : WalletSecretsRow)
    (blobs : PutSplitWalletSecretsEncryptedInput) (expectedRevision : Nat) :
    Option WalletSecretsRow :=
  if row.revision = expectedRevision then
    match blobs.mnemonic with
    | some mnemonic => some ((row.withPayload blobs.payload).withMnemonic mnemonic)
    | none => some (row.withPayload blobs.payload)
  else none

/-- The payload blob with its revision, as `getWalletSecretsEncryptedWithRevision` reads it. -/
def WalletSecretsRow.cell (row : WalletSecretsRow) : Versioned EncryptedWalletSecretsBlob where
  value := rowToPayloadBlob row
  version := row.revision

variable (row : WalletSecretsRow)
variable (payload : EncryptedWalletSecretsBlob)

@[simp]
theorem cell_withPayload : (row.withPayload payload).cell = row.cell.put payload := rfl

@[simp]
theorem rowToPayloadBlob_withPayload : rowToPayloadBlob (row.withPayload payload) = payload := rfl

@[simp]
theorem rowToMnemonicBlob_withPayload :
    rowToMnemonicBlob (row.withPayload payload) = rowToMnemonicBlob row := rfl

section PayloadUpdate

variable {Id Payload Ambient Side : Type}

/-- Encryption and JSON. What else a transform or the encryption depends on in one attempt
(the clock, other rows, random bytes) is the `Ambient` of that attempt. -/
structure PayloadCodec (Payload Ambient : Type) where
  encryptData : Ambient → String → Except String EncryptedWalletSecretsBlob
  decryptData : EncryptedWalletSecretsBlob → Except String String
  stringify : Payload → String
  parseWalletPayloadJson : String → Except String Payload

variable (codec : PayloadCodec Payload Ambient)

def PayloadCodec.readPayload (blob : EncryptedWalletSecretsBlob) : Except String Payload :=
  codec.decryptData blob >>= codec.parseWalletPayloadJson

variable (transform : Ambient → Payload → Except String Payload)

/-- A transform of the payload and what a reader makes of its result. -/
def PayloadCodec.storedForm (ambient : Ambient) (payload : Payload) : Except String Payload :=
  transform ambient payload >>= fun next => codec.parseWalletPayloadJson (codec.stringify next)

/-- Decrypts the blob, transforms the payload and encrypts the result. -/
def PayloadCodec.onBlob (ambient : Ambient) (blob : EncryptedWalletSecretsBlob) :
    Except String EncryptedWalletSecretsBlob :=
  codec.readPayload blob >>= transform ambient >>= fun next =>
    codec.encryptData ambient (codec.stringify next)

/-- The arguments of a call: `updateWalletSecretsPayloadWithRetry` with what it may write
alongside, or `updateWalletSecretsEncryptedPayloadWithRetry`. -/
inductive PayloadUpdate (Payload Ambient Side : Type)
  | payload (transform : Ambient → Payload → Except String Payload)
      (writeAlongsideInTransaction : Option (Ambient → Side → Except String Side))
  | encrypted (transform : Ambient → EncryptedWalletSecretsBlob →
      Except String EncryptedWalletSecretsBlob)

def updateDecryptedWalletPayload (applyChange : Ambient → Payload → Except String Payload) :
    PayloadUpdate Payload Ambient Side :=
  .encrypted (codec.onBlob applyChange)

/-- The next ciphertext that an attempt computes from the current one. -/
def PayloadUpdate.nextPayload :
    PayloadUpdate Payload Ambient Side → Ambient → EncryptedWalletSecretsBlob →
      Except String EncryptedWalletSecretsBlob
  | .payload transform _ => codec.onBlob transform
  | .encrypted transform => transform

/-- What a committed call writes besides the payload. -/
def PayloadUpdate.alongside :
    PayloadUpdate Payload Ambient Side → Ambient → Side → Except String Side
  | .payload _ (some writeAlongsideInTransaction) => writeAlongsideInTransaction
  | _ => fun _ => .ok

def walletSecretsCasMaxRetries : Nat := 8

def walletSecretsConflictError (maxRetries : Nat) : String :=
  s!"Failed to update encrypted wallet secrets after {maxRetries} CAS retries"

inductive UpdatePhase (Ambient : Type)
  | reading (attempt : Nat)
  | transforming (attempt : Nat) (current : Versioned EncryptedWalletSecretsBlob)
  | putting (attempt : Nat) (current : Versioned EncryptedWalletSecretsBlob)
      (ambient : Ambient) (nextPayload : EncryptedWalletSecretsBlob)
  | returned
  | threw (message : String)

structure UpdateCall (Payload Ambient Side : Type) where
  update : PayloadUpdate Payload Ambient Side
  maxRetries : Nat
  phase : UpdatePhase Ambient

/-- The row and the other rows that calls write in the same transaction. -/
structure SecretsDatabase (Side : Type) where
  row : WalletSecretsRow
  alongside : Side

def UpdateCall.enterAttempt (call : UpdateCall Payload Ambient Side) (attempt : Nat) :
    UpdateCall Payload Ambient Side :=
  if attempt ≤ call.maxRetries then { call with phase := .reading attempt }
  else { call with phase := .threw (walletSecretsConflictError call.maxRetries) }

variable (update : PayloadUpdate Payload Ambient Side)
variable (database : SecretsDatabase Side)

/-- The write of an attempt, in one transaction with what is written alongside: nothing on a
revision mismatch, an error if the writing alongside throws. -/
def putPayloadAndWriteAlongsideIfRevisionMatches (ambient : Ambient)
    (nextPayload : EncryptedWalletSecretsBlob) (expectedRevision : Nat) :
    Except String (Option (SecretsDatabase Side)) :=
  match putSplitWalletSecretsEncryptedIfRevisionMatches database.row
      { payload := nextPayload, mnemonic := none } expectedRevision with
  | none => .ok none
  | some row =>
    match update.alongside ambient database.alongside with
    | .ok alongside => .ok (some { row := row, alongside := alongside })
    | .error message => .error message

/-- What a call does next: its read, its transform, its write, or an error of the database
before the write has taken place. -/
inductive UpdateInput (Ambient : Type)
  | read
  | transform (ambient : Ambient)
  | put
  | fail (message : String)

def UpdateCall.step (call : UpdateCall Payload Ambient Side) :
    UpdateInput Ambient → UpdateCall Payload Ambient Side × SecretsDatabase Side
  | .read =>
    match call.phase with
    | .reading attempt =>
      ({ call with phase := .transforming attempt database.row.cell }, database)
    | _ => (call, database)
  | .transform ambient =>
    match call.phase with
    | .transforming attempt current =>
      match call.update.nextPayload codec ambient current.value with
      | .ok nextPayload =>
        ({ call with phase := .putting attempt current ambient nextPayload }, database)
      | .error message => ({ call with phase := .threw message }, database)
    | _ => (call, database)
  | .put =>
    match call.phase with
    | .putting attempt current ambient nextPayload =>
      match putPayloadAndWriteAlongsideIfRevisionMatches call.update database ambient
          nextPayload current.version with
      | .ok (some written) => ({ call with phase := .returned }, written)
      | .ok none => (call.enterAttempt (attempt + 1), database)
      | .error message => ({ call with phase := .threw message }, database)
    | _ => (call, database)
  | .fail message =>
    match call.phase with
    | .returned | .threw _ => (call, database)
    | _ => ({ call with phase := .threw message }, database)

/-- The database and the calls made to it so far, in all tabs. -/
structure UpdateSystem (Id Payload Ambient Side : Type) where
  database : SecretsDatabase Side
  calls : Id → Option (UpdateCall Payload Ambient Side)

def initialUpdateSystem : UpdateSystem Id Payload Ambient Side where
  database := database
  calls := fun _ => none

inductive UpdateOp (Id Payload Ambient Side : Type)
  | call (id : Id) (update : PayloadUpdate Payload Ambient Side) (maxRetries : Option Nat)
  | step (id : Id) (input : UpdateInput Ambient)

def startCall (maxRetries : Option Nat) : UpdateCall Payload Ambient Side :=
  UpdateCall.enterAttempt
    { update := update
      maxRetries := maxRetries.getD walletSecretsCasMaxRetries
      phase := .reading 1 } 1

variable [DecidableEq Id]

/-- Either a new call is made or one of the calls goes on. -/
def updateStep (system : UpdateSystem Id Payload Ambient Side) :
    UpdateOp Id Payload Ambient Side → UpdateSystem Id Payload Ambient Side
  | .call id update maxRetries =>
    match system.calls id with
    | none =>
      { system with calls := Function.update system.calls id (startCall update maxRetries) }
    | some _ => system
  | .step id input =>
    match system.calls id with
    | none => system
    | some call =>
      { database := (call.step codec system.database input).2
        calls := Function.update system.calls id (call.step codec system.database input).1 }

end PayloadUpdate

end Bitboard.Frontend
