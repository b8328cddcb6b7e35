/-
# Near-zero security

Near-zero mode keeps the password of the secrets session in the wallet's own database,
encrypted under a fixed passphrase: a row of `settings` says that the mode is on, another
holds the wrapped secret. `tryLoadNearZeroSessionIntoMemory` puts the secret back into the
encryption worker. `upgradeNearZeroToUserPassword` leaves the mode: it encrypts all wallet
secrets with the user's password, moves the session to it, and deletes the two rows, in
several steps that a crash or a failing call can separate.

This module models both, after `near-zero-security.ts` and `wallet-secrets-session.ts`. Every
call to the database and to the worker is answered by a reply, which may be a failure, before
or after the call took effect. Nobody else uses the session while a load runs.
-/

import Bitboard.Frontend.Reencryption

namespace Bitboard.Frontend

open Bitboard.Lib Bitboard.Wallet Bitboard.Wallet.PayloadJson

/-- The public passphrase that wraps the session secret. -/
def nearZeroWrapperPassword : String := "!Near 0 Security!"

/-- The two rows of `settings`, the wallet secrets, the password in the encryption worker,
and the flag of the store. -/
structure NearZeroState where
  activeRow : Option String
  wrappedRow : Option String
  secrets : SecretsTable Unit
  session : Option String
  nearZeroSecurityActive : Bool

/-- The payload blob of the first wallet in the order of the ids. -/
def NearZeroState.firstPayloadBlob (state : NearZeroState) : Option EncryptedWalletSecretsBlob :=
  state.secrets.walletIds.head?.map fun walletId => rowToPayloadBlob (state.secrets.row walletId)

section NearZero

variable {Ambient : Type} (vault : Vault Ambient) (env : Environment)
variable (engine : JsonEngine String) (base64ToUint8 : String → Option (List UInt8))

def deserializeEncryptedBlobFromSettings (json : String) :
    Except String EncryptedWalletSecretsBlob :=
  match engine.parse json with
  | none => .error "Unexpected token in JSON"
  | some parsedBlob =>
    match parsedBlob.get? "ciphertext", parsedBlob.get? "iv", parsedBlob.get? "salt" with
    | some (.string ciphertext), some (.string iv), some (.string salt) =>
      match parsedBlob.get? "kdfPhc" with
      | some (.string kdfPhc) =>
        if kdfPhc = "" then .error "Settings encrypted blob is missing kdfPhc"
        else
          match base64ToUint8 ciphertext, base64ToUint8 iv, base64ToUint8 salt with
          | some ciphertext, some iv, some salt => .ok { ciphertext, iv, salt, kdfPhc }
          | _, _, _ => .error "The string to be decoded is not correctly encoded."
      | _ => .error "Settings encrypted blob is missing kdfPhc"
    | _, _, _ => .error "Settings encrypted blob is missing ciphertext, iv, or salt"

def unwrapSessionSecret (wrapped : String) : Except String String := do
  let blob ← deserializeEncryptedBlobFromSettings engine base64ToUint8 wrapped
  vault.doDecrypt nearZeroWrapperPassword blob

variable (state : NearZeroState)

/-- The near-zero secret that the state holds, if its wrapped row can be unwrapped. -/
def NearZeroState.secret : Option String :=
  state.wrappedRow.bind fun wrapped =>
    (unwrapSessionSecret vault engine base64ToUint8 wrapped).toOption

/-- Whether the calls of a check go through: the unwrapping, the reading of the first payload,
and the trial decryption. -/
structure CheckReplies where
  unwraps : Bool
  readsPayload : Bool
  decrypts : Bool

/-- The reply to one `endSecretsSession` on a live session. -/
inductive EndReply where
  | ended
  /-- Encryption or decryption is in progress. -/
  | inFlight
  /-- Any other failure, before or after the session ended. -/
  | failed (ended : Bool)

/-- The replies to the end of a session after a mismatch. -/
structure EndReplies where
  probe : Bool
  attempt : Nat → EndReply

inductive BeginReply where
  | begun
  | failed (begun : Bool)

structure LoadReplies where
  readsActiveRow : Bool
  readsWrappedRow : Bool
  /-- The first `isSecretsSessionActive`. -/
  probe : Bool
  /-- Whether the live session decrypts; it unwraps nothing. -/
  live : CheckReplies
  /-- Whether the wrapped secret opens the wallets too. -/
  reuse : CheckReplies
  mismatchEnd : EndReplies
  restore : CheckReplies
  restoreEnd : EndReplies
  begins : BeginReply

/-- `decryptDataWithPassword` succeeds. -/
def decryptsWithPassword (reply : Bool) (password : String)
    (blob : EncryptedWalletSecretsBlob) : Bool :=
  reply && (vault.doDecrypt password blob).toBool

def endSecretsSessionMaxAttempts : Nat := 20

/-- The session after the attempts of `endWalletSecretsSessionReliably` from `index` on, of
which `count` are left. What it throws in the end is swallowed by its caller. -/
def endWalletSecretsSessionReliably (attempt : Nat → EndReply) :
    Nat → Nat → Option String → Option String
  | 0, _, session => session
  | count + 1, index, session =>
    match session with
    | none => none
    | some password =>
      match attempt index with
      | .ended => none
      | .inFlight =>
        endWalletSecretsSessionReliably attempt count (index + 1) (some password)
      | .failed ended => if ended then none else some password

/-- `endSecretsSessionAfterNearZeroMismatch`: the session it leaves. -/
def endSecretsSessionAfterNearZeroMismatch (replies : EndReplies) (session : Option String) :
    Option String :=
  if replies.probe && session.isSome then
    endWalletSecretsSessionReliably replies.attempt endSecretsSessionMaxAttempts 0 session
  else session

/-- `beginWalletSecretsSession`: the session it leaves, and whether it returns. -/
def beginWalletSecretsSession (reply : BeginReply) (session : Option String)
    (password : String) : Option String × Bool :=
  match session with
  | some live => (some live, false)
  | none =>
    match reply with
    | .begun => (some password, true)
    | .failed begun => (if begun then some password else none, false)

/-- What a load leaves: what it returned, or nothing if it threw; the session; the last value
it gave the flag of the store; and the passwords of the sessions it ended. -/
structure LoadOutcome where
  returned : Option Bool
  session : Option String
  shown : Option Bool
  ended : List String

/-- The session that ended on the way from one to the other. -/
def endedSession : Option String → Option String → List String
  | some password, none => [password]
  | _, _ => []

/-- `firstWalletSecretsPayloadDecryptsWith`, or nothing where it throws. -/
def firstWalletSecretsPayloadDecryptsWith (readsPayload : Bool)
    (decryptPayload : EncryptedWalletSecretsBlob → Bool) : Option Bool :=
  if readsPayload then
    match state.firstPayloadBlob with
    | none => some true
    | some payloadBlob => some (decryptPayload payloadBlob)
  else none

def passwordDecryptsFirstWalletSecretsPayload (replies : CheckReplies) (password : String) :
    Option Bool :=
  firstWalletSecretsPayloadDecryptsWith state replies.readsPayload
    (decryptsWithPassword vault replies.decrypts password)

/-- `wrappedSecretOpensExistingWalletSecrets`. The last promise is returned, not awaited, so
that its rejection is not caught. -/
def wrappedSecretOpensExistingWalletSecrets (replies : CheckReplies) (wrapped : String) :
    Option Bool :=
  if replies.unwraps then
    match unwrapSessionSecret vault engine base64ToUint8 wrapped with
    | .error _ => some false
    | .ok secret => passwordDecryptsFirstWalletSecretsPayload vault state replies secret
  else some false

def restoreFailed (endedBecauseOfMismatch : Bool) (session : Option String) : LoadOutcome where
  returned := some false
  session := session
  shown := some (!endedBecauseOfMismatch)
  ended := []

/-- The last part of a load, from the unwrapping on. -/
def restoreSession (replies : LoadReplies) (wrapped : String) (endedBecauseOfMismatch : Bool)
    (session : Option String) : LoadOutcome :=
  if replies.restore.unwraps then
    match unwrapSessionSecret vault engine base64ToUint8 wrapped with
    | .error _ => restoreFailed endedBecauseOfMismatch session
    | .ok secret =>
      match passwordDecryptsFirstWalletSecretsPayload vault state replies.restore secret with
      | none => restoreFailed endedBecauseOfMismatch session
      | some false =>
        let left := endSecretsSessionAfterNearZeroMismatch replies.restoreEnd session
        { returned := some false
          session := left
          shown := some false
          ended := endedSession session left }
      | some true =>
        let begun := beginWalletSecretsSession replies.begins session secret
        if begun.2 then
          { returned := some true, session := begun.1, shown := some true, ended := [] }
        else restoreFailed endedBecauseOfMismatch begun.1
  else restoreFailed endedBecauseOfMismatch session

def tryLoadNearZeroSessionIntoMemory (replies : LoadReplies) : LoadOutcome :=
  let threw : LoadOutcome :=
    { returned := none, session := state.session, shown := none, ended := [] }
  let shows (active : Bool) : LoadOutcome :=
    { returned := some active, session := state.session, shown := some active, ended := [] }
  if replies.readsActiveRow then
    if state.activeRow = some "1" then
      if replies.readsWrappedRow then
        match state.wrappedRow with
        | none => shows false
        | some wrapped =>
          if wrapped = "" then shows false
          else
            match state.session with
            | none =>
              restoreSession vault engine base64ToUint8 state replies wrapped false none
            | some password =>
              -- A failed probe counts as no session.
              if replies.probe then
                match firstWalletSecretsPayloadDecryptsWith state replies.live.readsPayload
                    (decryptsWithPassword vault replies.live.decrypts password) with
                | none => threw
                | some true =>
                  match wrappedSecretOpensExistingWalletSecrets vault engine base64ToUint8
                      state replies.reuse wrapped with
                  | none => threw
                  | some opens => shows opens
                | some false =>
                  let left := endSecretsSessionAfterNearZeroMismatch replies.mismatchEnd
                    (some password)
                  let restored := restoreSession vault engine base64ToUint8 state replies
                    wrapped true left
                  { restored with
                    ended := endedSession (some password) left ++ restored.ended }
              else
                restoreSession vault engine base64ToUint8 state replies wrapped false
                  (some password)
      else threw
    else shows false
  else threw

/-- `reencryptAllWalletSecretsWithNewPassword`, up to the session it moves. -/
def reencryptAllWalletSecrets (secrets : SecretsTable Unit) (oldPassword newPassword : String)
    (ambient : Nat → Ambient × Ambient) : Except String (SecretsTable Unit) :=
  if secrets.walletIds.isEmpty then .error "No wallet secrets to re-encrypt"
  else do
    let decrypted ← secrets.walletIds.mapM fun walletId =>
      (loadWalletSecretsWithPassword vault env engine oldPassword
        (secrets.row walletId)).map fun read => (walletId, read)
    let blobs ← decrypted.mapM fun entry =>
      (encryptWalletSecrets vault engine newPassword (ambient entry.1) entry.2).map
        fun blobs => (entry.1, blobs)
    return secrets.writeAll blobs

inductive NearZeroWrite where
  | writeSecrets (secrets : SecretsTable Unit)
  | endSession
  | beginSession (password : String)
  | deleteActiveRow
  | deleteWrappedRow
  | showInactive

def NearZeroState.apply : NearZeroWrite → NearZeroState
  | .writeSecrets secrets => { state with secrets := secrets }
  | .endSession => { state with session := none }
  | .beginSession password => { state with session := some password }
  | .deleteActiveRow => { state with activeRow := none }
  | .deleteWrappedRow => { state with wrappedRow := none }
  | .showInactive => { state with nearZeroSecurityActive := false }

/-- The changes of `replaceWalletSecretsSession`. -/
def replaceWalletSecretsSession (session : Option String) (password : String) :
    List NearZeroWrite :=
  (if session.isSome then [.endSession] else []) ++ [.beginSession password]

/-- The changes of `clearNearZeroSecuritySettings`. -/
def clearNearZeroSecuritySettings : List NearZeroWrite :=
  [.deleteActiveRow, .deleteWrappedRow, .showInactive]

/-- The changes of `upgradeNearZeroToUserPassword` in their order; none if it throws before
the first. -/
def upgradeNearZeroToUserPassword (newPassword : String) (ambient : Nat → Ambient × Ambient) :
    Except String (List NearZeroWrite) :=
  let replaced := replaceWalletSecretsSession state.session newPassword
  if state.secrets.walletIds.isEmpty then .ok (replaced ++ clearNearZeroSecuritySettings)
  else
    match state.wrappedRow with
    | none | some "" => .error "Near-zero wrapped session secret is missing"
    | some wrapped => do
        let secret ← unwrapSessionSecret vault engine base64ToUint8 wrapped
        let secrets ← reencryptAllWalletSecrets vault env engine state.secrets secret
          newPassword ambient
        return .writeSecrets secrets :: replaced ++ clearNearZeroSecuritySettings

/-- How far an upgrade came: the changes it made before a call failed or the app was closed,
and whether the app was started again, without a session and with the flag off. -/
structure UpgradeCrash where
  changes : Nat
  restarted : Bool

def NearZeroState.afterUpgrade (newPassword : String) (ambient : Nat → Ambient × Ambient)
    (crash : UpgradeCrash) : NearZeroState :=
  let changes := (upgradeNearZeroToUserPassword vault env engine base64ToUint8 state
    newPassword ambient).toOption.getD []
  let left := (changes.take crash.changes).foldl NearZeroState.apply state
  if crash.restarted then { left with session := none, nearZeroSecurityActive := false } else left

end NearZero

end Bitboard.Frontend
