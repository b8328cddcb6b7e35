/-
# Flushes of the SDK persistence

The Arkade worker has one slot for a WASM session, and beside it the scope of the
session that it takes to be open. A flush stamps the scope, waits for the flush in
flight, exports the JSON of the session in the slot, compares the scope once more and
writes the JSON into the account of that scope. Opening and closing a session change
the slot and the scope in different steps.

The machine below is `arkade.worker.ts` with the merge of `arkade-payload-merge.ts`
and the slot of `lib.rs`. Every await is the end of a step, so calls interleave there.
The host applies a merge to the payload as it is then, in one step. The calls
`ensureArkadeAccountEncrypted` and `reconcileActiveAccountId` are no flushes and are
left out.
-/

import Bitboard.Lib.Run

namespace Bitboard.Frontend

open Bitboard.Lib

inductive ArkadeSupportedNetworkMode where
  | mainnet
  | signet
  | mutinynet
  | regtest
  deriving DecidableEq

inductive SdkChange where
  | revealReceiveAddress
  | other (content : String)
  deriving DecidableEq

/-- The exported JSON, given by the changes that led to it. -/
abbrev SdkPersistenceJson := List SdkChange

structure StoredArkadeAccount where
  id : String
  sdkPersistenceJson : Option SdkPersistenceJson

variable (arkadeAccounts : List StoredArkadeAccount)

def findArkadeAccount (arkadeAccountId : String) : Option StoredArkadeAccount :=
  arkadeAccounts.find? fun row => row.id == arkadeAccountId

def upsertArkadeAccountInPayload (account : StoredArkadeAccount) : List StoredArkadeAccount :=
  (arkadeAccounts.filter fun row => row.id != account.id) ++ [account]

/-- Every revealed receive address moves the cursor on by one. -/
def readOffchainNextDerivationIndex : Option SdkPersistenceJson → Nat
  | none => 0
  | some json => json.count .revealReceiveAddress

def mergeSdkPersistenceJsonMonotonic (existingJson : Option SdkPersistenceJson)
    (incomingJson : SdkPersistenceJson) : SdkPersistenceJson :=
  match existingJson with
  | none => incomingJson
  | some existing =>
    if readOffchainNextDerivationIndex (some existing) ≤
        readOffchainNextDerivationIndex (some incomingJson) then
      incomingJson
    else existing

/-- Nothing for an account that the payload does not have. -/
def mergeSdkPersistenceIntoPayload (arkadeAccountId : String)
    (sdkPersistenceJson : SdkPersistenceJson) : Option (List StoredArkadeAccount) :=
  match findArkadeAccount arkadeAccounts arkadeAccountId with
  | none => none
  | some existing =>
    some (upsertArkadeAccountInPayload arkadeAccounts
      { existing with
        sdkPersistenceJson := some
          (mergeSdkPersistenceJsonMonotonic existing.sdkPersistenceJson sdkPersistenceJson) })

structure ArkadePersistScope where
  walletId : Nat
  arkadeAccountId : String
  deriving DecidableEq

/-- The parameters of the open session. The session key is a string of just these. -/
structure ActiveSessionParams where
  walletId : Nat
  networkMode : ArkadeSupportedNetworkMode
  arkadeAccountId : String
  deriving DecidableEq

def ActiveSessionParams.persistScope (params : ActiveSessionParams) : ArkadePersistScope where
  walletId := params.walletId
  arkadeAccountId := params.arkadeAccountId

def arkadeOpenSessionMatchesSaveTarget (activeSession : Option ActiveSessionParams)
    (target : ArkadePersistScope) : Bool :=
  match activeSession with
  | none => false
  | some active =>
    active.walletId == target.walletId && active.arkadeAccountId == target.arkadeAccountId

def stampedPersistScopeStillMatchesOpenSession (scopeAtStart : Option ArkadePersistScope)
    (openSession : Option ActiveSessionParams) : Bool :=
  match scopeAtStart with
  | none => false
  | some scope => arkadeOpenSessionMatchesSaveTarget openSession scope

theorem arkadeOpenSessionMatchesSaveTarget_iff {activeSession : Option ActiveSessionParams}
    {target : ArkadePersistScope} :
    arkadeOpenSessionMatchesSaveTarget activeSession target = true ↔
      ∃ params, activeSession = some params ∧ params.persistScope = target := by
  cases activeSession with
  | none => simp [arkadeOpenSessionMatchesSaveTarget]
  | some active =>
    cases target with
    | mk walletId arkadeAccountId =>
      simp [arkadeOpenSessionMatchesSaveTarget, ActiveSessionParams.persistScope]

theorem stampedPersistScopeStillMatchesOpenSession_iff
    {scopeAtStart : Option ArkadePersistScope} {openSession : Option ActiveSessionParams} :
    stampedPersistScopeStillMatchesOpenSession scopeAtStart openSession = true ↔
      ∃ params, openSession = some params ∧ scopeAtStart = some params.persistScope := by
  cases scopeAtStart with
  | none => simp [stampedPersistScopeStillMatchesOpenSession]
  | some scope =>
    simp only [stampedPersistScopeStillMatchesOpenSession,
      arkadeOpenSessionMatchesSaveTarget_iff, Option.some.injEq]
    constructor
    · intro ⟨params, hopen, hscope⟩
      exact ⟨params, hopen, hscope.symm⟩
    · intro ⟨params, hopen, hscope⟩
      exact ⟨params, hopen, hscope.symm⟩

/-- A session of the WASM module. It outlives its stay in the slot as long as a call
that has taken it runs. -/
structure WasmSession where
  /-- The wallet and the account that the session was opened for. -/
  openedFor : ArkadePersistScope
  db : SdkPersistenceJson

/-- Where a call of `flushSdkPersistenceNowOrThrow` stands. -/
inductive FlushStage where
  /-- Another flush was in flight and is awaited. -/
  | waiting (awaited : Nat)
  | exporting
  | exported (session : Nat) (json : SdkPersistenceJson)
  | persisting (session : Nat) (json : SdkPersistenceJson)
  | persisted
  /-- The call returned, and the JSON stored for its scope was this one. -/
  | returned (stored : Option SdkPersistenceJson)
  | threw
  deriving DecidableEq

structure FlushCall where
  stampedScope : Option ArkadePersistScope
  stage : FlushStage
  /-- The session in the slot at the call, with its state then. -/
  openAtCall : Option (Nat × SdkPersistenceJson)
  deriving DecidableEq

structure OpenArkadeSessionParams where
  session : ActiveSessionParams
  /-- The accounts of the payload that the caller had read and hands over. -/
  encryptedPayload : List StoredArkadeAccount

def OpenArkadeSessionParams.account (params : OpenArkadeSessionParams) :
    Option StoredArkadeAccount :=
  findArkadeAccount params.encryptedPayload params.session.arkadeAccountId

def OpenArkadeSessionParams.sdkPersistenceJson (params : OpenArkadeSessionParams) :
    Option SdkPersistenceJson :=
  params.account.bind StoredArkadeAccount.sdkPersistenceJson

/-- Where a call of `openSession` or `closeSession` stands. -/
inductive LifecycleStage where
  /-- The open found its own key and asks the session for its address. -/
  | probing
  /-- `closeSessionImpl` awaits its flush. -/
  | flushing (flush : Nat)
  /-- The slot is empty, the scope is not yet reset. -/
  | cleared
  | loading
  /-- The scope is set and the WASM module opens the session. -/
  | opening
  /-- The new session is in the slot. -/
  | opened
  /-- The key is set and running syncs are awaited. -/
  | quiescing
  | persisting (flush : Nat)

structure LifecycleCall where
  /-- Nothing for `closeSession`. -/
  params : Option OpenArkadeSessionParams
  stage : LifecycleStage

/-- A JSON that was handed to the host, with the session it was exported from. -/
structure SdkWrite where
  scope : ArkadePersistScope
  session : Nat

structure ArkadeWorker where
  activeSessionKey : Option ActiveSessionParams
  activeSessionParams : Option ActiveSessionParams
  inFlightPersist : Option Nat
  /-- `ACTIVE_SESSION`. -/
  activeSession : Option Nat
  sessions : Nat → Option WasmSession
  flushes : Nat → Option FlushCall
  /-- The opens and closes under way. -/
  lifecycles : Nat → Option LifecycleCall
  /-- The accounts of the stored payload of each wallet. -/
  payloads : Nat → List StoredArkadeAccount
  writes : List SdkWrite

variable (worker : ArkadeWorker)
variable (name : Nat)

namespace ArkadeWorker

def captureOpenPersistScope : Option ArkadePersistScope :=
  worker.activeSessionParams.map ActiveSessionParams.persistScope

/-- The JSON that is stored for a wallet and an account. -/
def storedJson (scope : ArkadePersistScope) : Option SdkPersistenceJson :=
  (findArkadeAccount (worker.payloads scope.walletId) scope.arkadeAccountId).bind
    StoredArkadeAccount.sdkPersistenceJson

def setFlush (call : FlushCall) : ArkadeWorker :=
  { worker with flushes := Function.update worker.flushes name (some call) }

def setLifecycle (call : Option LifecycleCall) : ArkadeWorker :=
  { worker with lifecycles := Function.update worker.lifecycles name call }

/-- The flush in flight ends and `finally` resets the promise. -/
def endFlush (call : FlushCall) (stage : FlushStage) : ArkadeWorker :=
  { worker.setFlush name { call with stage } with inFlightPersist := none }

/-- `flushSdkPersistenceNowOrThrow` up to its first await. -/
def enterFlush (call : FlushCall) : ArkadeWorker :=
  if stampedPersistScopeStillMatchesOpenSession call.stampedScope worker.activeSessionParams then
    match worker.inFlightPersist with
    | some awaited => worker.setFlush name { call with stage := .waiting awaited }
    | none =>
      { worker.setFlush name { call with stage := .exporting } with
        inFlightPersist := some name }
  else worker.setFlush name { call with stage := .threw }

def openNow : Option (Nat × SdkPersistenceJson) :=
  match worker.activeSession with
  | none => none
  | some name => (worker.sessions name).map fun session => (name, session.db)

/-- A new call of `flushSdkPersistenceNowOrThrow`. -/
def callFlush (stampedScope : Option ArkadePersistScope) : ArkadeWorker :=
  worker.enterFlush name { stampedScope, stage := .threw, openAtCall := worker.openNow }

/-- `closeSessionImpl` up to its first await. -/
def beginClose (flush : Nat) (params : Option OpenArkadeSessionParams) : ArkadeWorker :=
  (worker.callFlush flush worker.captureOpenPersistScope).setLifecycle name
    (some { params, stage := .flushing flush })

end ArkadeWorker

/-! ## Steps -/

/-- Has the awaited flush ended, and without an error? -/
def FlushStage.result : FlushStage → Option Bool
  | .returned _ => some true
  | .threw => some false
  | _ => none

inductive WorkerOp where
  /-- A call changes a session that it has taken from the slot. -/
  | change (session : Nat) (change : SdkChange)
  /-- A flush begins; with no `scopeAtStart` it stamps the open scope. -/
  | flush (name : Nat) (scopeAtStart : Option (Option ArkadePersistScope))
  | resumeFlush (name : Nat)
  | exportSdk (name : Nat)
  | checkScope (name : Nat) (configured : Bool)
  /-- The host applies the merge, or reports an error. -/
  | writeSdk (name : Nat) (ok : Bool)
  | settleFlush (name : Nat)
  | closeSession (name flush : Nat)
  | openSession (name flush : Nat) (params : OpenArkadeSessionParams)
  /-- The session answers the open that found its key, or does not. -/
  | probe (name flush : Nat) (answers : Bool)
  | clearSession (name : Nat)
  | resetScope (name : Nat)
  /-- Payload and mnemonic are decrypted, or cannot be. -/
  | load (name : Nat) (ok : Bool)
  /-- The WASM module opens the session, whose opening itself makes changes, or fails. -/
  | openWasm (name session : Nat) (changes : Option (List SdkChange))
  | setKey (name : Nat)
  | persistOpened (name flush : Nat)
  | finishOpen (name : Nat)

namespace ArkadeWorker

/-- One step of the worker. A step of a call that is not there or not that far, and a call
under a name that is taken, change nothing. -/
def step : WorkerOp → ArkadeWorker
  | .change session change =>
    match worker.sessions session with
    | none => worker
    | some found =>
      { worker with
        sessions := Function.update worker.sessions session
          (some { found with db := found.db ++ [change] }) }
  | .flush name scopeAtStart =>
    match worker.flushes name with
    | some _ => worker
    | none => worker.callFlush name (scopeAtStart.getD worker.captureOpenPersistScope)
  | .resumeFlush name =>
    match worker.flushes name with
    | some { stampedScope, stage := .waiting awaited, openAtCall } =>
      match (worker.flushes awaited).bind fun other => other.stage.result with
      | none => worker
      | some true => worker.enterFlush name { stampedScope, stage := .threw, openAtCall }
      | some false => worker.setFlush name { stampedScope, stage := .threw, openAtCall }
    | _ => worker
  | .exportSdk name =>
    match worker.flushes name with
    | some { stampedScope, stage := .exporting, openAtCall } =>
      match worker.openNow with
      | none => worker.endFlush name { stampedScope, stage := .exporting, openAtCall } .threw
      | some (session, json) =>
        worker.setFlush name { stampedScope, stage := .exported session json, openAtCall }
    | _ => worker
  | .checkScope name configured =>
    match worker.flushes name with
    | some { stampedScope, stage := .exported session json, openAtCall } =>
      if stampedPersistScopeStillMatchesOpenSession stampedScope worker.activeSessionParams &&
          configured then
        worker.setFlush name { stampedScope, stage := .persisting session json, openAtCall }
      else
        worker.endFlush name
          { stampedScope, stage := .exported session json, openAtCall } .threw
    | _ => worker
  | .writeSdk name ok =>
    match worker.flushes name with
    | some { stampedScope := some scope, stage := .persisting session json, openAtCall } =>
      match mergeSdkPersistenceIntoPayload (worker.payloads scope.walletId)
          scope.arkadeAccountId json, ok with
      | some accounts, true =>
        { worker.setFlush name
            { stampedScope := some scope, stage := .persisted, openAtCall } with
          payloads := Function.update worker.payloads scope.walletId accounts
          writes := { scope, session } :: worker.writes }
      | _, _ =>
        worker.endFlush name
          { stampedScope := some scope, stage := .persisting session json, openAtCall } .threw
    | _ => worker
  | .settleFlush name =>
    match worker.flushes name with
    | some { stampedScope, stage := .persisted, openAtCall } =>
      worker.endFlush name { stampedScope, stage := .persisted, openAtCall }
        (.returned (stampedScope.bind worker.storedJson))
    | _ => worker
  | .closeSession name flush =>
    match worker.lifecycles name, worker.flushes flush with
    | none, none => worker.beginClose name flush none
    | _, _ => worker
  | .openSession name flush params =>
    match worker.lifecycles name, worker.flushes flush with
    | none, none =>
      if worker.activeSessionKey = some params.session then
        worker.setLifecycle name (some { params := some params, stage := .probing })
      else worker.beginClose name flush (some params)
    | _, _ => worker
  | .probe name flush answers =>
    match worker.lifecycles name, worker.flushes flush with
    | some { params, stage := .probing }, none =>
      if worker.activeSession.isSome && answers then worker.setLifecycle name none
      else worker.beginClose name flush params
    | _, _ => worker
  | .clearSession name =>
    match worker.lifecycles name with
    | some { params, stage := .flushing flush } =>
      match (worker.flushes flush).bind fun call => call.stage.result with
      | none => worker
      | some _ =>
        { worker.setLifecycle name (some { params, stage := .cleared }) with
          activeSession := none }
    | _ => worker
  | .resetScope name =>
    match worker.lifecycles name with
    | some { params, stage := .cleared } =>
      { worker.setLifecycle name
          (params.map fun handed => { params := some handed, stage := .loading }) with
        activeSessionKey := none
        activeSessionParams := none }
    | _ => worker
  | .load name ok =>
    match worker.lifecycles name with
    | some { params := some params, stage := .loading } =>
      if ok then
        { worker.setLifecycle name (some { params := some params, stage := .opening }) with
          activeSessionParams := some params.session }
      else worker.setLifecycle name none
    | _ => worker
  | .openWasm name session changes =>
    match worker.lifecycles name, worker.sessions session with
    | some { params := some params, stage := .opening }, none =>
      match changes with
      | none =>
        { worker.setLifecycle name none with
          activeSessionKey := none
          activeSessionParams := none }
      | some made =>
        { worker.setLifecycle name (some { params := some params, stage := .opened }) with
          activeSession := some session
          sessions := Function.update worker.sessions session
            (some
              { openedFor := params.session.persistScope
                db := params.sdkPersistenceJson.getD [] ++ made }) }
    | _, _ => worker
  | .setKey name =>
    match worker.lifecycles name with
    | some { params := some params, stage := .opened } =>
      { worker.setLifecycle name
          (if params.account.isSome then
            some { params := some params, stage := .quiescing }
          else none) with
        activeSessionKey := some params.session }
    | _ => worker
  | .persistOpened name flush =>
    match worker.lifecycles name, worker.flushes flush with
    | some { params, stage := .quiescing }, none =>
      (worker.callFlush flush worker.captureOpenPersistScope).setLifecycle name
        (some { params, stage := .persisting flush })
    | _, _ => worker
  | .finishOpen name =>
    match worker.lifecycles name with
    | some { params := _, stage := .persisting flush } =>
      match (worker.flushes flush).bind fun call => call.stage.result with
      | none => worker
      | some true => worker.setLifecycle name none
      | some false =>
        { worker.setLifecycle name none with
          activeSessionKey := none
          activeSessionParams := none }
    | _ => worker

def run (ops : List WorkerOp) : ArkadeWorker :=
  Lib.run step worker ops

end ArkadeWorker

/-- A worker in which nothing runs and no session was opened. -/
def idleWorker (payloads : Nat → List StoredArkadeAccount) : ArkadeWorker where
  activeSessionKey := none
  activeSessionParams := none
  inFlightPersist := none
  activeSession := none
  sessions := fun _ => none
  flushes := fun _ => none
  lifecycles := fun _ => none
  payloads := payloads
  writes := []

end Bitboard.Frontend
