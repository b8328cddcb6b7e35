/-
# What cancelling and retrying leave

A cancel of one intent touches no intent with other inputs, and it forgets the
intent only when the chain or the operator has. A retry cancels and joins again.
The end of its join times every processing intent out, and a retried collaborative
exit first reconciles all intents, so the others are kept up to these two.

Every write of these operations is one of the writes of `IntentOp`; `kept_intentStep`
says once which of them keep an intent.
-/

import Bitboard.Arkade.ExitMaterials
import Bitboard.Arkade.IntentActions

namespace Bitboard.Arkade

open Bitboard.Lib
open SignerMigration

def Kept (stored : List PendingBatchIntentRecord) (record : PendingBatchIntentRecord) : Prop :=
  record ∈ stored ∨ timeOut record ∈ stored

section Kept

variable {stored : List PendingBatchIntentRecord} {kept : PendingBatchIntentRecord}
variable (record : PendingBatchIntentRecord)

theorem timeOut_timeOut : timeOut (timeOut record) = timeOut record := by
  have hphase : (timeOut record).lifecyclePhase ≠ .processing := by
    rw [lifecyclePhase_timeOut]
    intro h
    cases h
  rw [timeOut, if_neg hphase]

theorem sharesInput_timeOut_iff {left right : PendingBatchIntentRecord} :
    SharesInput (timeOut left) right ↔ SharesInput left right := by
  simp [SharesInput]

theorem overlaps_timeOut (onchainOutpoints vtxoOutpoints : List PendingBatchOutpointRecord) :
    pendingBatchRecordOverlapsOutpoints (timeOut record) onchainOutpoints vtxoOutpoints =
      pendingBatchRecordOverlapsOutpoints record onchainOutpoints vtxoOutpoints := by
  simp [pendingBatchRecordOverlapsOutpoints]

theorem Kept.map (hkept : Kept stored kept)
    {restamp : PendingBatchIntentRecord → PendingBatchIntentRecord}
    (hrestamp : Restamps restamp) : Kept (stored.map restamp) kept := by
  cases hkept with
  | inl hmem =>
    have himage := List.mem_map_of_mem (f := restamp) hmem
    cases hrestamp kept with
    | inl heq => exact .inl (heq ▸ himage)
    | inr heq => exact .inr (heq ▸ himage)
  | inr hmem =>
    have himage := List.mem_map_of_mem (f := restamp) hmem
    cases hrestamp (timeOut kept) with
    | inl heq => exact .inr (heq ▸ himage)
    | inr heq =>
      rw [heq, timeOut_timeOut] at himage
      exact .inr himage

theorem Kept.filter (hkept : Kept stored kept) (keep : PendingBatchIntentRecord → Bool)
    (hkeep : keep kept = true) (htimedOut : keep (timeOut kept) = true) :
    Kept (stored.filter keep) kept := by
  cases hkept with
  | inl hmem => exact .inl (List.mem_filter.mpr ⟨hmem, hkeep⟩)
  | inr hmem => exact .inr (List.mem_filter.mpr ⟨hmem, htimedOut⟩)

/-- A write that adds or removes by inputs shares none with the intent. -/
def IntentOp.Spares (kept : PendingBatchIntentRecord) : IntentOp → Prop
  | .upsert record => ¬ SharesInput kept record
  | .persistAndWaiting record => ¬ SharesInput kept record
  | .stampRegistered record => ¬ SharesInput kept record
  | .stamp _ _ => True
  | .promote => True
  | .remove onchainOutpoints vtxoOutpoints =>
    pendingBatchRecordOverlapsOutpoints kept onchainOutpoints vtxoOutpoints = false

theorem Kept.upsert (hkept : Kept stored kept) {record : PendingBatchIntentRecord}
    (hspares : ¬ SharesInput kept record) : Kept (upsertPendingBatchIntent stored record) kept := by
  have hkeep : ∀ other, ¬ SharesInput other record →
      (!pendingBatchIntentsOverlap other record) = true := by
    intro other hother
    rwa [Bool.not_eq_true', ← Bool.not_eq_true, pendingBatchIntentsOverlap_iff]
  have hfilter := hkept.filter (fun existing => !pendingBatchIntentsOverlap existing record)
    (hkeep kept hspares) (hkeep (timeOut kept) (by rwa [sharesInput_timeOut_iff]))
  exact hfilter.imp (List.mem_append_left _) (List.mem_append_left _)

theorem kept_intentStep (hkept : Kept stored kept) {op : IntentOp} (hspares : op.Spares kept) :
    Kept (intentStep stored op) kept := by
  cases op with
  | upsert record => exact hkept.upsert hspares
  | persistAndWaiting record =>
    simp only [intentStep, persistAndWaitingJoinResult]
    split
    · exact hkept
    · exact hkept.upsert hspares
  | stampRegistered record =>
    have hstamped := hkept.map (restamps_stamp record.onchainOutpoints record.vtxoOutpoints)
    simp only [intentStep, stampRegisteredIntentTimedOut]
    split
    · exact hstamped
    · exact hstamped.upsert hspares
  | stamp onchainOutpoints vtxoOutpoints =>
    exact hkept.map (restamps_stamp onchainOutpoints vtxoOutpoints)
  | promote => exact hkept.map fun _ => .inr rfl
  | remove onchainOutpoints vtxoOutpoints =>
    have hkeep : pendingBatchRecordOverlapsOutpoints kept onchainOutpoints vtxoOutpoints =
        false := hspares
    exact hkept.filter _ (by rw [hkeep]; rfl) (by rw [overlaps_timeOut, hkeep]; rfl)

variable {context : BatchJoinContext}

theorem Kept.persistRegistered (hkept : Kept stored kept)
    {registered : List (RegisteredBatchIntent × Int)}
    (hspares : ∀ entry ∈ registered, ¬ SharesInput kept (joinRecord context entry.1 entry.2)) :
    Kept (persistRegistered stored context registered) kept := by
  induction registered generalizing stored with
  | nil => exact hkept
  | cons entry rest ih =>
    apply ih (hkept.upsert (hspares entry List.mem_cons_self))
    intro later hlater
    exact hspares later (List.mem_cons_of_mem entry hlater)

theorem Kept.withBatchJoin (hkept : Kept stored kept) {α : Type} {joined : JoinRun α}
    (hspares : ∀ entry ∈ joined.registered,
      ¬ SharesInput kept (joinRecord context entry.1 entry.2)) :
    Kept (withBatchJoin stored context joined).2 kept :=
  (hkept.persistRegistered hspares).map fun _ => .inr rfl

theorem Kept.waitForRegisteredIntent (hkept : Kept stored kept) {intent : RegisteredBatchIntent}
    {now : Int} (hspares : ¬ SharesInput kept (joinRecord context intent now)) :
    Kept (waitForRegisteredIntent stored intent context now).2 kept := by
  let record := { recordFromRegisteredIntent context.kind intent context.amountSats now with
    destinationAddress := context.destinationAddress }
  have hop : (IntentOp.stampRegistered record).Spares kept := hspares
  exact kept_intentStep hkept hop

end Kept

def SameOutpoint (left right : PendingBatchOutpointRecord) : Prop :=
  left = right ∨
    ∃ outpoint, parseOutpointRecord left = some outpoint ∧
      parseOutpointRecord right = some outpoint

/-- The two intents have a boarding output or a virtual output in common. -/
def SharesOutpoint (left right : PendingBatchIntentRecord) : Prop :=
  (∃ mine ∈ left.onchainOutpoints, ∃ theirs ∈ right.onchainOutpoints, SameOutpoint mine theirs) ∨
    ∃ mine ∈ left.vtxoOutpoints, ∃ theirs ∈ right.vtxoOutpoints, SameOutpoint mine theirs

/-- Every input of the record is printed from an input of the other one. -/
structure DrawnFrom (record origin : PendingBatchIntentRecord) : Prop where
  onchain : ∀ item ∈ record.onchainOutpoints,
    ∃ outpoint ∈ parsedOnchainOutpoints origin, item = outpointRecord outpoint
  vtxo : ∀ item ∈ record.vtxoOutpoints,
    ∃ outpoint ∈ parsedVtxoOutpoints origin, item = outpointRecord outpoint

section Shared

variable {record origin other : PendingBatchIntentRecord}

@[simp]
theorem parseOutpointRecord_outpointRecord (outpoint : OutPoint) :
    parseOutpointRecord (outpointRecord outpoint) = some outpoint := by
  simp [parseOutpointRecord, outpointRecord]

theorem SharesInput.sharesOutpoint (h : SharesInput record other) :
    SharesOutpoint record other := by
  cases h with
  | inl honchain =>
    obtain ⟨item, hmine, htheirs⟩ := honchain
    exact .inl ⟨item, hmine, item, htheirs, .inl rfl⟩
  | inr hvtxo =>
    obtain ⟨item, hmine, htheirs⟩ := hvtxo
    exact .inr ⟨item, hmine, item, htheirs, .inl rfl⟩

theorem sameOutpoint_of_printed {outpoint : OutPoint} {items : List PendingBatchOutpointRecord}
    (hmem : outpoint ∈ items.filterMap parseOutpointRecord) :
    ∃ theirs ∈ items, SameOutpoint (outpointRecord outpoint) theirs := by
  obtain ⟨theirs, htheirs, hparse⟩ := List.mem_filterMap.mp hmem
  exact ⟨theirs, htheirs, .inr ⟨outpoint, parseOutpointRecord_outpointRecord outpoint, hparse⟩⟩

theorem DrawnFrom.sharesOutpoint (hdrawn : DrawnFrom record origin)
    (hshares : SharesInput other record) : SharesOutpoint other origin := by
  cases hshares with
  | inl honchain =>
    obtain ⟨item, hmine, hitem⟩ := honchain
    obtain ⟨outpoint, hmem, rfl⟩ := hdrawn.onchain item hitem
    exact .inl ⟨_, hmine, sameOutpoint_of_printed hmem⟩
  | inr hvtxo =>
    obtain ⟨item, hmine, hitem⟩ := hvtxo
    obtain ⟨outpoint, hmem, rfl⟩ := hdrawn.vtxo item hitem
    exact .inr ⟨_, hmine, sameOutpoint_of_printed hmem⟩

theorem sharesInput_self (hinputs : pendingIntentOutpointsEmpty record = false) :
    SharesInput record record := by
  simp only [pendingIntentOutpointsEmpty, Bool.and_eq_false_iff] at hinputs
  cases hinputs with
  | inl honchain =>
    obtain ⟨item, hitem⟩ := List.exists_mem_of_ne_nil _ (List.isEmpty_eq_false_iff.mp honchain)
    exact .inl ⟨item, hitem, hitem⟩
  | inr hvtxo =>
    obtain ⟨item, hitem⟩ := List.exists_mem_of_ne_nil _ (List.isEmpty_eq_false_iff.mp hvtxo)
    exact .inr ⟨item, hitem, hitem⟩

theorem DrawnFrom.spares (hdrawn : DrawnFrom record origin)
    (hapart : ¬ SharesOutpoint other origin) : ¬ SharesInput other record :=
  fun hshares => hapart (hdrawn.sharesOutpoint hshares)

end Shared

/-- The intent has inputs, all of them among the given outputs. -/
structure RegistersAmong (onchainOutpoints vtxoOutpoints : List OutPoint)
    (intent : RegisteredBatchIntent) : Prop where
  onchain : ∀ outpoint ∈ intent.onchainOutpoints, outpoint ∈ onchainOutpoints
  vtxo : ∀ outpoint ∈ intent.vtxoOutpoints, outpoint ∈ vtxoOutpoints
  hasInput : intent.onchainOutpoints ≠ [] ∨ intent.vtxoOutpoints ≠ []

/-- A settlement registers nothing and does not complete, or registers one intent of the given
outputs and completes or waits with it. -/
inductive SettleEnds (onchainOutpoints vtxoOutpoints : List OutPoint) :
    JoinRun (Except ClientError (Option JoinBatchOutcome)) → Prop
  | refused (error : ClientError) :
      SettleEnds onchainOutpoints vtxoOutpoints (.unregistered (.error error))
  | noInputs : SettleEnds onchainOutpoints vtxoOutpoints (.unregistered (.ok none))
  | completed (intent : RegisteredBatchIntent) (registeredAt : Int) (txid : Txid)
      (hamong : RegistersAmong onchainOutpoints vtxoOutpoints intent) :
      SettleEnds onchainOutpoints vtxoOutpoints
        { registered := [(intent, registeredAt)], result := .ok (some (.completed txid)) }
  | waiting (intent : RegisteredBatchIntent) (registeredAt : Int)
      (hamong : RegistersAmong onchainOutpoints vtxoOutpoints intent) :
      SettleEnds onchainOutpoints vtxoOutpoints
        { registered := [(intent, registeredAt)], result := .ok (some (.waiting intent)) }

theorem outpoint_mem_of_matchingInputs {found : Except ClientError (List CommitmentInput)}
    {wanted : List OutPoint} {inputs : List CommitmentInput}
    (h : matchingInputs found wanted = .ok inputs) :
    ∀ outpoint ∈ inputs.map CommitmentInput.outpoint, outpoint ∈ wanted := by
  unfold matchingInputs at h
  split at h
  · cases h
    simp
  · cases found with
    | error error => cases h
    | ok all =>
      cases h
      intro outpoint houtpoint
      obtain ⟨input, hinput, rfl⟩ := List.mem_map.mp houtpoint
      exact List.contains_iff_mem.mp (List.mem_filter.mp hinput).2

theorem settleInputs_eq_ok {answers : SettleAnswers}
    {vtxoOutpoints boardingOutpoints : List OutPoint}
    {boardingInputs vtxoInputs : List CommitmentInput}
    (h : settleInputs answers vtxoOutpoints boardingOutpoints = .ok (boardingInputs, vtxoInputs)) :
    matchingInputs answers.boardingInputs boardingOutpoints = .ok boardingInputs ∧
      matchingInputs answers.vtxoInputs vtxoOutpoints = .ok vtxoInputs := by
  obtain ⟨_, -, hrest⟩ := bind_eq_ok.mp h
  obtain ⟨boarding, hboarding, hrest⟩ := bind_eq_ok.mp hrest
  obtain ⟨vtxo, hvtxo, hpair⟩ := bind_eq_ok.mp hrest
  cases hpair
  exact ⟨hboarding, hvtxo⟩

theorem settleEnds_settleVtxos (answers : SettleAnswers)
    (vtxoOutpoints boardingOutpoints : List OutPoint) :
    SettleEnds boardingOutpoints vtxoOutpoints
      (settleVtxos answers vtxoOutpoints boardingOutpoints) := by
  unfold settleVtxos
  cases hinputs : settleInputs answers vtxoOutpoints boardingOutpoints with
  | error error => exact .refused error
  | ok inputs =>
    obtain ⟨boardingInputs, vtxoInputs⟩ := inputs
    obtain ⟨hboarding, hvtxo⟩ := settleInputs_eq_ok hinputs
    simp only
    split
    · exact .noInputs
    · rename_i hnonempty
      have hsome : boardingInputs ≠ [] ∨ vtxoInputs ≠ [] := by
        simpa [-not_and, Decidable.not_and_iff_or_not] using hnonempty
      cases answers.amountAfterIntentFee boardingInputs vtxoInputs with
      | error error => exact .refused error
      | ok amount =>
        have hinput : ¬ ((boardingInputs.map CommitmentInput.outpoint).isEmpty &&
            (vtxoInputs.map CommitmentInput.outpoint).isEmpty) = true := by
          simpa using hnonempty
        simp only [joinNextBatch, if_neg hinput]
        cases answers.join.registration with
        | error error => exact .refused error
        | ok intentId =>
          have hamong : RegistersAmong boardingOutpoints vtxoOutpoints
              { intentId
                onchainOutpoints := boardingInputs.map CommitmentInput.outpoint
                vtxoOutpoints := vtxoInputs.map CommitmentInput.outpoint } :=
            { onchain := outpoint_mem_of_matchingInputs hboarding
              vtxo := outpoint_mem_of_matchingInputs hvtxo
              hasInput := by simpa using hsome }
          cases answers.join.commitment with
          | none => exact .waiting _ _ hamong
          | some txid => exact .completed _ _ txid hamong

/-- The inputs are spent, or the boarding window is over. -/
def Resolved (answers : IntentAnswers) (record : PendingBatchIntentRecord) : Prop :=
  (∃ spendTxid, pendingBatchIntentResolution answers record = .ok (.spent spendTxid)) ∨
    pendingBatchIntentResolution answers record = .ok .boardingWindowExpired

/-- The operator deletes the intent or reports it as missing. -/
def OperatorForgets (answers : CancelAnswers) (record : PendingBatchIntentRecord) : Prop :=
  answers.deleteRegisteredIntent (parsedVtxoOutpoints record) (parsedOnchainOutpoints record) =
      .ok () ∨
    ∃ error, answers.deleteRegisteredIntent (parsedVtxoOutpoints record)
        (parsedOnchainOutpoints record) = .error error ∧
      error.isIdempotentIntentDeleteMiss = true

structure CancelMeets (answers : CancelAnswers) (target : PendingBatchIntentRecord)
    (store : BatchStore) (outcome : Except BatchError BatchJoinResult × BatchStore) : Prop where
  others : ∀ other ∈ store.pendingBatchIntents, ¬ SharesOutpoint other target →
    other ∈ outcome.2.pendingBatchIntents
  dropped : target ∉ outcome.2.pendingBatchIntents →
    Resolved answers.resolution target ∨ OperatorForgets answers target
  failed : ∀ error, outcome.1 = .error error → outcome.2 = store

inductive CancelEnds (answers : CancelAnswers) (record : PendingBatchIntentRecord)
    (store : BatchStore) : Except BatchError BatchJoinResult × BatchStore → Prop
  | failed (error : BatchError) : CancelEnds answers record store (.error error, store)
  | resolved (hresolved : Resolved answers.resolution record) :
      CancelEnds answers record store
        (.ok completedWithoutTxid, dropPendingIntentRecord store record)
  | deleted (hforgets : OperatorForgets answers record) :
      CancelEnds answers record store
        (.ok completedWithoutTxid, forgetDeletedIntent store record .stillPending)

section Cancel

variable {record : PendingBatchIntentRecord} {store : BatchStore}

theorem resolved_of_ne_stillPending {answers : IntentAnswers}
    {resolution : PendingBatchIntentResolution}
    (h : pendingBatchIntentResolution answers record = .ok resolution)
    (hne : resolution ≠ .stillPending) : Resolved answers record := by
  cases resolution with
  | stillPending => exact absurd rfl hne
  | spent spendTxid => exact .inl ⟨spendTxid, h⟩
  | boardingWindowExpired => exact .inr h

theorem cancelEnds_cancelRecord (answers : CancelAnswers) :
    CancelEnds answers record store (cancelRecord answers record store) := by
  unfold cancelRecord
  cases hresolution : pendingBatchIntentResolution answers.resolution record with
  | error text => exact .failed _
  | ok resolution =>
    by_cases hpending : resolution = .stillPending
    · subst hpending
      simp only [ne_eq, not_true_eq_false, if_false]
      split
      · exact .failed _
      · cases hdelete : answers.deleteRegisteredIntent (parsedVtxoOutpoints record)
          (parsedOnchainOutpoints record) with
        | ok done => exact .deleted (.inl hdelete)
        | error error =>
          simp only
          split
          · rename_i hmiss
            exact .deleted (.inr ⟨error, hdelete, hmiss⟩)
          · exact .failed _
    · simp only [ne_eq, hpending, not_false_eq_true, if_true]
      exact .resolved (resolved_of_ne_stillPending hresolution hpending)

theorem pendingBatchIntents_forgetDeletedIntent (resolution : PendingBatchIntentResolution) :
    (forgetDeletedIntent store record resolution).pendingBatchIntents =
      (dropPendingIntentRecord store record).pendingBatchIntents := by
  unfold forgetDeletedIntent
  dsimp only
  split <;> rfl

theorem mem_dropPendingIntentRecord {other : PendingBatchIntentRecord}
    (hmem : other ∈ store.pendingBatchIntents) (hapart : ¬ SharesOutpoint other record) :
    other ∈ (dropPendingIntentRecord store record).pendingBatchIntents := by
  apply List.mem_filter.mpr
  refine ⟨hmem, ?_⟩
  rw [Bool.not_eq_true', ← Bool.not_eq_true]
  intro hoverlap
  have hshares : SharesInput other record := pendingBatchIntentsOverlap_iff.mp hoverlap
  exact hapart hshares.sharesOutpoint

variable {outcome : Except BatchError BatchJoinResult × BatchStore} {answers : CancelAnswers}

theorem CancelEnds.others (hends : CancelEnds answers record store outcome)
    {other : PendingBatchIntentRecord} (hmem : other ∈ store.pendingBatchIntents)
    (hapart : ¬ SharesOutpoint other record) : other ∈ outcome.2.pendingBatchIntents := by
  cases hends with
  | failed error => exact hmem
  | resolved hresolved => exact mem_dropPendingIntentRecord hmem hapart
  | deleted hforgets =>
    rw [pendingBatchIntents_forgetDeletedIntent]
    exact mem_dropPendingIntentRecord hmem hapart

theorem CancelEnds.meets (hends : CancelEnds answers record store outcome)
    (hstored : record ∈ store.pendingBatchIntents) :
    CancelMeets answers record store outcome where
  others _ hmem hapart := hends.others hmem hapart
  dropped hgone := by
    cases hends with
    | failed error => exact absurd hstored hgone
    | resolved hresolved => exact .inl hresolved
    | deleted hforgets => exact .inr hforgets
  failed error herror := by
    cases hends with
    | failed => rfl
    | resolved | deleted => cases herror

end Cancel

/-! ## Retrying -/

/-- The redemption with which a collaborative exit is retried. -/
def retryRedeem (answers : RetryAnswers) (record : PendingBatchIntentRecord) :
    JoinRun (Except ClientError JoinBatchOutcome) :=
  collaborativeRedeemExcludingVtxos answers.exit.redeem record.amountSats
    answers.exit.spendLockedOutpoints

/-- One of the spend checks of a retry resolves the record. -/
def RetryResolves (answers : RetryAnswers) (record : PendingBatchIntentRecord) : Prop :=
  Resolved answers.resolution record ∨ Resolved answers.cancel.resolution record ∨
    Resolved answers.beforeJoin record

def RetryJoins (answers : RetryAnswers) (record : PendingBatchIntentRecord) : Prop :=
  match record.kind with
  | .collaborativeExit => ∃ txid, (retryRedeem answers record).result = .ok (.completed txid)
  | _ => ∃ txid, (retrySettle answers record).result = .ok (some (.completed txid))

/-- The new exit registers an input of the other intent, or the operator refuses it for an
input that is already registered. -/
def ExitContends (answers : RetryAnswers) (record other : PendingBatchIntentRecord) : Prop :=
  (∃ entry ∈ (retryRedeem answers record).registered,
      SharesInput other
        (recordFromRegisteredIntent .collaborativeExit entry.1 record.amountSats entry.2)) ∨
    ∃ error, (retryRedeem answers record).result = .error error ∧
      error.isDuplicatedInput = true

/-- What a retry of the record may do to another intent. -/
def RetryLeaves (answers : RetryAnswers) (record other : PendingBatchIntentRecord)
    (stored : List PendingBatchIntentRecord) : Prop :=
  match record.kind with
  | .board | .recover | .renew => Kept stored other
  | .migrate => other ∈ stored
  | .collaborativeExit =>
    Kept stored other ∨ (∃ position, Resolved (answers.exit.resolutions position) other) ∨
      ExitContends answers record other

/-- What a retry of the target leaves of the store, and what its status stands for. -/
structure RetryMeets (answers : RetryAnswers) (target : PendingBatchIntentRecord)
    (store : BatchStore) (outcome : Except BatchError BatchJoinResult × BatchStore) : Prop where
  others : ∀ other ∈ store.pendingBatchIntents, ¬ SharesOutpoint other target →
    RetryLeaves answers target other outcome.2.pendingBatchIntents
  waiting : target.kind ≠ .collaborativeExit → ∀ result, outcome.1 = .ok result →
    result.status = .waitingForOperator →
    ∃ covering ∈ outcome.2.pendingBatchIntents, result.pendingIntent = some covering ∧
      SharesOutpoint covering target
  completed : target.kind ≠ .migrate → ∀ result, outcome.1 = .ok result →
    result.status = .completed → RetryResolves answers target ∨ RetryJoins answers target

variable (kind : PendingBatchIntentKind)

section Retry

variable {answers : RetryAnswers} {record other : PendingBatchIntentRecord} {store : BatchStore}
variable {stored : List PendingBatchIntentRecord}

theorem retryLeaves_of_mem (hmem : other ∈ stored) : RetryLeaves answers record other stored := by
  unfold RetryLeaves
  split
  · exact .inl hmem
  · exact .inl hmem
  · exact .inl hmem
  · exact hmem
  · exact .inl (.inl hmem)

theorem RetryMeets.mono {middle : BatchStore}
    {outcome : Except BatchError BatchJoinResult × BatchStore}
    (hmeets : RetryMeets answers record middle outcome)
    (hmiddle : ∀ other ∈ store.pendingBatchIntents, ¬ SharesOutpoint other record →
      other ∈ middle.pendingBatchIntents) : RetryMeets answers record store outcome where
  others other hmem hapart := hmeets.others other (hmiddle other hmem hapart) hapart
  waiting := hmeets.waiting
  completed := hmeets.completed

theorem retryMeets_error {error : BatchError} {after : BatchStore}
    (hothers : ∀ other ∈ store.pendingBatchIntents, ¬ SharesOutpoint other record →
      RetryLeaves answers record other after.pendingBatchIntents) :
    RetryMeets answers record store (.error error, after) where
  others := hothers
  waiting _ _ h := by cases h
  completed _ _ h := by cases h

theorem retryMeets_drop (hresolves : RetryResolves answers record) :
    RetryMeets answers record store
      (.ok completedWithoutTxid, dropPendingIntentRecord store record) where
  others _ hmem hapart := retryLeaves_of_mem (mem_dropPendingIntentRecord hmem hapart)
  waiting _ result h hstatus := by
    cases h
    cases hstatus
  completed _ _ _ _ := .inl hresolves

variable {intent : RegisteredBatchIntent}

theorem drawnFrom_registersAmong
    (hamong : RegistersAmong (parsedOnchainOutpoints record) (parsedVtxoOutpoints record) intent)
    (context : BatchJoinContext) (registeredAt : Int) :
    DrawnFrom (joinRecord context intent registeredAt) record where
  onchain item hitem := by
    obtain ⟨outpoint, hmem, rfl⟩ := List.mem_map.mp hitem
    exact ⟨outpoint, hamong.onchain outpoint hmem, rfl⟩
  vtxo item hitem := by
    obtain ⟨outpoint, hmem, rfl⟩ := List.mem_map.mp hitem
    exact ⟨outpoint, hamong.vtxo outpoint hmem, rfl⟩

theorem drawnFrom_duplicatedInput (amountSats : Nat) (now : Int) :
    DrawnFrom (duplicatedInputWaitingRecord kind (parsedOnchainOutpoints record)
      (parsedVtxoOutpoints record) amountSats now) record where
  onchain item hitem := by
    obtain ⟨outpoint, hmem, rfl⟩ := List.mem_map.mp hitem
    exact ⟨outpoint, hmem, rfl⟩
  vtxo item hitem := by
    obtain ⟨outpoint, hmem, rfl⟩ := List.mem_map.mp hitem
    exact ⟨outpoint, hmem, rfl⟩

/-- The time-out of a registered intent with inputs shows a stored intent that shares one. -/
theorem waitForRegisteredIntent_covers (stored : List PendingBatchIntentRecord)
    (hinput : intent.onchainOutpoints ≠ [] ∨ intent.vtxoOutpoints ≠ [])
    (context : BatchJoinContext) (now : Int) :
    ∃ covering ∈ (waitForRegisteredIntent stored intent context now).2,
      (waitForRegisteredIntent stored intent context now).1 = waitingJoinResult (some covering) ∧
      SharesInput covering (joinRecord context intent now) := by
  let target := { recordFromRegisteredIntent context.kind intent context.amountSats now with
    destinationAddress := context.destinationAddress }
  let after := stampRegisteredIntentTimedOut stored target
  have hexists : ∃ covering ∈ after, SharesInput covering target := by
    simp only [after, stampRegisteredIntentTimedOut]
    split
    · rename_i hstamped
      obtain ⟨existing, hmem, hcondition⟩ := List.any_eq_true.mp hstamped
      have hoverlap : pendingBatchIntentsOverlap existing target = true :=
        (Bool.and_eq_true_iff.mp hcondition).1
      have himage := List.mem_map_of_mem (f := fun stored =>
        if pendingBatchRecordOverlapsOutpoints stored target.onchainOutpoints
          target.vtxoOutpoints then timeOut stored else stored) hmem
      refine ⟨_, himage, ?_⟩
      rw [(restamps_stamp target.onchainOutpoints target.vtxoOutpoints).sharesInput_iff]
      exact pendingBatchIntentsOverlap_iff.mp hoverlap
    · refine ⟨{ target with lifecyclePhase := .timedOut }, List.mem_append_right _ ?_, ?_⟩
      · exact List.mem_singleton_self _
      · have hself : pendingIntentOutpointsEmpty target = false := by
          rw [pendingIntentOutpointsEmpty, Bool.and_eq_false_iff, List.isEmpty_eq_false_iff,
            List.isEmpty_eq_false_iff]
          exact hinput.imp (mt List.map_eq_nil_iff.mp) (mt List.map_eq_nil_iff.mp)
        exact sharesInput_self hself
  cases hfind : findOverlappingPendingIntent after intent.onchainOutpoints
    intent.vtxoOutpoints with
  | none =>
    obtain ⟨covering, hmem, hshares⟩ := hexists
    have hnone := List.find?_eq_none.mp hfind covering hmem
    exact absurd (pendingBatchIntentsOverlap_iff.mpr hshares) hnone
  | some covering =>
    have hoverlap := List.find?_some hfind
    have hshares : SharesInput covering target := pendingBatchIntentsOverlap_iff.mp hoverlap
    refine ⟨covering, List.mem_of_find?_eq_some hfind, ?_, hshares⟩
    change waitingJoinResult (findOverlappingPendingIntent after _ _) = _
    rw [hfind]

theorem retryLeaves_of_kept (hkind : record.kind ≠ .migrate) (hkept : Kept stored other) :
    RetryLeaves answers record other stored := by
  unfold RetryLeaves
  split
  · exact hkept
  · exact hkept
  · exact hkept
  · contradiction
  · exact .inl hkept

theorem retryJoins_of_settle (hkind : record.kind ≠ .collaborativeExit) {txid : Txid}
    (hsettle : (retrySettle answers record).result = .ok (some (.completed txid))) :
    RetryJoins answers record := by
  unfold RetryJoins
  split
  · contradiction
  · exact ⟨txid, hsettle⟩

theorem offchainAddress_of_settleVtxos_nil {answers : SettleAnswers} {error : ClientError}
    (h : (settleVtxos answers [] []).result = .error error) :
    answers.offchainAddress = .error error := by
  cases haddress : answers.offchainAddress with
  | error failure =>
    have hinputs : settleInputs answers [] [] = .error failure := by
      simp [settleInputs, haddress, bind, Except.bind]
    rw [settleVtxos, hinputs] at h
    cases h
    rfl
  | ok done =>
    have hinputs : settleInputs answers [] [] = .ok ([], []) := by
      simp [settleInputs, haddress, matchingInputs, bind, Except.bind, pure, Except.pure]
    rw [settleVtxos, hinputs] at h
    cases h

theorem kept_promote (hmem : other ∈ stored) :
    Kept (promoteStrandedProcessingIntents stored) other :=
  .inr (List.mem_map_of_mem hmem)

/-- A refusal for a duplicated input stores a record with the retried outputs. -/
theorem retryMeets_duplicatedInput (hmigrate : record.kind ≠ .migrate)
    (hinputs : parsedOnchainOutpoints record ≠ [] ∨ parsedVtxoOutpoints record ≠ [])
    {joined : List PendingBatchIntentRecord}
    (hkept : ∀ other ∈ store.pendingBatchIntents, Kept joined other) :
    RetryMeets answers record store
      (.ok (batchJoinDuplicatedInputResult joined record.kind (parsedOnchainOutpoints record)
          (parsedVtxoOutpoints record) record.amountSats answers.now).1,
        { store with
          pendingBatchIntents := (batchJoinDuplicatedInputResult joined record.kind
            (parsedOnchainOutpoints record) (parsedVtxoOutpoints record) record.amountSats
            answers.now).2 }) := by
  let waiting := duplicatedInputWaitingRecord record.kind (parsedOnchainOutpoints record)
    (parsedVtxoOutpoints record) record.amountSats answers.now
  have hdrawn : DrawnFrom waiting record := drawnFrom_duplicatedInput _ _ _
  have hnonempty : pendingIntentOutpointsEmpty waiting = false := by
    rw [pendingIntentOutpointsEmpty, Bool.and_eq_false_iff, List.isEmpty_eq_false_iff,
      List.isEmpty_eq_false_iff]
    exact hinputs.imp (mt List.map_eq_nil_iff.mp) (mt List.map_eq_nil_iff.mp)
  have hresult : batchJoinDuplicatedInputResult joined record.kind
      (parsedOnchainOutpoints record) (parsedVtxoOutpoints record) record.amountSats
      answers.now =
        (waitingJoinResult (some waiting), persistAndWaitingJoinResult joined waiting) := by
    simp [batchJoinDuplicatedInputResult, waiting, hnonempty]
  rw [hresult]
  refine ⟨?_, ?_, ?_⟩
  · intro other hmem hapart
    have hop : (IntentOp.persistAndWaiting waiting).Spares other := hdrawn.spares hapart
    exact retryLeaves_of_kept hmigrate (kept_intentStep (hkept other hmem) hop)
  · intro _ result h _
    cases h
    refine ⟨waiting, ?_, rfl, hdrawn.sharesOutpoint (sharesInput_self hnonempty)⟩
    rw [persistAndWaitingJoinResult, hnonempty]
    exact List.mem_append_right _ (List.mem_singleton_self _)
  · intro _ result h hstatus
    cases h
    cases hstatus

theorem parsed_ne_nil_of_duplicatedInput {error : ClientError}
    (haddress : ∀ error, answers.settle.offchainAddress = .error error →
      error.isDuplicatedInput = false)
    (hresult : (retrySettle answers record).result = .error error)
    (hduplicated : error.isDuplicatedInput = true) :
    parsedOnchainOutpoints record ≠ [] ∨ parsedVtxoOutpoints record ≠ [] := by
  by_contra hnil
  rw [not_or, not_not, not_not] at hnil
  rw [retrySettle, hnil.1, hnil.2] at hresult
  have hfalse := haddress error (offchainAddress_of_settleVtxos_nil hresult)
  rw [hduplicated] at hfalse
  cases hfalse

/-- Retrying a record with its own outputs. -/
theorem retryMeets_retrySettledRecord (hexit : record.kind ≠ .collaborativeExit)
    (hmigrate : record.kind ≠ .migrate)
    (haddress : ∀ error, answers.settle.offchainAddress = .error error →
      error.isDuplicatedInput = false) :
    RetryMeets answers record store (retrySettledRecord answers record store) := by
  have hends : SettleEnds (parsedOnchainOutpoints record) (parsedVtxoOutpoints record)
      (retrySettle answers record) := settleEnds_settleVtxos _ _ _
  let context : BatchJoinContext :=
    { kind := record.kind, amountSats := record.amountSats, destinationAddress := none }
  unfold retrySettledRecord
  generalize hrun : retrySettle answers record = joined at hends
  cases hends with
  | refused error =>
    simp only [withBatchJoin, JoinRun.unregistered, persistRegistered, List.foldl_nil,
      mapSettleError]
    split
    · rename_i hduplicated
      have hinputs := parsed_ne_nil_of_duplicatedInput haddress (by rw [hrun]; rfl) hduplicated
      exact retryMeets_duplicatedInput hmigrate hinputs fun other hmem => kept_promote hmem
    · apply retryMeets_error
      intro other hmem _
      exact retryLeaves_of_kept hmigrate (kept_promote hmem)
  | noInputs =>
    apply retryMeets_error
    intro other hmem _
    exact retryLeaves_of_kept hmigrate (kept_promote hmem)
  | completed intent registeredAt txid hamong =>
    refine ⟨?_, ?_, ?_⟩
    · intro other hmem hapart
      have hspares := (drawnFrom_registersAmong hamong context registeredAt).spares hapart
      let joined : JoinRun (Except ClientError (Option JoinBatchOutcome)) :=
        { registered := [(intent, registeredAt)], result := .ok (some (.completed txid)) }
      have hjoined : Kept (withBatchJoin store.pendingBatchIntents context joined).2
          other := by
        apply Kept.withBatchJoin (.inl hmem)
        simpa [joined] using hspares
      have happart := (drawnFrom_duplicatedInput record.kind record.amountSats
        answers.now).spares hapart
      rw [← pendingBatchIntentsOverlap_iff, Bool.not_eq_true] at happart
      have hop : (IntentOp.remove ((parsedOnchainOutpoints record).map outpointRecord)
          ((parsedVtxoOutpoints record).map outpointRecord)).Spares other := happart
      exact retryLeaves_of_kept hmigrate (kept_intentStep hjoined hop)
    · intro _ result h hstatus
      cases h
      cases hstatus
    · intro _ result _ _
      exact .inr (retryJoins_of_settle hexit (by rw [hrun]))
  | waiting intent registeredAt hamong =>
    let joined : JoinRun (Except ClientError (Option JoinBatchOutcome)) :=
      { registered := [(intent, registeredAt)], result := .ok (some (.waiting intent)) }
    obtain ⟨covering, hcovering, hresult, hshares⟩ := waitForRegisteredIntent_covers
      (withBatchJoin store.pendingBatchIntents context joined).2 hamong.hasInput context
      answers.now
    refine ⟨?_, ?_, ?_⟩
    · intro other hmem hapart
      apply retryLeaves_of_kept hmigrate
      apply Kept.waitForRegisteredIntent
      · apply Kept.withBatchJoin (.inl hmem)
        simpa using (drawnFrom_registersAmong hamong context registeredAt).spares hapart
      · exact (drawnFrom_registersAmong hamong context answers.now).spares hapart
    · intro _ result h _
      cases h
      refine ⟨covering, hcovering, ?_, (drawnFrom_registersAmong hamong context
        answers.now).sharesOutpoint hshares⟩
      exact congrArg BatchJoinResult.pendingIntent hresult
    · intro _ result h hstatus
      cases h
      have hwaiting := congrArg BatchJoinResult.status hresult
      have himpossible : BatchJoinStatus.waitingForOperator = .completed :=
        hwaiting.symm.trans hstatus
      cases himpossible

theorem migrate_of_mem {answers : MigrateAnswers} {migration : MigrationStore}
    (hmem : other ∈ migration.pendingBatchIntents) :
    (migrateDeprecatedSignerVtxos answers migration).2 = migration := by
  have hnonempty : ¬ migration.pendingBatchIntents.isEmpty = true := by
    rw [List.isEmpty_iff]
    exact List.ne_nil_of_mem hmem
  rw [migrateDeprecatedSignerVtxos, if_pos hnonempty]
  cases answers.autonomousMode with
  | true => rfl
  | false =>
    cases answers.deprecatedSignerStatus with
    | error | ok => rfl

theorem retryMeets_migrate (hkind : record.kind = .migrate) :
    RetryMeets answers record store (retryPendingRecord answers record store) := by
  have hothers : ∀ other ∈ store.pendingBatchIntents, RetryLeaves answers record other
      (migrateDeprecatedSignerVtxos answers.migrate
        ⟨store.pendingBatchIntents, answers.operatorIdentity⟩).2.pendingBatchIntents := by
    intro other hmem
    apply retryLeaves_of_mem
    rwa [migrate_of_mem hmem]
  simp only [retryPendingRecord, hkind]
  cases hrun : migrateDeprecatedSignerVtxos answers.migrate
      ⟨store.pendingBatchIntents, answers.operatorIdentity⟩ with
  | mk outcome after =>
    rw [hrun] at hothers
    cases outcome with
    | error error => exact retryMeets_error fun other hmem _ => hothers other hmem
    | ok done =>
      refine ⟨fun other hmem _ => hothers other hmem, ?_, ?_⟩
      · intro _ result h hstatus
        simp only [migrateRetryJoinResult] at h
        split at h
        · rename_i hsome
          obtain ⟨covering, hfind⟩ := Option.isSome_iff_exists.mp hsome
          rw [hfind] at h
          cases h
          have hoverlap := List.find?_some hfind
          have hshares : SharesInput covering (duplicatedInputWaitingRecord .migrate
              (parsedOnchainOutpoints record) (parsedVtxoOutpoints record) 0 0) :=
            pendingBatchIntentsOverlap_iff.mp hoverlap
          exact ⟨covering, List.mem_of_find?_eq_some hfind, rfl,
            (drawnFrom_duplicatedInput _ _ _).sharesOutpoint hshares⟩
        · split at h
          · cases h
          · cases h
            cases hstatus
      · intro hne
        exact absurd hkind hne

/-! ## Retrying a collaborative exit -/

theorem resolution_timeOut (answers : IntentAnswers) (record : PendingBatchIntentRecord) :
    pendingBatchIntentResolution answers (timeOut record) =
      pendingBatchIntentResolution answers record := by
  have hkind : (timeOut record).kind = record.kind := by
    unfold timeOut
    split <;> rfl
  simp [pendingBatchIntentResolution, resolveOnchainPendingIntent, resolveVtxoPendingIntent, hkind]

/-- The loop of a reconcile keeps an intent that none of its lookups resolves. -/
theorem Kept.reconcileLoop {answers : Nat → IntentAnswers}
    {pending remaining : List PendingBatchIntentRecord} {finalizedTxid : Option String}
    (hkept : Kept pending other) (hpending : ∀ position, ¬ Resolved (answers position) other)
    (hloop : reconcileLoop answers 0 [] none pending = .ok (remaining, finalizedTxid)) :
    Kept remaining other := by
  have hnotFails : ¬ LookupFails answers pending := by
    rw [← @reconcileLoop_eq_error_iff _ [] _ none]
    intro hfails
    obtain ⟨error, herror⟩ := hfails
    rw [hloop] at herror
    cases herror
  have hstays : ∀ record ∈ pending,
      (∀ position, pendingBatchIntentResolution (answers position) record =
        pendingBatchIntentResolution (answers position) other) → record ∈ remaining := by
    intro record hmem hsame
    apply (mem_of_reconcileLoop hloop record).mpr
    obtain ⟨position, hposition⟩ := List.mem_iff_getElem?.mp hmem
    refine .inr ⟨position, hposition, ?_⟩
    cases hresolution : pendingBatchIntentResolution (answers position) record with
    | error error => exact absurd ⟨position, record, error, hposition, hresolution⟩ hnotFails
    | ok resolution =>
      by_contra hne
      rw [hsame] at hresolution
      exact hpending position
        (resolved_of_ne_stillPending hresolution fun heq => hne (by rw [heq]))
  cases hkept with
  | inl hmem => exact .inl (hstays other hmem fun _ => rfl)
  | inr hmem => exact .inr (hstays _ hmem fun position => resolution_timeOut _ other)

theorem kept_reconcile {answers : Nat → IntentAnswers}
    (hmem : other ∈ stored) (hpending : ∀ position, ¬ Resolved (answers position) other) :
    Kept (reconcilePendingBatchIntents answers stored).2 other := by
  have htimedOut := kept_promote hmem
  unfold reconcilePendingBatchIntents
  dsimp only
  split
  · exact htimedOut
  · cases hloop : reconcileLoop answers 0 [] none (promoteStrandedProcessingIntents stored) with
    | error error => exact htimedOut
    | ok result => exact htimedOut.reconcileLoop hpending hloop

/-- A redemption is refused, or registers one intent with inputs and completes or waits. -/
inductive RedeemEnds : JoinRun (Except ClientError JoinBatchOutcome) → Prop
  | refused (error : ClientError) : RedeemEnds (.unregistered (.error error))
  | completed (intent : RegisteredBatchIntent) (registeredAt : Int) (txid : Txid)
      (hinput : ¬ (intent.onchainOutpoints.isEmpty && intent.vtxoOutpoints.isEmpty) = true) :
      RedeemEnds { registered := [(intent, registeredAt)], result := .ok (.completed txid) }
  | waiting (intent : RegisteredBatchIntent) (registeredAt : Int)
      (hinput : ¬ (intent.onchainOutpoints.isEmpty && intent.vtxoOutpoints.isEmpty) = true) :
      RedeemEnds { registered := [(intent, registeredAt)], result := .ok (.waiting intent) }

theorem redeemEnds_joinNextBatch (answers : JoinAnswers)
    (onchainInputs vtxoInputs : List OutPoint) :
    RedeemEnds (joinNextBatch answers onchainInputs vtxoInputs) := by
  unfold joinNextBatch
  split
  · exact .refused _
  · rename_i hinput
    cases answers.registration with
    | error error => exact .refused error
    | ok intentId =>
      cases answers.commitment with
      | none => exact .waiting _ _ hinput
      | some txid => exact .completed _ _ txid hinput

theorem redeemEnds_collaborativeRedeem (answers : RedeemAnswers) (toAmount : Nat)
    (excludeVtxos : List OutPoint) :
    RedeemEnds (collaborativeRedeemExcludingVtxos answers toAmount excludeVtxos) := by
  unfold collaborativeRedeemExcludingVtxos
  cases redeemInputs answers toAmount excludeVtxos with
  | error error => exact .refused error
  | ok inputs => exact redeemEnds_joinNextBatch _ _ _

theorem RedeemEnds.registered {joined : JoinRun (Except ClientError JoinBatchOutcome)}
    (hends : RedeemEnds joined)
    (h : joined.result = .ok (.waiting intent)) :
    ∃ registeredAt, (intent, registeredAt) ∈ joined.registered := by
  cases hends with
  | refused | completed => cases h
  | waiting other registeredAt hinput =>
    cases h
    exact ⟨registeredAt, List.mem_singleton_self _⟩

theorem kept_joinCollaborativeExit (destinationAddress : String) (baselineSats : Nat)
    (hkept : Kept store.pendingBatchIntents other)
    (hcontends : ¬ ExitContends answers record other) :
    Kept (joinCollaborativeExit answers.exit destinationAddress record.amountSats baselineSats
      store).2.pendingBatchIntents other := by
  let context : BatchJoinContext :=
    { kind := .collaborativeExit
      amountSats := record.amountSats
      destinationAddress := some destinationAddress }
  have hspares : ∀ entry ∈ (retryRedeem answers record).registered,
      ¬ SharesInput other (joinRecord context entry.1 entry.2) :=
    fun entry hentry hshares => hcontends (.inl ⟨entry, hentry, hshares⟩)
  have hjoined : Kept (withBatchJoin store.pendingBatchIntents context
      (retryRedeem answers record)).2 other := hkept.withBatchJoin hspares
  change Kept (joinCollaborativeExit _ _ _ _ _).2.pendingBatchIntents other
  unfold joinCollaborativeExit
  simp only [withBatchJoin]
  cases hresult : (collaborativeRedeemExcludingVtxos answers.exit.redeem record.amountSats
    answers.exit.spendLockedOutpoints).result with
  | error error =>
    have hduplicated : error.isDuplicatedInput ≠ true :=
      fun hduplicated => hcontends (.inr ⟨error, hresult, hduplicated⟩)
    simp only [mapSettleError, if_neg hduplicated]
    exact hjoined
  | ok outcome =>
    cases outcome with
    | completed txid => exact hjoined
    | waiting intent =>
      obtain ⟨registeredAt, hregistered⟩ :=
        (redeemEnds_collaborativeRedeem _ _ _).registered hresult
      exact hjoined.waitForRegisteredIntent (hspares _ hregistered)

variable {result : BatchJoinResult}

theorem redeem_of_joinCollaborativeExit_completed {destinationAddress : String} {baselineSats : Nat}
    (h : (joinCollaborativeExit answers.exit destinationAddress record.amountSats baselineSats
      store).1 = .ok result)
    (hstatus : result.status = .completed) :
    ∃ txid, (retryRedeem answers record).result = .ok (.completed txid) := by
  unfold joinCollaborativeExit at h
  simp only [withBatchJoin] at h
  cases hresult : (collaborativeRedeemExcludingVtxos answers.exit.redeem record.amountSats
    answers.exit.spendLockedOutpoints).result with
  | error error =>
    simp only [hresult, mapSettleError] at h
    split at h
    · cases h
      cases hstatus
    · cases h
  | ok outcome =>
    cases outcome with
    | completed txid => exact ⟨txid, hresult⟩
    | waiting intent =>
      simp only [hresult] at h
      cases h
      cases hstatus

theorem existingPendingBatchJoinResult_snd (answers : Nat → IntentAnswers)
    (stored : List PendingBatchIntentRecord) (onchainOutpoints vtxoOutpoints : List OutPoint) :
    (existingPendingBatchJoinResult answers stored onchainOutpoints vtxoOutpoints).2 =
      (reconcilePendingBatchIntents answers stored).2 := by
  unfold existingPendingBatchJoinResult
  cases reconcilePendingBatchIntents answers stored with
  | mk outcome after =>
    cases outcome with
    | error | ok => rfl

theorem status_of_existingPendingBatchJoinResult {answers : Nat → IntentAnswers}
    {onchainOutpoints vtxoOutpoints : List OutPoint}
    (h : (existingPendingBatchJoinResult answers stored onchainOutpoints vtxoOutpoints).1 =
      .ok (some result)) : result.status = .waitingForOperator := by
  unfold existingPendingBatchJoinResult at h
  cases hreconcile : reconcilePendingBatchIntents answers stored with
  | mk outcome after =>
    rw [hreconcile] at h
    cases outcome with
    | error error => cases h
    | ok finalizedTxid =>
      have hsome := Except.ok.inj h
      obtain ⟨overlap, -, rfl⟩ := Option.map_eq_some_iff.mp hsome
      rfl

theorem kept_collaborativeExit (destinationAddress : String)
    (hmem : other ∈ store.pendingBatchIntents)
    (hpending : ∀ position, ¬ Resolved (answers.exit.resolutions position) other)
    (hcontends : ¬ ExitContends answers record other) :
    Kept (collaborativeExit answers.exit destinationAddress (some record.amountSats)
      store).2.pendingBatchIntents other := by
  unfold collaborativeExit
  split
  · exact .inl hmem
  · have hchecked := kept_reconcile hmem hpending
    rw [← existingPendingBatchJoinResult_snd _ _ []
      (unspentSnapshotOutpoints answers.exit.snapshot)] at hchecked
    cases hexisting : existingPendingBatchJoinResult answers.exit.resolutions
      store.pendingBatchIntents [] (unspentSnapshotOutpoints answers.exit.snapshot) with
    | mk existing intents =>
      rw [hexisting] at hchecked
      cases existing with
      | error error => exact hchecked
      | ok overlap =>
        cases overlap with
        | some waiting => exact hchecked
        | none =>
          simp only
          cases answers.exit.parseOnchainAddress destinationAddress with
          | error text => exact hchecked
          | ok parsed =>
            cases answers.exit.netCooperativeSpendableSats with
            | error error => exact hchecked
            | ok baselineSats =>
              exact kept_joinCollaborativeExit destinationAddress baselineSats
                hchecked hcontends

theorem redeem_of_collaborativeExit_completed {destinationAddress : String}
    (h : (collaborativeExit answers.exit destinationAddress (some record.amountSats) store).1 =
      .ok result)
    (hstatus : result.status = .completed) :
    ∃ txid, (retryRedeem answers record).result = .ok (.completed txid) := by
  unfold collaborativeExit at h
  split at h
  · cases h
  · cases hexisting : existingPendingBatchJoinResult answers.exit.resolutions
      store.pendingBatchIntents [] (unspentSnapshotOutpoints answers.exit.snapshot) with
    | mk existing intents =>
      rw [hexisting] at h
      cases existing with
      | error error => cases h
      | ok overlap =>
        cases overlap with
        | some waiting =>
          cases h
          have hwaiting := status_of_existingPendingBatchJoinResult
            (congrArg Prod.fst hexisting)
          rw [hwaiting] at hstatus
          cases hstatus
        | none =>
          simp only at h
          split at h
          · cases h
          · split at h
            · cases h
            · exact redeem_of_joinCollaborativeExit_completed h hstatus

theorem retryMeets_collaborativeExit (hkind : record.kind = .collaborativeExit) :
    RetryMeets answers record store (retryPendingRecord answers record store) := by
  simp only [retryPendingRecord, hkind]
  cases record.destinationAddress with
  | none => exact retryMeets_error fun other hmem _ => retryLeaves_of_mem hmem
  | some destinationAddress =>
    refine ⟨?_, ?_, ?_⟩
    · intro other hmem _
      rw [RetryLeaves, hkind]
      by_cases hresolved : ∃ position, Resolved (answers.exit.resolutions position) other
      · exact .inr (.inl hresolved)
      · by_cases hcontends : ExitContends answers record other
        · exact .inr (.inr hcontends)
        · have hpending := not_exists.mp hresolved
          exact .inl (kept_collaborativeExit destinationAddress hmem hpending hcontends)
    · intro hne
      exact absurd hkind hne
    · intro _ result h hstatus
      apply Or.inr
      rw [RetryJoins, hkind]
      exact redeem_of_collaborativeExit_completed h hstatus

section

variable (haddress : ∀ error, answers.settle.offchainAddress = .error error →
  error.isDuplicatedInput = false)
include haddress

theorem retryMeets_retryPendingRecord :
    RetryMeets answers record store (retryPendingRecord answers record store) := by
  have hsettled : record.kind ≠ .collaborativeExit → record.kind ≠ .migrate →
      RetryMeets answers record store (retrySettledRecord answers record store) :=
    fun hexit hmigrate => retryMeets_retrySettledRecord hexit hmigrate haddress
  cases hkind : record.kind with
  | collaborativeExit => exact retryMeets_collaborativeExit hkind
  | migrate => exact retryMeets_migrate hkind
  | board | recover | renew => simpa [retryPendingRecord, hkind] using hsettled

theorem retryMeets_ifStillPending :
    RetryMeets answers record store
      (retryPendingRecordIfStillPending answers record store) := by
  unfold retryPendingRecordIfStillPending
  cases hresolution : pendingBatchIntentResolution answers.beforeJoin record with
  | error text => exact retryMeets_error fun other hmem _ => retryLeaves_of_mem hmem
  | ok resolution =>
    simp only
    split
    · rename_i hne
      exact retryMeets_drop (.inr (.inr (resolved_of_ne_stillPending hresolution hne)))
    · exact retryMeets_retryPendingRecord haddress

end

variable {params : PendingBatchIntentActionParams}

section

variable (hfound : findExactPendingIntent store.pendingBatchIntents params = some record)
include hfound

section

variable (haddress : ∀ error, answers.settle.offchainAddress = .error error →
  error.isDuplicatedInput = false)
include haddress

theorem retryMeets_afterDeleting :
    RetryMeets answers record store
      (retryAfterDeletingOperatorIntent answers record params store) := by
  have hends : CancelEnds answers.cancel record store
      (cancelPendingBatchIntent answers.cancel params store) := by
    rw [cancelPendingBatchIntent, hfound]
    exact cancelEnds_cancelRecord answers.cancel
  have hothers : ∀ other ∈ store.pendingBatchIntents, ¬ SharesOutpoint other record →
      other ∈ (cancelPendingBatchIntent answers.cancel params store).2.pendingBatchIntents :=
    fun other hmem hapart => hends.others hmem hapart
  unfold retryAfterDeletingOperatorIntent
  generalize cancelPendingBatchIntent answers.cancel params store = cancelled at hends hothers
  cases hends with
  | failed error => exact retryMeets_error fun other hmem _ => retryLeaves_of_mem hmem
  | resolved | deleted => exact (retryMeets_ifStillPending haddress).mono hothers

theorem retryMeets_retryRecord :
    RetryMeets answers record store (retryRecord answers record params store) := by
  unfold retryRecord
  cases hresolution : pendingBatchIntentResolution answers.resolution record with
  | error text => exact retryMeets_error fun other hmem _ => retryLeaves_of_mem hmem
  | ok resolution =>
    simp only [pendingIntentRetryDecision]
    by_cases hpending : resolution = .stillPending
    · subst hpending
      simp only [ne_eq, not_true_eq_false, if_false]
      cases isBoardingOnlyPendingRecord record with
      | false => exact retryMeets_afterDeleting hfound haddress
      | true =>
        cases shouldRefuseBoardingReregister answers.now record with
        | false => exact retryMeets_ifStillPending haddress
        | true => exact retryMeets_error fun other hmem _ => retryLeaves_of_mem hmem
    · simp only [ne_eq, hpending, not_false_eq_true, if_true]
      exact retryMeets_drop (.inl (resolved_of_ne_stillPending hresolution hpending))

end

end

end Retry

/-- A retry of the target ends with an error, with a stored intent for one of its outputs, or
because its outputs are resolved or joined again. -/
def Accounted (answers : RetryAnswers) (target : PendingBatchIntentRecord)
    (outcome : Except BatchError BatchJoinResult × BatchStore) : Prop :=
  (∃ error, outcome.1 = .error error) ∨
    (∃ covering ∈ outcome.2.pendingBatchIntents, SharesOutpoint covering target) ∨
    RetryResolves answers target ∨ RetryJoins answers target

theorem RetryMeets.accounted {answers : RetryAnswers} {target : PendingBatchIntentRecord}
    {store : BatchStore} {outcome : Except BatchError BatchJoinResult × BatchStore}
    (hmeets : RetryMeets answers target store outcome)
    (hexit : target.kind ≠ .collaborativeExit) (hmigrate : target.kind ≠ .migrate) :
    Accounted answers target outcome := by
  cases hresult : outcome.1 with
  | error error => exact .inl ⟨error, hresult⟩
  | ok result =>
    apply Or.inr
    cases hstatus : result.status with
    | completed => exact .inr (hmeets.completed hmigrate result hresult hstatus)
    | waitingForOperator =>
      obtain ⟨covering, hmem, -, hshares⟩ := hmeets.waiting hexit result hresult hstatus
      exact .inl ⟨covering, hmem, hshares⟩

/-- For every store and all answers, a cancel and a retry of a stored intent leave the
intents with other outputs as they are up to what the end of a join and the reconcile of an
exit do to all of them, and their status says what has become of the intent. -/
theorem cancel_and_retry_meet (store : BatchStore) (params : PendingBatchIntentActionParams)
    (target : PendingBatchIntentRecord) (cancelAnswers : CancelAnswers)
    (retryAnswers : RetryAnswers)
    (hfound : findExactPendingIntent store.pendingBatchIntents params = some target)
    (haddress : ∀ error, retryAnswers.settle.offchainAddress = .error error →
      error.isDuplicatedInput = false) :
    CancelMeets cancelAnswers target store
        (cancelPendingBatchIntent cancelAnswers params store) ∧
      RetryMeets retryAnswers target store
        (retryPendingBatchIntent retryAnswers params store) ∧
      (target.kind ≠ .collaborativeExit → target.kind ≠ .migrate →
        Accounted retryAnswers target (retryPendingBatchIntent retryAnswers params store)) := by
  have hstored : target ∈ store.pendingBatchIntents := List.mem_of_find?_eq_some hfound
  have hretry : RetryMeets retryAnswers target store
      (retryPendingBatchIntent retryAnswers params store) := by
    rw [retryPendingBatchIntent, hfound]
    exact retryMeets_retryRecord hfound haddress
  refine ⟨?_, hretry, hretry.accounted⟩
  rw [cancelPendingBatchIntent, hfound]
  exact (cancelEnds_cancelRecord cancelAnswers).meets hstored

def sampleInput : OutPoint where
  txid := sampleHost
  vout := 0

def otherInput : OutPoint where
  txid := sampleCommitment
  vout := 1

def timedOutIntent (input : OutPoint) : PendingBatchIntentRecord where
  kind := kind
  intentId := some "intent"
  onchainOutpoints := []
  vtxoOutpoints := [outpointRecord input]
  amountSats := 1000
  registeredAt := 0
  destinationAddress := some "address"
  lifecyclePhase := .timedOut

def strandedRecovery : PendingBatchIntentRecord :=
  { timedOutIntent .recover otherInput with lifecyclePhase := .processing }

def sampleParams : PendingBatchIntentActionParams where
  onchainOutpoints := []
  vtxoOutpoints := [outpointRecord sampleInput]

def storeWith (others : List PendingBatchIntentRecord) : BatchStore where
  pendingBatchIntents := timedOutIntent kind sampleInput :: others
  pendingExitDeductions := []

def snapshotWith (input : OutPoint) (isSpent : Bool) : OffchainVtxoSnapshot where
  syncedAt := 0
  dustSats := 330
  virtualTxOutpoints := [{ sampleRow input.txid.text input.vout with isSpent }]
  unilateralExitMaterialsByHostTx := ∅
  fullListedAt := 0

variable (snapshot : Option OffchainVtxoSnapshot)

def snapshotAnswers : IntentAnswers where
  outputStatus _ := .ok none
  pastCooperativeWindow _ := .ok false
  snapshot := snapshot

def deletedAnswers : CancelAnswers where
  resolution := snapshotAnswers none
  deleteRegisteredIntent _ _ := .ok ()

def registeredAnswers : JoinAnswers where
  registration := .ok "again"
  registeredAt := 1
  commitment := none

def sampleRedeem : RedeemAnswers where
  offchainAddress := .ok ()
  commitmentInputs := .ok ([], [{ outpoint := sampleInput, amountSats := 1000 }])
  insufficientBalance := "insufficient balance: 0 BTC < 0.00001 BTC (send)"
  offboardIntentFee _ _ := .ok 0
  join := registeredAnswers

/-- The report of a leg that finds nothing to migrate. -/
def untouchedLeg : MigrationLegReport where
  settleTxid := none
  migrated := []
  deferred := []
  oversized := []
  error := none
  waitingIntent := none

def sampleRetry : RetryAnswers where
  resolution := snapshotAnswers none
  cancel := deletedAnswers
  beforeJoin := snapshotAnswers none
  settle :=
    { offchainAddress := .ok ()
      boardingInputs := .ok []
      vtxoInputs := .ok [{ outpoint := sampleInput, amountSats := 1000 }]
      amountAfterIntentFee := fun _ _ => .ok 1000
      join := registeredAnswers }
  exit :=
    { autonomousMode := false
      snapshot
      resolutions := fun _ => snapshotAnswers snapshot
      parseOnchainAddress := fun _ => .ok ()
      netCooperativeSpendableSats := .ok 1000
      spendLockedOutpoints := []
      redeem := sampleRedeem
      now := 2 }
  migrate :=
    { autonomousMode := false
      keyDiscoveryWarning := none
      passes := fun _ => .unregistered (.ok { vtxo := untouchedLeg, boarding := untouchedLeg })
      deprecatedSignerStatus := .ok []
      serverSigner := .ok "signer"
      network := .signet
      now := 2 }
  operatorIdentity := operatorIdentityForConnectedSigner "signer" .signet
  now := 2

theorem sameOutpoint_outpointRecord_iff {left right : OutPoint} :
    SameOutpoint (outpointRecord left) (outpointRecord right) ↔ left = right := by
  constructor
  · intro hsame
    cases hsame with
    | inl heq =>
      have hparse := congrArg parseOutpointRecord heq
      simpa using hparse
    | inr hparse =>
      obtain ⟨outpoint, hleft, hright⟩ := hparse
      rw [parseOutpointRecord_outpointRecord] at hleft hright
      exact Option.some.inj (hleft.trans hright.symm)
  · intro heq
    rw [heq]
    exact .inl rfl

theorem not_sharesOutpoint_other (otherKind : PendingBatchIntentKind) :
    ¬ SharesOutpoint (timedOutIntent otherKind otherInput) (timedOutIntent kind sampleInput) := by
  have hne : otherInput ≠ sampleInput := by decide
  simp [SharesOutpoint, timedOutIntent, sameOutpoint_outpointRecord_iff, hne]

/-- The renewal is retried beside the stranded recovery, which is kept as a timed-out one. -/
theorem cancel_and_retry_meet_renewal :
    CancelMeets deletedAnswers (timedOutIntent .renew sampleInput)
        (storeWith .renew [strandedRecovery])
        (cancelPendingBatchIntent deletedAnswers sampleParams
          (storeWith .renew [strandedRecovery])) ∧
      RetryMeets (sampleRetry none) (timedOutIntent .renew sampleInput)
        (storeWith .renew [strandedRecovery])
        (retryPendingBatchIntent (sampleRetry none) sampleParams
          (storeWith .renew [strandedRecovery])) := by
  have hmeet := cancel_and_retry_meet (storeWith .renew [strandedRecovery]) sampleParams
    (timedOutIntent .renew sampleInput) deletedAnswers (sampleRetry none) (by decide +kernel)
    (by intro error h; cases h)
  exact ⟨hmeet.1, hmeet.2.1⟩

/-- Retries that change an intent with other inputs: the end of a join times the stranded
recovery out, and a retried exit drops a renewal that its reconcile finds spent. A retried
exit beside an open renewal returns the renewal as waiting and forgets the exit, and a
retried migration with nothing to migrate completes without a join. -/
theorem retry_changes_others :
    (strandedRecovery ∈ (storeWith .renew [strandedRecovery]).pendingBatchIntents ∧
        ¬ SharesOutpoint strandedRecovery (timedOutIntent .renew sampleInput) ∧
        strandedRecovery ∉ (retryPendingBatchIntent (sampleRetry none) sampleParams
          (storeWith .renew [strandedRecovery])).2.pendingBatchIntents) ∧
      (¬ SharesOutpoint (timedOutIntent .renew otherInput)
          (timedOutIntent .collaborativeExit sampleInput) ∧
        timedOutIntent .renew otherInput ∉ (retryPendingBatchIntent
          (sampleRetry (some (snapshotWith otherInput true))) sampleParams
          (storeWith .collaborativeExit
            [timedOutIntent .renew otherInput])).2.pendingBatchIntents) ∧
      retryPendingBatchIntent (sampleRetry (some (snapshotWith otherInput false))) sampleParams
          (storeWith .collaborativeExit [timedOutIntent .renew otherInput]) =
        (.ok (waitingJoinResult (some (timedOutIntent .renew otherInput))),
          { pendingBatchIntents := [timedOutIntent .renew otherInput]
            pendingExitDeductions := [] }) ∧
      retryPendingBatchIntent (sampleRetry none) sampleParams (storeWith .migrate []) =
        (.ok completedWithoutTxid, { pendingBatchIntents := [], pendingExitDeductions := [] }) := by
  refine ⟨⟨by decide +kernel, ?_, by decide +kernel⟩,
    ⟨not_sharesOutpoint_other _ _, by decide +kernel⟩, by decide +kernel, by decide +kernel⟩
  exact not_sharesOutpoint_other .renew .recover

end Bitboard.Arkade
