/-
# The intents that callers store

The store takes whatever record it is given, one without inputs too. Its callers bring
records of intents that the client has registered or waits for, and the client makes none
without inputs: a join refuses to prepare one, and a migration leg is settled only when its
sizing has selected outputs. So along every run of the writes that the wallet makes, stored
intents stay apart, keep their phases and have inputs.
-/

import Bitboard.Arkade.IntentActionEffects
import Bitboard.Arkade.SignerMigration

namespace Bitboard.Arkade

open SignerMigration (MigrationVtxoRef)

/-- The most inputs of one migration leg. -/
def maxVtxosPerSettlement : Nat := 50

/-- Why a migration leg settles nothing. -/
inductive MigrationSkipReason where
  | belowDust
  | oversizedOnly
  | nothingMigratable

structure MigrationLegSizing where
  selected : List MigrationVtxoRef
  deferred : List MigrationVtxoRef
  oversized : List MigrationVtxoRef
  skipReason : Option MigrationSkipReason

/-- The loop of the selection: what is selected, deferred, and the aggregate of the selected. -/
def selectCandidate (vtxoMaxAmount : Option Nat)
    (sized : List MigrationVtxoRef × List MigrationVtxoRef × Nat) (candidate : MigrationVtxoRef) :
    List MigrationVtxoRef × List MigrationVtxoRef × Nat :=
  let (selected, deferred, aggregate) := sized
  if maxVtxosPerSettlement ≤ selected.length then (selected, deferred ++ [candidate], aggregate)
  else
    let next := aggregate + candidate.amount
    if vtxoMaxAmount.any (· < next) then (selected, deferred ++ [candidate], aggregate)
    else (selected ++ [candidate], deferred, next)

/-- `size_migration_leg`: inputs above the ceiling are split off, and of the others the most
valuable are selected as long as their number and their sum stay within the limits. -/
def sizeMigrationLeg (candidates : List MigrationVtxoRef) (vtxoMaxAmount : Option Nat)
    (dust : Nat) : MigrationLegSizing :=
  if candidates.isEmpty then
    { selected := [], deferred := [], oversized := [], skipReason := some .nothingMigratable }
  else
    let oversized := candidates.filter fun candidate => vtxoMaxAmount.any (· < candidate.amount)
    let sized := (candidates.filter fun candidate =>
      !vtxoMaxAmount.any (· < candidate.amount)).mergeSort fun first second =>
        decide (second.amount ≤ first.amount)
    let (selected, deferred, aggregate) := sized.foldl (selectCandidate vtxoMaxAmount) ([], [], 0)
    { selected, deferred, oversized
      skipReason :=
        if selected.isEmpty || decide (aggregate < dust) then
          if selected.isEmpty && !oversized.isEmpty then some .oversizedOnly
          else some .belowDust
        else none }

/-- The report of a leg that settled its selected inputs, by how the settlement ended. A
settlement that meets an input of an earlier intent waits for that one. -/
def legReport (sizing : MigrationLegSizing) (isVtxoLeg : Bool)
    (settled : Except ClientError (Option JoinBatchOutcome)) :
    SignerMigration.MigrationLegReport :=
  let unsettled : SignerMigration.MigrationLegReport :=
    { settleTxid := none
      migrated := []
      deferred := sizing.selected ++ sizing.deferred
      oversized := sizing.oversized
      error := none
      waitingIntent := none }
  match settled with
  | .ok (some (.completed settleTxid)) =>
    { unsettled with
      settleTxid := some settleTxid
      migrated := sizing.selected
      deferred := sizing.deferred }
  | .ok (some (.waiting intent)) => { unsettled with waitingIntent := some intent }
  | .ok none => { unsettled with error := some "settle returned no matching inputs" }
  | .error error =>
    if error.isDuplicatedInput then
      let selectedOutpoints := sizing.selected.map MigrationVtxoRef.outpoint
      { unsettled with
        waitingIntent := some {
          intentId := ""
          onchainOutpoints := if isVtxoLeg then [] else selectedOutpoints
          vtxoOutpoints := if isVtxoLeg then selectedOutpoints else [] } }
    else { unsettled with error := some error.text }

/-- `run_migration_leg`: the report, and what the settlement registered. -/
def runMigrationLeg (answers : SettleAnswers) (candidates : List MigrationVtxoRef)
    (vtxoMaxAmount : Option Nat) (dust : Nat) (isVtxoLeg : Bool) :
    JoinRun SignerMigration.MigrationLegReport :=
  let sizing := sizeMigrationLeg candidates vtxoMaxAmount dust
  match sizing.skipReason with
  | some _ =>
    .unregistered {
      settleTxid := none
      migrated := []
      deferred := sizing.selected ++ sizing.deferred
      oversized := sizing.oversized
      error := none
      waitingIntent := none }
  | none =>
    let selectedOutpoints := sizing.selected.map MigrationVtxoRef.outpoint
    let settled :=
      if isVtxoLeg then settleVtxos answers selectedOutpoints []
      else settleVtxos answers [] selectedOutpoints
    { registered := settled.registered, result := legReport sizing isVtxoLeg settled.result }

/-- The intents that the session is given by the client: those that a join registers, which
the hook stores and for which the join may go on to wait, and the one that a migration leg
waits for. -/
inductive ClientIntent : RegisteredBatchIntent → Prop
  | registered (answers : JoinAnswers) (onchainInputs vtxoInputs : List OutPoint)
      {entry : RegisteredBatchIntent × Int}
      (hentry : entry ∈ (joinNextBatch answers onchainInputs vtxoInputs).registered) :
      ClientIntent entry.1
  | leg (answers : SettleAnswers) (candidates : List MigrationVtxoRef)
      (vtxoMaxAmount : Option Nat) (dust : Nat) (isVtxoLeg : Bool) {intent : RegisteredBatchIntent}
      (hwaiting : (runMigrationLeg answers candidates vtxoMaxAmount dust
        isVtxoLeg).result.waitingIntent = some intent) :
      ClientIntent intent

/-- The registration hook stores the record of a join's intent, and a session that waits stamps
the intent that the client returned. The other writes are guarded or add nothing. -/
def IntentOp.FromClient : IntentOp → Prop
  | .upsert record => ∃ context intent registeredAt, ClientIntent intent ∧
      record = joinRecord context intent registeredAt
  | .stampRegistered record => ∃ (context : BatchJoinContext) (intent : RegisteredBatchIntent)
      (now : Int), ClientIntent intent ∧
      record = { recordFromRegisteredIntent context.kind intent context.amountSats now with
        destinationAddress := context.destinationAddress }
  | _ => True

variable {intent : RegisteredBatchIntent}

/-- A leg that is not skipped has selected inputs. -/
theorem selected_ne_nil_of_not_skipped {candidates : List MigrationVtxoRef}
    {vtxoMaxAmount : Option Nat} {dust : Nat}
    (h : (sizeMigrationLeg candidates vtxoMaxAmount dust).skipReason = none) :
    (sizeMigrationLeg candidates vtxoMaxAmount dust).selected ≠ [] := by
  unfold sizeMigrationLeg at h ⊢
  intro hselected
  split at h
  · cases h
  · rename_i hcandidates
    simp only [hcandidates, Bool.false_eq_true, if_false] at hselected
    simp only [hselected, List.isEmpty_nil, Bool.true_or, if_true] at h
    split at h <;> cases h

/-- An intent that a join registers has an input. -/
theorem hasInput_of_registered {answers : JoinAnswers} {onchainInputs vtxoInputs : List OutPoint}
    {entry : RegisteredBatchIntent × Int}
    (h : entry ∈ (joinNextBatch answers onchainInputs vtxoInputs).registered) :
    ¬ (entry.1.onchainOutpoints.isEmpty && entry.1.vtxoOutpoints.isEmpty) = true := by
  have hends := redeemEnds_joinNextBatch answers onchainInputs vtxoInputs
  generalize joinNextBatch answers onchainInputs vtxoInputs = joined at h hends
  cases hends with
  | refused error => cases h
  | completed other registeredAt txid hinput =>
    cases List.mem_singleton.mp h
    exact hinput
  | waiting other registeredAt hinput =>
    cases List.mem_singleton.mp h
    exact hinput

/-- A settlement waits only for an intent that its join registered. -/
theorem registered_of_settleVtxos {answers : SettleAnswers}
    {vtxoOutpoints boardingOutpoints : List OutPoint}
    (h : (settleVtxos answers vtxoOutpoints boardingOutpoints).result =
      .ok (some (.waiting intent))) :
    ∃ onchainInputs vtxoInputs registeredAt, (intent, registeredAt) ∈
      (joinNextBatch answers.join onchainInputs vtxoInputs).registered := by
  unfold settleVtxos at h
  split at h
  · cases h
  · split at h
    · cases h
    · split at h
      · cases h
      · rename_i boardingInputs vtxoInputs _ _ _ _ _
        dsimp only at h
        cases hjoined : (joinNextBatch answers.join
            (boardingInputs.map CommitmentInput.outpoint)
            (vtxoInputs.map CommitmentInput.outpoint)).result with
        | error error =>
          rw [hjoined] at h
          cases h
        | ok outcome =>
          rw [hjoined] at h
          cases h
          obtain ⟨registeredAt, hregistered⟩ :=
            (redeemEnds_joinNextBatch answers.join _ _).registered hjoined
          exact ⟨_, _, registeredAt, hregistered⟩

/-- Whatever intent the client registers or waits for has an input. -/
theorem ClientIntent.hasInput (h : ClientIntent intent) :
    ¬ (intent.onchainOutpoints.isEmpty && intent.vtxoOutpoints.isEmpty) = true := by
  cases h with
  | registered answers onchainInputs vtxoInputs hentry => exact hasInput_of_registered hentry
  | leg answers candidates vtxoMaxAmount dust isVtxoLeg hwaiting =>
    unfold runMigrationLeg at hwaiting
    dsimp only at hwaiting
    split at hwaiting
    · cases hwaiting
    · rename_i hskip
      have hselected := selected_ne_nil_of_not_skipped hskip
      unfold legReport at hwaiting
      dsimp only at hwaiting
      split at hwaiting
      · cases hwaiting
      · rename_i waited hsettled
        cases hwaiting
        split at hsettled
        · obtain ⟨_, _, _, hregistered⟩ := registered_of_settleVtxos hsettled
          exact hasInput_of_registered hregistered
        · obtain ⟨_, _, _, hregistered⟩ := registered_of_settleVtxos hsettled
          exact hasInput_of_registered hregistered
      · cases hwaiting
      · split at hwaiting
        · cases hwaiting
          cases isVtxoLeg <;> simpa using hselected
        · cases hwaiting

/-- The writes of the wallet's callers bring records with inputs. -/
theorem IntentOp.FromClient.carriesOutpoint {op : IntentOp} (h : op.FromClient) :
    op.CarriesOutpoint := by
  cases op with
  | upsert record =>
    obtain ⟨context, intent, registeredAt, hintent, rfl⟩ := h
    simpa [IntentOp.CarriesOutpoint, pendingIntentOutpointsEmpty, joinRecord,
      recordFromRegisteredIntent] using hintent.hasInput
  | stampRegistered record =>
    obtain ⟨context, intent, now, hintent, rfl⟩ := h
    simpa [IntentOp.CarriesOutpoint, pendingIntentOutpointsEmpty,
      recordFromRegisteredIntent] using hintent.hasInput
  | persistAndWaiting _ | stamp _ _ | promote | remove _ _ => trivial

/-- Along every run of the writes that the wallet's callers make, stored intents are kept apart
and in their phases, and each of them has an input. -/
theorem intentsKept_of_fromClient (start : List PendingBatchIntentRecord)
    (hdisjoint : InputsDisjoint start) (hinputs : AllHaveInputs start) (ops : List IntentOp)
    (hops : ∀ op ∈ ops, op.FromClient) : IntentsKept start ops :=
  (intentsKept_iff start hdisjoint ops).mpr
    ⟨hinputs, fun op hop => (hops op hop).carriesOutpoint⟩

def callerAnswers : JoinAnswers where
  registration := .ok "intent"
  registeredAt := 1
  commitment := none

def callerContext : BatchJoinContext where
  kind := .renew
  amountSats := 12000
  destinationAddress := none

def callerInput : OutPoint where
  txid := sampleHost
  vout := 0

def callerIntent : RegisteredBatchIntent where
  intentId := "intent"
  onchainOutpoints := []
  vtxoOutpoints := [callerInput]

/-- The intent is registered, times out and is registered again. -/
theorem intentsKept_of_fromClient_again :
    IntentsKept [] [.upsert (joinRecord callerContext callerIntent 1), .promote,
      .upsert (joinRecord callerContext callerIntent 2)] := by
  have hclient : ClientIntent callerIntent :=
    .registered callerAnswers [] [callerInput]
      (List.mem_singleton_self (callerIntent, (1 : Int)))
  apply intentsKept_of_fromClient [] List.Pairwise.nil
  · intro record hrecord
    cases hrecord
  · intro op hop
    simp only [List.mem_cons, List.not_mem_nil, or_false] at hop
    rcases hop with rfl | rfl | rfl
    · exact ⟨callerContext, _, 1, hclient, rfl⟩
    · trivial
    · exact ⟨callerContext, _, 2, hclient, rfl⟩

end Bitboard.Arkade
