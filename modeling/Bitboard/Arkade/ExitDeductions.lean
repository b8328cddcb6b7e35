/-
# Pending exit deductions

A deduction remembers an exit whose amount the balance must leave out: one for each output
that exits unilaterally, and one for a completed collaborative exit. A deduction replaces the
one that it repeats, and a reconcile with the snapshot keeps those whose exit still shows as
spendable there.

The functions follow `persistence.rs`, `exit_balance.rs` and `sync.rs`. An output is named by
the text of its transaction id, as a deduction stores it.
-/

import Bitboard.Arkade.OffchainBalance

namespace Bitboard.Arkade

open Bitboard.Lib
open PendingExitDeduction

def vtxoStillSpendableInSnapshot (codec : SnapshotCodec) (now : Int)
    (snapshot : OffchainVtxoSnapshot) (txid : String) (vout : UInt32) : ArkResult Bool :=
  match Txid.fromStr txid with
  | none => .error (.invalidTxid (codec.txidError txid))
  | some targetTxid => do
      let list ← vtxoListFromSnapshot codec now snapshot
      return list.allUnspent.any fun point =>
        point.outpoint = { txid := targetTxid, vout } && !point.isUnrolled && !point.isSpent

section Session

variable {PublicKey Address : Type} (xOnly : PublicKey → String)

/-- What a reconcile reads: the snapshot, the clock, the operator's terms if they are known, the
fallback signer and the exit records. -/
structure DeductionInputs (PublicKey Address : Type) where
  codec : SnapshotCodec
  snapshot : OffchainVtxoSnapshot
  now : Int
  serverInfo : ArkResult (Info PublicKey Address)
  legacySignerPkFallback : Option String
  vtxoExitRecords : VtxoExitRecords

variable (inputs : DeductionInputs PublicKey Address)

def signerAwareGrossOffchainSpendable : ArkResult Nat := do
  let info ← inputs.serverInfo
  let buckets ← offchainBalanceBucketsFromSnapshot xOnly info inputs.now inputs.codec
    inputs.snapshot inputs.legacySignerPkFallback inputs.vtxoExitRecords
  return buckets.grossSpendableSats

/-- `reconcile_pending_exit_deductions_with_snapshot`, up to its write. -/
def reconcileWithSnapshot (deductions : List PendingExitDeduction) :
    ArkResult (List PendingExitDeduction) := do
  let gross ← signerAwareGrossOffchainSpendable xOnly inputs
  reconcilePendingExitDeductions
    (vtxoStillSpendableInSnapshot inputs.codec inputs.now inputs.snapshot) gross deductions

inductive DeductionOp (PublicKey Address : Type) where
  | upsert (record : PendingExitDeduction)
  | reconcile (inputs : DeductionInputs PublicKey Address)
  /-- `clear_pending_collaborative_exit_deduction`. -/
  | clearCollaborative

/-- A reconcile writes its result back and leaves the list as it was when it fails. -/
def deductionStep (deductions : List PendingExitDeduction) :
    DeductionOp PublicKey Address → List PendingExitDeduction
  | .upsert record => upsertPendingExitDeduction deductions record
  | .reconcile inputs =>
    match reconcileWithSnapshot xOnly inputs deductions with
    | .error _ => deductions
    | .ok retained => retained
  | .clearCollaborative => clearPendingCollaborativeExitDeduction deductions

end Session

def PendingExitDeduction.isCollaborative (deduction : PendingExitDeduction) : Bool :=
  deduction.kind = .collaborative

/-- At most one deduction for each output that exits unilaterally, and at most one for a
collaborative exit. -/
structure OnePerExit (deductions : List PendingExitDeduction) : Prop where
  unilateral : ∀ txid vout,
    (deductions.filter fun deduction => deduction.isUnilateralOf txid vout).length ≤ 1
  collaborative : (deductions.filter isCollaborative).length ≤ 1

theorem OnePerExit.nil : OnePerExit [] where
  unilateral _ _ := Nat.zero_le _
  collaborative := Nat.zero_le _

theorem OnePerExit.sublist {deductions retained : List PendingExitDeduction}
    (hone : OnePerExit deductions) (hsublist : retained.Sublist deductions) :
    OnePerExit retained where
  unilateral txid vout := le_trans (hsublist.filter _).length_le (hone.unilateral txid vout)
  collaborative := le_trans (hsublist.filter _).length_le hone.collaborative

section Upsert

variable {deductions : List PendingExitDeduction} {record : PendingExitDeduction}

theorem length_filter_modifyFirst {p q : PendingExitDeduction → Bool}
    (h : ∀ existing, p existing = true → q existing = q record) :
    ((modifyFirst p (fun _ => record) deductions).filter q).length =
      (deductions.filter q).length := by
  induction deductions with
  | nil => rfl
  | cons existing rest ih =>
    by_cases hfirst : p existing = true
    · simp only [modifyFirst, hfirst, if_true, List.filter_cons, h existing hfirst]
      split
      · rfl
      · rfl
    · simp only [modifyFirst, hfirst, Bool.false_eq_true, if_false, List.filter_cons]
      split
      · rw [List.length_cons, List.length_cons, ih]
      · exact ih

theorem isUnilateralOf_iff {deduction : PendingExitDeduction} {txid : String} {vout : UInt32} :
    deduction.isUnilateralOf txid vout = true ↔
      deduction.kind = .unilateral ∧ deduction.vtxoTxid = some txid ∧
        deduction.vout.getD 0 = vout := by
  simp [isUnilateralOf, and_assoc]

theorem onePerExit_append (hone : OnePerExit deductions)
    (hunilateral : ∀ txid vout, record.isUnilateralOf txid vout = true →
      ∀ existing ∈ deductions, existing.isUnilateralOf txid vout = false)
    (hcollaborative : record.isCollaborative = true →
      ∀ existing ∈ deductions, existing.isCollaborative = false) :
    OnePerExit (deductions ++ [record]) where
  unilateral txid vout := by
    rw [List.filter_append, List.length_append]
    by_cases hrecord : record.isUnilateralOf txid vout = true
    · have hnone : deductions.filter (fun existing => existing.isUnilateralOf txid vout) = [] := by
        apply List.filter_eq_nil_iff.mpr
        intro existing hexisting
        rw [hunilateral txid vout hrecord existing hexisting]
        exact Bool.false_ne_true
      simp [hnone, hrecord]
    · simpa [hrecord] using hone.unilateral txid vout
  collaborative := by
    rw [List.filter_append, List.length_append]
    by_cases hrecord : record.isCollaborative = true
    · have hnone : deductions.filter isCollaborative = [] := by
        apply List.filter_eq_nil_iff.mpr
        intro existing hexisting
        rw [hcollaborative hrecord existing hexisting]
        exact Bool.false_ne_true
      simp [hnone, hrecord]
    · simpa [hrecord] using hone.collaborative

/-- An upsert keeps one deduction for each exit. -/
theorem onePerExit_upsert (hone : OnePerExit deductions) (record : PendingExitDeduction) :
    OnePerExit (upsertPendingExitDeduction deductions record) := by
  unfold upsertPendingExitDeduction
  cases hkind : record.kind with
  | collaborative =>
    show OnePerExit (clearPendingCollaborativeExitDeduction deductions ++ [record])
    apply onePerExit_append
    · exact hone.sublist List.filter_sublist
    · intro txid vout hrecord
      have hother := (isUnilateralOf_iff.mp hrecord).1
      rw [hkind] at hother
      cases hother
    · intro _ existing hexisting
      have hkept := of_decide_eq_true (List.mem_filter.mp hexisting).2
      exact decide_eq_false hkept
  | unilateral =>
    have hcollaborative : record.isCollaborative = false := by
      simp [isCollaborative, hkind]
    cases htxid : record.vtxoTxid with
    | none =>
      show OnePerExit (deductions ++ [record])
      apply onePerExit_append hone
      · intro txid vout hrecord
        have hother := (isUnilateralOf_iff.mp hrecord).2.1
        rw [htxid] at hother
        cases hother
      · intro hrecord
        rw [hcollaborative] at hrecord
        cases hrecord
    | some txid =>
      dsimp only
      split
      · have hsame : ∀ existing : PendingExitDeduction,
            existing.isUnilateralOf txid (record.vout.getD 0) = true →
            (∀ other vout, existing.isUnilateralOf other vout = record.isUnilateralOf other vout) ∧
            existing.isCollaborative = record.isCollaborative := by
          intro existing hexisting
          obtain ⟨hexistingKind, hexistingTxid, hexistingVout⟩ :=
            isUnilateralOf_iff.mp hexisting
          constructor
          · intro other vout
            rw [isUnilateralOf, isUnilateralOf,
              hexistingKind, hexistingTxid, hexistingVout, hkind, htxid]
          · rw [isCollaborative, isCollaborative, hexistingKind, hkind]
        exact {
          unilateral := fun other vout => by
            rw [length_filter_modifyFirst fun existing h => (hsame existing h).1 other vout]
            exact hone.unilateral other vout
          collaborative := by
            rw [length_filter_modifyFirst fun existing h => (hsame existing h).2]
            exact hone.collaborative }
      · rename_i hnone
        apply onePerExit_append hone
        · intro other vout hrecord existing hexisting
          obtain ⟨_, hother, hvout⟩ := isUnilateralOf_iff.mp hrecord
          rw [htxid] at hother
          cases hother
          rw [hvout, List.any_eq_true] at hnone
          by_contra hfound
          exact hnone ⟨existing, hexisting, (Bool.not_eq_false _).mp hfound⟩
        · intro hrecord
          rw [hcollaborative] at hrecord
          cases hrecord

end Upsert

def keepsDeduction (stillSpendable : String → UInt32 → ArkResult Bool) (gross : Nat)
    (record : PendingExitDeduction) : Bool :=
  shouldKeepPendingExitDeduction stillSpendable gross record = .ok true

/-- The loop keeps what it has and the deductions whose condition holds, and finishes only if
every condition is answered. -/
theorem foldlM_shouldKeep_eq_ok {stillSpendable : String → UInt32 → ArkResult Bool} {gross : Nat}
    {records start retained : List PendingExitDeduction}
    (h : records.foldlM (fun retained record => do
      if ← shouldKeepPendingExitDeduction stillSpendable gross record then
        return retained ++ [record]
      else return retained) start = (.ok retained : ArkResult _)) :
    retained = start ++ records.filter (keepsDeduction stillSpendable gross) ∧
      ∀ record ∈ records, ∃ keep,
        shouldKeepPendingExitDeduction stillSpendable gross record = .ok keep := by
  induction records generalizing start with
  | nil =>
    cases h
    exact ⟨(List.append_nil _).symm, List.forall_mem_nil _⟩
  | cons record records ih =>
    rw [List.foldlM_cons] at h
    obtain ⟨next, hnext, hrest⟩ := bind_eq_ok.mp h
    obtain ⟨keep, hkeep, hnext⟩ := bind_eq_ok.mp hnext
    have hanswered : ∃ keep,
        shouldKeepPendingExitDeduction stillSpendable gross record = .ok keep := ⟨keep, hkeep⟩
    have hloop := ih hrest
    have hall : ∀ other ∈ record :: records, ∃ keep,
        shouldKeepPendingExitDeduction stillSpendable gross other = .ok keep :=
      List.forall_mem_cons.mpr ⟨hanswered, hloop.2⟩
    refine ⟨?_, hall⟩
    rw [hloop.1]
    cases keep with
    | true =>
      cases hnext
      have hkept : keepsDeduction stillSpendable gross record = true := by
        rw [keepsDeduction, hkeep]
        rfl
      rw [List.filter_cons_of_pos hkept, List.append_assoc, List.singleton_append]
    | false =>
      cases hnext
      have hdropped : ¬ keepsDeduction stillSpendable gross record = true := by
        rw [keepsDeduction, hkeep]
        decide
      rw [List.filter_cons_of_neg hdropped]

section Session

variable {PublicKey Address : Type} (xOnly : PublicKey → String)

/-- The reconcile finds that the deduction is to be kept, or that it is not. -/
def FindsKeep (inputs : DeductionInputs PublicKey Address) (record : PendingExitDeduction)
    (keep : Bool) : Prop :=
  ∃ gross, signerAwareGrossOffchainSpendable xOnly inputs = .ok gross ∧
    shouldKeepPendingExitDeduction
      (vtxoStillSpendableInSnapshot inputs.codec inputs.now inputs.snapshot) gross record = .ok keep

variable {xOnly} {inputs : DeductionInputs PublicKey Address}
variable {deductions retained : List PendingExitDeduction}

theorem reconcileWithSnapshot_eq_ok
    (h : reconcileWithSnapshot xOnly inputs deductions = .ok retained) :
    ∃ gross, signerAwareGrossOffchainSpendable xOnly inputs = .ok gross ∧
      retained = deductions.filter (keepsDeduction
        (vtxoStillSpendableInSnapshot inputs.codec inputs.now inputs.snapshot) gross) ∧
      ∀ record ∈ deductions, ∃ keep, FindsKeep xOnly inputs record keep := by
  obtain ⟨gross, hgross, hloop⟩ := bind_eq_ok.mp h
  have hfold := foldlM_shouldKeep_eq_ok hloop
  apply Exists.intro gross
  apply And.intro hgross
  constructor
  · exact hfold.1
  · intro record hrecord
    obtain ⟨keep, hkeep⟩ := hfold.2 record hrecord
    exact ⟨keep, gross, hgross, hkeep⟩

theorem onePerExit_deductionStep (deductions : List PendingExitDeduction)
    (op : DeductionOp PublicKey Address) (hone : OnePerExit deductions) :
    OnePerExit (deductionStep xOnly deductions op) := by
  cases op with
  | upsert record => exact onePerExit_upsert hone record
  | clearCollaborative => exact hone.sublist List.filter_sublist
  | reconcile inputs =>
    unfold deductionStep
    dsimp only
    cases hreconcile : reconcileWithSnapshot xOnly inputs deductions with
    | error error => exact hone
    | ok retained =>
      obtain ⟨gross, _, hretained, _⟩ := reconcileWithSnapshot_eq_ok hreconcile
      dsimp only
      rw [hretained]
      exact hone.sublist List.filter_sublist

/-- What one reconcile does to the stored deductions: nothing if it fails, else it keeps their
order and removes exactly those whose keep condition fails. -/
structure ReconcilesExactly (xOnly : PublicKey → String)
    (inputs : DeductionInputs PublicKey Address) (deductions : List PendingExitDeduction) :
    Prop where
  failed : ∀ error, reconcileWithSnapshot xOnly inputs deductions = .error error →
    deductionStep xOnly deductions (.reconcile inputs) = deductions
  sublist : (deductionStep xOnly deductions (.reconcile inputs)).Sublist deductions
  kept : ∀ retained, reconcileWithSnapshot xOnly inputs deductions = .ok retained →
    ∀ record ∈ deductions,
      (record ∈ deductionStep xOnly deductions (.reconcile inputs) ↔
        FindsKeep xOnly inputs record true) ∧
      (record ∉ deductionStep xOnly deductions (.reconcile inputs) ↔
        FindsKeep xOnly inputs record false)

theorem reconcilesExactly (xOnly : PublicKey → String)
    (inputs : DeductionInputs PublicKey Address) (deductions : List PendingExitDeduction) :
    ReconcilesExactly xOnly inputs deductions := by
  cases hreconcile : reconcileWithSnapshot xOnly inputs deductions with
  | error error =>
    have hstep : deductionStep xOnly deductions (.reconcile inputs) = deductions := by
      simp only [deductionStep, hreconcile]
    exact {
      failed := fun _ _ => hstep
      sublist := by rw [hstep]
      kept := by
        intro retained h
        rw [hreconcile] at h
        cases h }
  | ok retained =>
    have hstep : deductionStep xOnly deductions (.reconcile inputs) = retained := by
      simp only [deductionStep, hreconcile]
    obtain ⟨gross, hgross, hretained, hanswered⟩ := reconcileWithSnapshot_eq_ok hreconcile
    have hmem : ∀ record ∈ deductions, record ∈ retained ↔ FindsKeep xOnly inputs record true := by
      intro record hrecord
      rw [hretained, List.mem_filter, keepsDeduction, decide_eq_true_eq]
      constructor
      · intro hkeep
        exact ⟨gross, hgross, hkeep.2⟩
      · intro hkeep
        obtain ⟨other, hother, hkeep⟩ := hkeep
        rw [hgross] at hother
        cases hother
        exact ⟨hrecord, hkeep⟩
    have hboth : ∀ record, ¬ (FindsKeep xOnly inputs record true ∧
        FindsKeep xOnly inputs record false) := by
      intro record hfinds
      obtain ⟨⟨first, hfirst, hkept⟩, second, hsecond, hdropped⟩ := hfinds
      rw [hfirst] at hsecond
      cases hsecond
      rw [hkept] at hdropped
      cases hdropped
    exact {
      failed := by
        intro error h
        rw [hreconcile] at h
        cases h
      sublist := by
        rw [hstep, hretained]
        exact List.filter_sublist
      kept := by
        intro _ _ record hrecord
        rw [hstep, hmem record hrecord]
        apply And.intro Iff.rfl
        constructor
        · intro hnot
          obtain ⟨keep, hkeep⟩ := hanswered record hrecord
          cases keep with
          | true => exact absurd hkeep hnot
          | false => exact hkeep
        · intro hdropped hkept
          exact hboth record ⟨hkept, hdropped⟩ }

def deductionRun (xOnly : PublicKey → String) (deductions : List PendingExitDeduction)
    (ops : List (DeductionOp PublicKey Address)) : List PendingExitDeduction :=
  run (deductionStep xOnly) deductions ops

/-- Every run keeps one deduction for each exit, and whatever state it is in, a reconcile removes
exactly the deductions whose keep condition fails, or nothing if it fails itself. -/
theorem pending_exit_deductions_one_per_exit (xOnly : PublicKey → String)
    (start : List PendingExitDeduction) (hstart : OnePerExit start)
    (ops : List (DeductionOp PublicKey Address)) :
    OnePerExit (deductionRun xOnly start ops) ∧ ∀ inputs : DeductionInputs PublicKey Address,
      ReconcilesExactly xOnly inputs (deductionRun xOnly start ops) := by
  constructor
  · exact run_invariant OnePerExit onePerExit_deductionStep hstart ops
  · intro inputs
    exact reconcilesExactly xOnly inputs _

def sampleDeduction : PendingExitDeduction where
  kind := .collaborative
  vtxoTxid := none
  vout := none
  amountSats := 1000
  startedAt := 0
  baselineOffchainSpendableSats := some 5000
  retainUntilSpendableDrops := true

/-- A collaborative exit recorded twice leaves one deduction. -/
theorem pending_exit_deductions_one_per_exit_recorded_twice :
    OnePerExit (deductionRun (fun key : String => key) []
      [.upsert sampleDeduction, (.upsert sampleDeduction : DeductionOp String String)]) :=
  (pending_exit_deductions_one_per_exit _ [] .nil _).1

end Session

end Bitboard.Arkade
