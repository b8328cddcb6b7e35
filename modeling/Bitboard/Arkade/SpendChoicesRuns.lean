/-
# Which interleavings choose inputs cleanly

For every operation under way there are outputs it has seen unlocked and will not look
at again, and outputs it has seen free of stored intents. Its choice is clean if they
stay so until then. Nothing in the session sees to that, so the condition is on the
steps in between: none locks or commits such an output.

Two choices need more. A send never looks at the stored intents, and what a client
picks on its own may be an output that the check before it did not cover: one that is
missing from the snapshot, or one that an earlier pass of the migration has taken.
-/

import Bitboard.Arkade.SpendChoices
import Bitboard.Arkade.FinalityStamp

namespace Bitboard.Arkade

open Bitboard.Lib

namespace SpendStage

def spender : SpendStage → Spender
  | .listing _ => .recover
  | .checking spend _ _ => spend.spender
  | .checked _ => .collaborativeExit
  | .redeeming _ _ => .collaborativeExit
  | .migrating _ => .migrate
  | .migratePass _ _ => .migrate

/-- The operation may still take the output, and does not look at its lock again. -/
def PastLockCheck : SpendStage → OutPoint → Prop
  | .listing excluded, outpoint => outpoint ∉ excluded
  | .checking spend outpoints _, outpoint =>
    spend ≠ .collaborativeExit ∧ outpoint ∈ outpoints
  | .checked _, _ => False
  | .redeeming _ excluded, outpoint => outpoint ∉ excluded
  | .migrating _, _ => False
  | .migratePass _ excluded, outpoint => outpoint ∉ excluded

/-- The operation has seen no stored intent on the output, and does not look again. -/
def PastIntentCheck : SpendStage → OutPoint → Prop
  | .listing _, _ => False
  | .checking _ _ _, _ => False
  | .checked overlap, outpoint => outpoint ∈ overlap
  | .redeeming overlap _, outpoint => outpoint ∈ overlap
  | .migrating taken, outpoint => outpoint ∉ taken
  | .migratePass taken _, outpoint => outpoint ∉ taken

def MayPick : SpendStage → OutPoint → Prop
  | .redeeming _ excluded, outpoint => outpoint ∉ excluded
  | .migratePass _ excluded, outpoint => outpoint ∉ excluded
  | _, _ => False

end SpendStage

namespace SpendSession

variable (session : SpendSession)

/-- The database locks no output that an operation has seen unlocked. -/
def LocksNothingSeen (db : WalletDb) : Prop :=
  ∀ name stage, session.spends name = some stage →
    ∀ outpoint, stage.PastLockCheck outpoint →
      outpoint ∈ stage.spender.lockedOutpoints db →
        outpoint ∈ stage.spender.lockedOutpoints session.db

/-- The intents commit no output that an operation has seen free of them. -/
def CommitsNothingSeen (stored : List PendingBatchIntentRecord) : Prop :=
  ∀ name stage, session.spends name = some stage →
    ∀ outpoint, stage.PastIntentCheck outpoint →
      PendingInput stored outpoint → PendingInput session.intents.stored outpoint

end SpendSession

section Guard

variable (codec : Codec)

/-- The condition on a step. It is about what the step brings in: the locks of an exit
operation, the intents of a write or of a reconcile, the outputs that are listed to a send and
the candidates that a client finds. -/
def Undisturbed (session : SpendSession) : SpendOp → Prop
  | .exit op => session.LocksNothingSeen (exitStep codec session.db op)
  | .intent op => session.CommitsNothingSeen (intentSessionStep session.intents op).stored
  | .send listed _ => ∀ outpoint ∈ listed, outpoint ∉ spendLockedOutpoints session.db →
      ¬ PendingInput session.intents.stored outpoint
  | .reconciled name answers =>
    ∀ spend outpoints pending, session.spends name = some (.checking spend outpoints pending) →
      ∀ remaining finalizedTxid,
        reconcileLoop answers 0 [] none pending = .ok (remaining, finalizedTxid) →
          session.CommitsNothingSeen remaining
  | .pick name candidates =>
    ∀ stage, session.spends name = some stage → ∀ outpoint ∈ candidates,
      stage.MayPick outpoint → PendingInput session.intents.stored outpoint →
        stage.PastIntentCheck outpoint
  | _ => True

end Guard

variable {stored : List PendingBatchIntentRecord} {outpoint : OutPoint}

theorem pendingInput_readPending {idle : Bool} :
    PendingInput (readPending idle stored) outpoint ↔ PendingInput stored outpoint := by
  cases idle with
  | false => exact Iff.rfl
  | true =>
    show PendingInput (stored.map timeOut) outpoint ↔ PendingInput stored outpoint
    simp [PendingInput]

theorem not_pendingInput_of_no_overlap {outpoints : List OutPoint}
    (hnone : findOverlappingPendingIntent stored [] outpoints = none)
    (hmem : outpoint ∈ outpoints) : ¬ PendingInput stored outpoint := by
  intro hpending
  obtain ⟨record, hrecord, hinput⟩ := hpending
  rw [findOverlappingPendingIntent, List.find?_eq_none] at hnone
  apply hnone record hrecord
  rw [pendingBatchRecordOverlapsOutpoints, Bool.or_eq_true]
  exact .inr (outpointSetsOverlap_iff.mpr ⟨_, hinput, List.mem_map_of_mem hmem⟩)

theorem not_pendingInput_of_isEmpty (hempty : stored.isEmpty = true) :
    ¬ PendingInput stored outpoint := by
  rw [List.isEmpty_iff] at hempty
  subst hempty
  intro hpending
  obtain ⟨record, hrecord, -⟩ := hpending
  exact List.not_mem_nil hrecord

/-- What the operation has seen of exit records and stored intents is still so. -/
structure SpendStage.Holds (stage : SpendStage) (db : WalletDb)
    (stored : List PendingBatchIntentRecord) : Prop where
  unlocked : ∀ outpoint, stage.PastLockCheck outpoint →
    outpoint ∉ stage.spender.lockedOutpoints db
  uncommitted : ∀ outpoint, stage.PastIntentCheck outpoint → ¬ PendingInput stored outpoint

/-- Every operation under way has seen what is still so, and every choice was clean. -/
structure SpendSession.Sound (session : SpendSession) : Prop where
  stages : ∀ name stage, session.spends name = some stage →
    stage.Holds session.db session.intents.stored
  clean : session.AllClean

namespace SpendSession.Sound

variable {session : SpendSession} {name : Nat} {outpoints : List OutPoint}

theorem of_fresh (hfresh : session.Fresh) : session.Sound where
  stages := by
    intro name stage hstage
    rw [hfresh.1 name] at hstage
    cases hstage
  clean := by
    rw [SpendSession.AllClean, hfresh.2]
    exact List.forall_mem_nil _

section

variable (hsound : session.Sound)
include hsound

theorem setStage {stage : SpendStage} (hholds : stage.Holds session.db session.intents.stored) :
    (session.setStage name (some stage)).Sound where
  stages := by
    intro other found hfound
    by_cases hother : other = name
    · subst hother
      simp only [SpendSession.setStage, Function.update_self, Option.some.injEq] at hfound
      subst hfound
      exact hholds
    · simp only [SpendSession.setStage, Function.update_of_ne hother] at hfound
      exact hsound.stages other found hfound
  clean := hsound.clean

theorem finish : (session.setStage name none).Sound where
  stages := by
    intro other found hfound
    by_cases hother : other = name
    · subst hother
      simp [SpendSession.setStage] at hfound
    · simp only [SpendSession.setStage, Function.update_of_ne hother] at hfound
      exact hsound.stages other found hfound
  clean := hsound.clean

theorem store (hseen : session.CommitsNothingSeen stored) : (session.store stored).Sound where
  stages := by
    intro name stage hstage
    have hholds := hsound.stages name stage hstage
    exact {
      unlocked := hholds.unlocked
      uncommitted := by
        intro outpoint hpast hpending
        exact hholds.uncommitted outpoint hpast
          (hseen name stage hstage outpoint hpast hpending) }
  clean := hsound.clean

theorem exit {db : WalletDb} (hseen : session.LocksNothingSeen db) :
    ({ session with db := db } : SpendSession).Sound where
  stages := by
    intro name stage hstage
    have hholds := hsound.stages name stage hstage
    exact {
      unlocked := by
        intro outpoint hpast hlocked
        exact hholds.unlocked outpoint hpast
          (hseen name stage hstage outpoint hpast hlocked)
      uncommitted := hholds.uncommitted }
  clean := hsound.clean

theorem choose {spender : Spender}
    (hunlocked : ∀ outpoint ∈ outpoints, outpoint ∉ spender.lockedOutpoints session.db)
    (huncommitted : ∀ outpoint ∈ outpoints, ¬ PendingInput session.intents.stored outpoint) :
    (session.choose spender outpoints).Sound where
  stages := hsound.stages
  clean := by
    intro choice hchoice
    cases List.mem_append.mp hchoice with
    | inl hearlier => exact hsound.clean choice hearlier
    | inr hnew =>
      rw [List.mem_singleton.mp hnew]
      intro outpoint hmem
      exact ⟨hunlocked outpoint hmem, huncommitted outpoint hmem⟩

theorem overlapCheck {spend : CheckedSpend}
    (hunlocked : spend ≠ .collaborativeExit → ∀ outpoint ∈ outpoints,
      outpoint ∉ spend.spender.lockedOutpoints session.db) :
    (session.overlapCheck name spend outpoints).Sound := by
  rw [SpendSession.overlapCheck]
  cases hoverlap : findOverlappingPendingIntent session.intents.stored [] outpoints with
  | some record => exact hsound.finish
  | none =>
    have hfree : ∀ outpoint ∈ outpoints, ¬ PendingInput session.intents.stored outpoint := by
      intro outpoint hmem
      exact not_pendingInput_of_no_overlap hoverlap hmem
    by_cases hcollaborative : spend = .collaborativeExit
    · simp only [if_pos hcollaborative]
      apply hsound.setStage
      exact { unlocked := by intro outpoint hpast; cases hpast
              uncommitted := hfree }
    · simp only [if_neg hcollaborative]
      split
      · exact hsound.finish
      · exact (hsound.choose (hunlocked hcollaborative) hfree).finish

theorem beginOverlapCheck {spend : CheckedSpend} {idle : Bool}
    (hunlocked : spend ≠ .collaborativeExit → ∀ outpoint ∈ outpoints,
      outpoint ∉ spend.spender.lockedOutpoints session.db) :
    (session.beginOverlapCheck name spend outpoints idle).Sound := by
  have hstored : (session.store (readPending idle session.intents.stored)).Sound := by
    apply hsound.store
    intro name stage _ outpoint _ hpending
    exact pendingInput_readPending.mp hpending
  rw [SpendSession.beginOverlapCheck]
  split
  · exact hstored.overlapCheck hunlocked
  · apply hstored.setStage
    exact {
      unlocked := by
        intro outpoint hpast
        exact hunlocked hpast.1 outpoint hpast.2
      uncommitted := by intro outpoint hpast; cases hpast }

end

end SpendSession.Sound

theorem notMem_of_mem_filter_exclusions {outpoints : List OutPoint} {excluded : Finset OutPoint}
    (hmem : outpoint ∈ outpoints.filter fun candidate => candidate ∉ excluded) :
    outpoint ∈ outpoints ∧ outpoint ∉ excluded := by
  simpa using hmem

/-! ## One step -/

variable {codec : Codec} {session : SpendSession}

/-- A pick takes nothing that is locked or committed. -/
theorem SpendSession.Sound.pick (hsound : session.Sound) {name : Nat} {candidates : List OutPoint}
    (hpick : Undisturbed codec session (.pick name candidates)) :
    (spendStep codec session (.pick name candidates)).Sound := by
  rw [spendStep]
  cases hstage : session.spends name with
  | none => exact hsound
  | some stage =>
    have hholds := hsound.stages name stage hstage
    have huncommitted : ∀ outpoint ∈ candidates, stage.MayPick outpoint →
        ¬ PendingInput session.intents.stored outpoint := by
      intro outpoint hmem hmay hpending
      exact hholds.uncommitted outpoint
        (hpick stage hstage outpoint hmem hmay hpending) hpending
    cases stage with
    | listing | checking | checked | migrating => exact hsound
    | redeeming overlap excluded =>
      apply SpendSession.Sound.finish
      apply hsound.choose
      · intro outpoint hmem
        exact hholds.unlocked outpoint (notMem_of_mem_filter_exclusions hmem).2
      · intro outpoint hmem
        have hcandidate := notMem_of_mem_filter_exclusions hmem
        exact huncommitted outpoint hcandidate.1 hcandidate.2
    | migratePass taken excluded =>
      apply SpendSession.Sound.setStage
      · apply hsound.choose
        · intro outpoint hmem
          exact hholds.unlocked outpoint (notMem_of_mem_filter_exclusions hmem).2
        · intro outpoint hmem
          have hcandidate := notMem_of_mem_filter_exclusions hmem
          exact huncommitted outpoint hcandidate.1 hcandidate.2
      · exact {
          unlocked := by intro outpoint hpast; cases hpast
          uncommitted := by
            -- What the passes have not taken was not taken before this one.
            intro outpoint hpast
            apply hholds.uncommitted outpoint
            intro htaken
            exact hpast (List.mem_append_left _ htaken) }

/-- One undisturbed step. -/
theorem SpendSession.Sound.step (op : SpendOp) (hop : Undisturbed codec session op)
    (hsound : session.Sound) : (spendStep codec session op).Sound := by
  cases op with
  | exit op => exact hsound.exit hop
  | intent op =>
    have hstored := hsound.store hop
    exact { stages := hstored.stages, clean := hstored.clean }
  | send listed picks =>
    apply hsound.choose
    · intro outpoint hmem
      exact (notMem_of_mem_filter_exclusions (List.mem_filter.mp hmem).1).2
    · intro outpoint hmem
      have hlisted := notMem_of_mem_filter_exclusions (List.mem_filter.mp hmem).1
      exact hop outpoint hlisted.1 hlisted.2
  | renew name expiring idle =>
    rw [spendStep]
    split
    · exact hsound
    · apply hsound.beginOverlapCheck
      intro _ outpoint hmem
      exact (notMem_of_mem_filter_exclusions hmem).2
  | collaborativeExit name idle =>
    rw [spendStep]
    split
    · exact hsound
    · apply hsound.beginOverlapCheck
      intro hne
      exact absurd rfl hne
  | redeem name =>
    rw [spendStep]
    split
    · rename_i overlap hstage
      have hholds := hsound.stages name _ hstage
      apply hsound.setStage
      exact { unlocked := by intro outpoint hpast; exact hpast
              uncommitted := hholds.uncommitted }
    · exact hsound
  | recover name =>
    rw [spendStep]
    split
    · exact hsound
    · apply hsound.setStage
      exact { unlocked := by intro outpoint hpast; exact hpast
              uncommitted := by intro outpoint hpast; cases hpast }
  | recoverList name settleable idle =>
    rw [spendStep]
    split
    · rename_i excluded hstage
      have hholds := hsound.stages name _ hstage
      dsimp only
      split
      · exact hsound.finish
      · apply hsound.beginOverlapCheck
        intro _ outpoint hmem
        exact hholds.unlocked outpoint (notMem_of_mem_filter_exclusions hmem).2
    · exact hsound
  | reconciled name answers =>
    rw [spendStep]
    split
    · rename_i spend outpoints pending hstage
      have hholds := hsound.stages name _ hstage
      split
      · exact hsound.finish
      · rename_i remaining finalizedTxid hloop
        have hstored := hsound.store
          (hop spend outpoints pending hstage remaining finalizedTxid hloop)
        apply hstored.overlapCheck
        intro hne outpoint hmem
        exact hholds.unlocked outpoint ⟨hne, hmem⟩
    · exact hsound
  | migrate name =>
    rw [spendStep]
    split
    · exact hsound
    · split
      · rename_i hempty
        apply hsound.setStage
        exact { unlocked := by intro outpoint hpast; cases hpast
                uncommitted := by
                  intro outpoint _
                  exact not_pendingInput_of_isEmpty hempty }
      · exact hsound
  | migratePass name =>
    rw [spendStep]
    split
    · rename_i taken hstage
      have hholds := hsound.stages name _ hstage
      apply hsound.setStage
      exact { unlocked := by intro outpoint hpast; exact hpast
              uncommitted := hholds.uncommitted }
    · exact hsound
  | pick name candidates => exact hsound.pick hop
  | finish name => exact hsound.finish

/-- Along an undisturbed run every operation chooses inputs that are neither locked from it
nor committed. -/
theorem undisturbed_choices_clean (codec : Codec) (session : SpendSession) (ops : List SpendOp)
    (hfresh : session.Fresh)
    (hmeets : RunMeets (spendStep codec) (Undisturbed codec) session ops) :
    (spendRun codec session ops).AllClean := by
  have hsound : (spendRun codec session ops).Sound := by
    apply run_invariant_of_runMeets SpendSession.Sound _ (.of_fresh hfresh) hmeets
    intro reached op hop hreached
    exact hreached.step op hop
  exact hsound.clean

def idleSpendSession : SpendSession where
  db := sampleDb
  intents := { stored := [], reconciles := fun _ => none }
  spends := fun _ => none
  choices := []

def sampleOutPoint : OutPoint where
  txid := sampleHost
  vout := 0

def leafIntent : PendingBatchIntentRecord :=
  { sampleIntent with vtxoOutpoints := [outpointRecord sampleOutPoint] }

def waitingRenewal : List SpendOp :=
  [.intent (.write (.upsert boardingIntent)), .renew 0 [sampleOutPoint] false]

theorem spends_waitingRenewal : (spendRun sampleCodec idleSpendSession waitingRenewal).spends =
    Function.update (fun _ => none) 0 (some (.checking .renew
      ([sampleOutPoint].filter fun outpoint => outpoint ∉ spendLockedOutpoints sampleDb)
      [boardingIntent])) := rfl

theorem not_pastIntentCheck_waitingRenewal {name : Nat} {stage : SpendStage}
    (hstage : (spendRun sampleCodec idleSpendSession waitingRenewal).spends name = some stage)
    (outpoint : OutPoint) : ¬ stage.PastIntentCheck outpoint := by
  rw [spends_waitingRenewal] at hstage
  by_cases hname : name = 0
  · subst hname
    rw [Function.update_self, Option.some.injEq] at hstage
    subst hstage
    exact not_false
  · rw [Function.update_of_ne hname] at hstage
    cases hstage

/-- The waiting renewal chooses its output whatever happens to the exit records. -/
theorem mem_choices_waitingRenewal (op : ExitOp) :
    { spender := .renew, outpoints := [sampleOutPoint], db := exitStep sampleCodec sampleDb op,
      stored := [boardingIntent] } ∈ (spendRun sampleCodec idleSpendSession
        (waitingRenewal ++ [.exit op, .reconciled 0 unspentAnswers])).choices := by
  have hlisted : ([sampleOutPoint].filter fun outpoint =>
      outpoint ∉ spendLockedOutpoints sampleDb) = [sampleOutPoint] := by decide +kernel
  have hpending : reconcileLoop unspentAnswers 0 [] none [boardingIntent] =
      .ok ([boardingIntent], none) := rfl
  have hfree : findOverlappingPendingIntent [boardingIntent] [] [sampleOutPoint] = none := by
    decide +kernel
  have hdb : (spendRun sampleCodec idleSpendSession waitingRenewal).db = sampleDb := rfl
  have hspends := congrFun spends_waitingRenewal 0
  rw [Function.update_self, hlisted] at hspends
  rw [spendRun, run_append]
  change _ ∈ (spendStep sampleCodec (spendStep sampleCodec
    (spendRun sampleCodec idleSpendSession waitingRenewal) (.exit op))
    (.reconciled 0 unspentAnswers)).choices
  simp [spendStep, hspends, hpending, hfree, hdb, SpendSession.overlapCheck, SpendSession.store,
    SpendSession.choose, SpendSession.setStage, CheckedSpend.spender]

/-- An intent on another output is stored while the renewal waits, and it renews the leaf. -/
theorem undisturbed_choices_clean_waitingRenewal :
    (spendRun sampleCodec idleSpendSession
        (waitingRenewal ++ [.intent (.write (.upsert freshIntent)),
          .reconciled 0 unspentAnswers])).AllClean ∧
      (spendRun sampleCodec idleSpendSession
        (waitingRenewal ++ [.intent (.write (.upsert freshIntent)),
          .reconciled 0 unspentAnswers])).choices.map InputChoice.outpoints =
        [[sampleOutPoint]] := by
  constructor
  · apply undisturbed_choices_clean sampleCodec idleSpendSession _ ⟨fun _ => rfl, rfl⟩
    rw [runMeets_append]
    have hstart : RunMeets (spendStep sampleCodec) (Undisturbed sampleCodec) idleSpendSession
        waitingRenewal := by
      refine ⟨?_, trivial, trivial⟩
      intro name stage hstage
      cases hstage
    have hwrite : Undisturbed sampleCodec
        (spendRun sampleCodec idleSpendSession waitingRenewal)
        (.intent (.write (.upsert freshIntent))) := by
      intro name stage hstage outpoint hpast
      exact absurd hpast (not_pastIntentCheck_waitingRenewal hstage outpoint)
    refine ⟨hstart, hwrite, ?_, trivial⟩
    intro spend outpoints pending _ remaining finalizedTxid _ name stage hstage outpoint hpast
    exact absurd hpast (not_pastIntentCheck_waitingRenewal hstage outpoint)
  · decide +kernel

/-- A send takes an output that a stored intent has committed, a renewal one that was tagged
for an exit while it waited, and a migration one that was committed after it had started. -/
theorem choices_not_clean :
    idleSpendSession.Fresh ∧
      ¬ (spendRun sampleCodec idleSpendSession
        [.intent (.write (.upsert leafIntent)), .send [sampleOutPoint] [sampleOutPoint]]).AllClean ∧
      ¬ (spendRun sampleCodec idleSpendSession
        (waitingRenewal ++ [.exit (.tag [sampleLeaf] 0), .reconciled 0 unspentAnswers])).AllClean ∧
      ¬ (spendRun sampleCodec idleSpendSession
        [.migrate 0, .migratePass 0, .intent (.write (.upsert leafIntent)),
          .pick 0 [sampleOutPoint]]).AllClean := by
  refine ⟨⟨fun _ => rfl, rfl⟩, ?_, ?_, ?_⟩
  · decide +kernel
  · obtain ⟨record, hrecord, -, hphase⟩ := tag_inserts_leaf 0
      (rfl : sampleDb.offchainVtxoSnapshot = some sampleSnapshot)
      (materialsForUnrollHostTx_sample rfl) vtxoChainsFromJson_sampleMaterials rfl
      (by simp [sampleDb])
    intro hclean
    have hfree := (hclean _ (mem_choices_waitingRenewal _) sampleOutPoint List.mem_cons_self).1
    dsimp only [Spender.lockedOutpoints] at hfree
    exact hfree (mem_unilateralExitSpendLockedOutpoints hrecord (by rw [hphase]; rfl))
  · decide +kernel

end Bitboard.Arkade
