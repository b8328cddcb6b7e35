/-
# Runs of the job stores

A scheduled write stores whatever the memory holds when its turn comes. So the job of
the last change becomes durable if, until then, nothing but another change touches the
memory; and a hydrate is harmless if what it read is still the durable job, with no
write outstanding, when it replaces the memory. `JobStoreSound` says this of a state,
and every orderly step keeps it.
-/

import Bitboard.Frontend.JobPersistence

namespace Bitboard.Frontend

open Bitboard.Lib

variable {store : JobStore} {op : JobStoreOp} {name : Nat}
variable {job : PersistedUnilateralExitJob}

theorem eq_nil_of_cacheKey_eq_empty {outpoints : List ArkadeVtxoOutpoint}
    (h : arkadeVtxoOutpointCacheKey outpoints = "") : outpoints = [] := by
  have hlength : (sortArkadeVtxoOutpoints outpoints).length = outpoints.length :=
    List.length_mergeSort outpoints
  unfold arkadeVtxoOutpointCacheKey at h
  cases hsorted : sortArkadeVtxoOutpoints outpoints with
  | nil =>
    rw [hsorted] at hlength
    exact List.length_eq_zero_iff.mp hlength.symm
  | cons first rest =>
    rw [hsorted] at h
    cases rest with
    | nil => simp at h
    | cons second rest => simp [String.intercalate_cons_cons] at h

theorem newActivePersistedJob_eq_of_unchanged {before : PersistedUnilateralExitJob}
    {sorted : List ArkadeVtxoOutpoint} {now : Int}
    (hchanged : ¬ persistedJobOutpointsUnchanged before sorted = true)
    (hstarted : before.jobStartedAtUnix = some now)
    (hrelayed : before.currentStepRelayedSinceUnix = none)
    (hkey : arkadeVtxoOutpointCacheKey before.selectedLeafOutpoints =
      arkadeVtxoOutpointCacheKey sorted) :
    newActivePersistedJob sorted now = before := by
  have hbefore : before.selectedLeafOutpoints = [] := by
    simpa [persistedJobOutpointsUnchanged, hkey] using hchanged
  have hsorted : sorted = [] := by
    apply eq_nil_of_cacheKey_eq_empty
    rw [← hkey, hbefore]
    simp [arkadeVtxoOutpointCacheKey, sortArkadeVtxoOutpoints]
  cases before with
  | mk outpoints relayed started =>
    simp only at hstarted hrelayed hbefore
    simp [newActivePersistedJob, hsorted, hstarted, hrelayed, hbefore]

theorem ensurePersistedUnilateralExitJob_cases (outpoints : List ArkadeVtxoOutpoint) (now : Int) :
    (∃ job, store.ensurePersistedUnilateralExitJob outpoints now = store.writeJob job) ∨
      store.ensurePersistedUnilateralExitJob outpoints now = store ∨
      store.ensurePersistedUnilateralExitJob outpoints now =
        { store with memory := some store.getJob } := by
  simp only [JobStore.ensurePersistedUnilateralExitJob]
  split
  · exact .inr (.inl rfl)
  · rename_i hchanged
    split
    · exact .inl ⟨_, rfl⟩
    · rename_i hsame
      right
      right
      simp only [newActivePersistedJob, ne_eq, not_or, not_not] at hsame
      have hjob := newActivePersistedJob_eq_of_unchanged hchanged hsame.1 hsame.2.1 hsame.2.2
      rw [hjob]

/-- The durable job, the write in flight and the memory, whichever is due, hold the job of
the last change, and every hydrate past its read works with the durable job. -/
structure JobStoreSound (store : JobStore) : Prop where
  queued : 0 < store.queued → ∃ job, store.memory = some job ∧ store.lastJob = some job
  inFlight : store.queued = 0 → ∀ job, store.inFlight = some job → store.lastJob = some job
  settled : store.queued = 0 → store.inFlight = none →
    ∀ job, store.lastJob = some job → store.durable = some job
  pastRead : ∀ name hydrate, store.hydrates name = some hydrate → hydrate.isPastRead = true →
    store.queued = 0 ∧ store.inFlight = none
  applying : ∀ name job, store.hydrates name = some (.applying job) → store.durable = some job
  migrating : ∀ name hydrate, store.hydrates name = some hydrate → hydrate.isMigrating = true →
    store.durable = none ∧ ∀ other otherHydrate, store.hydrates other = some otherHydrate →
      otherHydrate.isMigrating = true → other = name

/-- The steps of an orderly run. The job is changed only while no hydrate is between its read
and its write to memory; the memory is reset only while no scheduled write waits for its
turn; a hydrate reads the bundle only while no write is outstanding and no other hydrate
migrates the settings row; and no write fails. -/
def Orderly (store : JobStore) : JobStoreOp → Prop
  | .persistActive _ _ | .ensure _ _ | .updateRelayWait _ | .clear =>
    ∀ name hydrate, store.hydrates name = some hydrate → hydrate.isPastRead = false
  | .reset => store.queued = 0
  | .settleWrite stored => stored = true
  | .advance name => store.hydrates name = some .reading →
      store.queued = 0 ∧ store.inFlight = none ∧
        ∀ other hydrate, store.hydrates other = some hydrate → hydrate.isMigrating = false
  | .beginWrite | .hydrate _ | .abandon _ => True

variable {hydrate : Hydrate}

theorem Hydrate.isPastRead_of_isMigrating (h : hydrate.isMigrating = true) :
    hydrate.isPastRead = true := by
  cases hydrate with
  | reading | applying | cleaning => cases h
  | readingSettings | storing => rfl

theorem hydrates_of_setHydrate {other : Nat} {hydrate : Option Hydrate} {found : Hydrate}
    (h : (store.setHydrate name hydrate).hydrates other = some found) :
    other = name ∧ hydrate = some found ∨ store.hydrates other = some found := by
  by_cases hother : other = name
  · subst hother
    left
    exact ⟨rfl, by simpa [JobStore.setHydrate] using h⟩
  · right
    simpa [JobStore.setHydrate, hother] using h

namespace JobStoreSound

theorem writeJob (job : PersistedUnilateralExitJob)
    (hquiet : ∀ name hydrate, store.hydrates name = some hydrate → hydrate.isPastRead = false) :
    JobStoreSound (store.writeJob job) where
  queued := fun _ => ⟨job, rfl, rfl⟩
  inFlight := fun hqueued => absurd hqueued (Nat.succ_ne_zero _)
  settled := fun hqueued => absurd hqueued (Nat.succ_ne_zero _)
  pastRead := by
    intro name hydrate hhydrate hpast
    rw [hquiet name hydrate hhydrate] at hpast
    cases hpast
  applying := by
    intro name job hhydrate
    cases hquiet name _ hhydrate
  migrating := by
    intro name hydrate hhydrate hmigrating
    have hpast := Hydrate.isPastRead_of_isMigrating hmigrating
    rw [hquiet name hydrate hhydrate] at hpast
    cases hpast

section

variable (h : JobStoreSound store)
include h

theorem setMemory (memory : Option PersistedUnilateralExitJob) (hydrated : Bool)
    (hmemory : 0 < store.queued → ∃ job, memory = some job ∧ store.lastJob = some job) :
    JobStoreSound { store with memory, hydrated } := { h with
  queued := hmemory }

theorem ensure (outpoints : List ArkadeVtxoOutpoint) (now : Int)
    (hquiet : ∀ name hydrate, store.hydrates name = some hydrate → hydrate.isPastRead = false) :
    JobStoreSound (store.ensurePersistedUnilateralExitJob outpoints now) := by
  rcases ensurePersistedUnilateralExitJob_cases outpoints now with ⟨job, heq⟩ | heq | heq
  · rw [heq]
    exact writeJob job hquiet
  · rw [heq]
    exact h
  · rw [heq]
    apply h.setMemory (some store.getJob) store.hydrated
    intro hqueued
    obtain ⟨job, hmemory, hlast⟩ := h.queued hqueued
    exact ⟨job, by simp [JobStore.getJob, hmemory], hlast⟩

theorem updateRelayWait (sinceUnix : Option Int)
    (hquiet : ∀ name hydrate, store.hydrates name = some hydrate → hydrate.isPastRead = false) :
    JobStoreSound (store.updatePersistedUnilateralExitRelayWait sinceUnix) := by
  simp only [JobStore.updatePersistedUnilateralExitRelayWait]
  split
  · exact h
  · exact writeJob _ hquiet

theorem beginWrite : JobStoreSound store.beginWrite := by
  unfold JobStore.beginWrite
  split
  · rename_i queued hflight hqueued
    obtain ⟨job, hmemory, hlast⟩ := h.queued (hqueued ▸ Nat.succ_pos queued)
    have hjob : store.getJob = job := by simp [JobStore.getJob, hmemory]
    have hnone : ∀ name hydrate, store.hydrates name = some hydrate →
        hydrate.isPastRead = false := by
      intro name hydrate hhydrate
      rw [← Bool.not_eq_true]
      intro hpast
      rw [(h.pastRead name hydrate hhydrate hpast).1] at hqueued
      cases hqueued
    constructor
    · exact fun _ => ⟨job, hmemory, hlast⟩
    · intro _ read hread
      rw [← Option.some.inj hread, hjob]
      exact hlast
    · intro _ hread
      cases hread
    · intro name hydrate hhydrate hpast
      rw [hnone name hydrate hhydrate] at hpast
      cases hpast
    · exact h.applying
    · exact h.migrating
  · exact h

theorem settleWrite : JobStoreSound (store.settleWrite true) := by
  unfold JobStore.settleWrite
  split
  · exact h
  · rename_i read hread
    have hnone : ∀ name hydrate, store.hydrates name = some hydrate →
        hydrate.isPastRead = false := by
      intro name hydrate hhydrate
      rw [← Bool.not_eq_true]
      intro hpast
      rw [(h.pastRead name hydrate hhydrate hpast).2] at hread
      cases hread
    constructor
    · exact h.queued
    · intro _ job hjob
      cases hjob
    · intro hqueued _ job hjob
      rw [h.inFlight hqueued read hread] at hjob
      simpa using hjob
    · intro name hydrate hhydrate hpast
      rw [hnone name hydrate hhydrate] at hpast
      cases hpast
    · intro name job hhydrate
      cases hnone name _ hhydrate
    · intro name hydrate hhydrate hmigrating
      have hpast := Hydrate.isPastRead_of_isMigrating hmigrating
      rw [hnone name hydrate hhydrate] at hpast
      cases hpast

end

structure HydrateFits (store : JobStore) (name : Nat) (hydrate : Hydrate) : Prop where
  pastRead : hydrate.isPastRead = true → store.queued = 0 ∧ store.inFlight = none
  applying : ∀ job, hydrate = .applying job → store.durable = some job
  migrating : hydrate.isMigrating = true → store.durable = none ∧
    ∀ other found, store.hydrates other = some found → found.isMigrating = true → other = name

theorem setHydrate (h : JobStoreSound store) {hydrate : Option Hydrate}
    (hfits : ∀ found, hydrate = some found → HydrateFits store name found) :
    JobStoreSound (store.setHydrate name hydrate) := by
  constructor
  · exact h.queued
  · exact h.inFlight
  · exact h.settled
  · intro other found hfound hpast
    cases hydrates_of_setHydrate hfound with
    | inl hnew => exact (hfits found hnew.2).pastRead hpast
    | inr hold => exact h.pastRead other found hold hpast
  · intro other job hfound
    cases hydrates_of_setHydrate hfound with
    | inl hnew => exact (hfits _ hnew.2).applying job rfl
    | inr hold => exact h.applying other job hold
  · intro other found hfound hmigrating
    have hthis : store.durable = none ∧ ∀ third thirdFound,
        store.hydrates third = some thirdFound → thirdFound.isMigrating = true → third = other := by
      cases hydrates_of_setHydrate hfound with
      | inl hnew =>
        rw [hnew.1]
        exact (hfits found hnew.2).migrating hmigrating
      | inr hold => exact h.migrating other found hold hmigrating
    constructor
    · exact hthis.1
    · intro third thirdFound hthird hthirdMigrating
      cases hydrates_of_setHydrate hthird with
      | inr hold => exact hthis.2 third thirdFound hold hthirdMigrating
      | inl hnew =>
        -- The new phase is the only one that migrates, so it is `other`'s as well.
        have honly := (hfits thirdFound hnew.2).migrating hthirdMigrating
        cases hydrates_of_setHydrate hfound with
        | inl hother => exact hnew.1.trans hother.1.symm
        | inr hold => exact hnew.1.trans (honly.2 other found hold hmigrating).symm

theorem HydrateFits.of_quiet (hquiet : hydrate.isPastRead = false) :
    HydrateFits store name hydrate where
  pastRead := by
    intro hpast
    rw [hquiet] at hpast
    cases hpast
  applying := by
    intro job happlying
    subst happlying
    cases hquiet
  migrating := by
    intro hmigrating
    rw [Hydrate.isPastRead_of_isMigrating hmigrating] at hquiet
    cases hquiet

section

variable (h : JobStoreSound store)
include h

theorem readBundle (hqueued : store.queued = 0) (hflight : store.inFlight = none)
    (hothers : ∀ other hydrate, store.hydrates other = some hydrate →
      hydrate.isMigrating = false) : JobStoreSound (store.readBundle name) := by
  unfold JobStore.readBundle
  split
  · rename_i job hdurable
    apply h.setHydrate
    intro found hfound
    cases hfound
    constructor
    · exact fun _ => ⟨hqueued, hflight⟩
    · intro read heq
      cases heq
      exact hdurable
    · intro hmigrating
      cases hmigrating
  · rename_i hdurable
    apply h.setHydrate
    intro found hfound
    cases hfound
    constructor
    · exact fun _ => ⟨hqueued, hflight⟩
    · intro job heq
      cases heq
    · intro _
      constructor
      · exact hdurable
      · intro other hydrate hother hmigrating
        rw [hothers other hydrate hother] at hmigrating
        cases hmigrating

/-- The migrated job becomes the durable one, and no other hydrate knew a durable job. -/
theorem storeBundle {job : PersistedUnilateralExitJob}
    (hstoring : store.hydrates name = some (.storing job)) :
    JobStoreSound (store.storeBundle name job) := by
  obtain ⟨hqueued, hflight⟩ := h.pastRead name _ hstoring rfl
  obtain ⟨hdurable, honly⟩ := h.migrating name _ hstoring rfl
  have hlast : store.lastJob = none := by
    cases hlast : store.lastJob with
    | none => rfl
    | some last =>
      rw [h.settled hqueued hflight last hlast] at hdurable
      cases hdurable
  constructor
  · intro hpositive
    exact absurd hqueued (Nat.ne_of_gt hpositive)
  · intro _ read hread
    cases hflight.symm.trans hread
  · intro _ _ last hafter
    change store.lastJob.or (some job) = some last at hafter
    rw [hlast] at hafter
    exact hafter
  · exact fun _ _ _ _ => ⟨hqueued, hflight⟩
  · intro other applied hother
    cases hydrates_of_setHydrate hother with
    | inl hnew =>
      cases hnew.2
      rfl
    | inr hold =>
      cases hdurable.symm.trans (h.applying other applied hold)
  · intro other found hother hmigrating
    cases hydrates_of_setHydrate hother with
    | inl hnew =>
      cases hnew.2
      cases hmigrating
    | inr hold =>
      -- The only migration was that of `name`, which is past it now.
      have hname := honly other found hold hmigrating
      subst hname
      simp only [JobStore.storeBundle, JobStore.setHydrate, Function.update_self] at hother
      cases hother
      cases hmigrating

theorem hydrateJob {job : PersistedUnilateralExitJob}
    (happlying : store.hydrates name = some (.applying job)) :
    JobStoreSound (store.hydrateJob name job) := by
  obtain ⟨hqueued, -⟩ := h.pastRead name _ happlying rfl
  apply setHydrate
  · apply h.setMemory (some job) true
    intro hpositive
    exact absurd hqueued (Nat.ne_of_gt hpositive)
  · intro found hfound
    cases hfound
    exact .of_quiet rfl

theorem advance (horderly : Orderly store (.advance name))
    (hhydrate : store.hydrates name = some hydrate) :
    JobStoreSound (advanceHydrate store name hydrate) := by
  cases hydrate with
  | reading =>
    obtain ⟨hqueued, hflight, hothers⟩ := horderly hhydrate
    exact h.readBundle hqueued hflight hothers
  | readingSettings =>
    apply h.setHydrate
    intro found hfound
    cases hfound
    constructor
    · exact fun _ => h.pastRead name _ hhydrate rfl
    · intro job heq
      cases heq
    · exact fun _ => h.migrating name _ hhydrate rfl
  | storing job => exact h.storeBundle hhydrate
  | applying job => exact h.hydrateJob hhydrate
  | cleaning =>
    apply setHydrate
    · exact ⟨h.queued, h.inFlight, h.settled, h.pastRead, h.applying, h.migrating⟩
    · intro found hfound
      cases hfound

theorem step (horderly : Orderly store op) : JobStoreSound (jobStoreStep store op) := by
  cases op with
  | persistActive | clear => exact writeJob _ horderly
  | ensure outpoints now => exact h.ensure outpoints now horderly
  | updateRelayWait sinceUnix => exact h.updateRelayWait sinceUnix horderly
  | reset =>
    apply h.setMemory none false
    intro hpositive
    exact absurd horderly (Nat.ne_of_gt hpositive)
  | beginWrite => exact h.beginWrite
  | settleWrite stored =>
    rw [show stored = true from horderly]
    exact h.settleWrite
  | hydrate name =>
    simp only [jobStoreStep]
    split
    · exact h
    · apply h.setHydrate
      intro found hfound
      cases hfound
      exact .of_quiet rfl
  | advance name =>
    simp only [jobStoreStep]
    split
    · exact h
    · rename_i hydrate hhydrate
      exact h.advance horderly hhydrate
  | abandon name =>
    apply h.setHydrate
    intro found hfound
    cases hfound

end

end JobStoreSound

/-! ## Runs -/

/-- Once the scheduled writes have settled, the durable job is the job of the last change. -/
def DurableIsLast (store : JobStore) : Prop :=
  store.queued = 0 → store.inFlight = none →
    ∀ job, store.lastJob = some job → store.durable = some job

/-- A step of a hydrate leaves a memory that holds the job of the last change as it is. -/
def KeepsLastInMemory (before after : JobStore) : Prop :=
  ∀ job, before.memory = some job → before.lastJob = some job → after.memory = some job

/-- Nothing is scheduled and no hydrate is under way; the job to keep is the durable one. -/
structure AtRest (store : JobStore) : Prop where
  queued : store.queued = 0
  inFlight : store.inFlight = none
  hydrates : ∀ name, store.hydrates name = none
  lastJob : store.lastJob = store.durable

theorem AtRest.sound (h : AtRest store) : JobStoreSound store where
  queued := fun hpositive => absurd h.queued (Nat.ne_of_gt hpositive)
  inFlight := by
    intro _ job hjob
    cases h.inFlight.symm.trans hjob
  settled := fun _ _ job hjob => h.lastJob.symm.trans hjob
  pastRead := fun _ _ _ _ => ⟨h.queued, h.inFlight⟩
  applying := by
    intro name job hhydrate
    cases (h.hydrates name).symm.trans hhydrate
  migrating := by
    intro name hydrate hhydrate
    cases (h.hydrates name).symm.trans hhydrate

theorem JobStoreSound.keepsLastInMemory (h : JobStoreSound store) (name : Nat) :
    KeepsLastInMemory store (jobStoreStep store (.advance name)) := by
  intro job hmemory hlast
  simp only [jobStoreStep]
  split
  · exact hmemory
  · rename_i hydrate hhydrate
    cases hydrate with
    | reading =>
      simp only [advanceHydrate, JobStore.readBundle]
      split <;> exact hmemory
    | readingSettings | storing | cleaning => exact hmemory
    | applying applied =>
      obtain ⟨hqueued, hflight⟩ := h.pastRead name _ hhydrate rfl
      have hdurable := h.settled hqueued hflight job hlast
      rw [h.applying name applied hhydrate] at hdurable
      exact hdurable

/-- Along an orderly run the durable job is, whenever the writes have settled, the job of the
last persist, update or clear, and no hydrate replaces that job in memory by another. -/
theorem durableIsLast_of_orderly {start : JobStore} (hrest : AtRest start)
    {ops : List JobStoreOp} (hmeets : RunMeets jobStoreStep Orderly start ops)
    {first rest : List JobStoreOp} (hops : ops = first ++ rest) :
    DurableIsLast (jobStoreRun start first) ∧
      ∀ name, KeepsLastInMemory (jobStoreRun start first)
        (jobStoreStep (jobStoreRun start first) (.advance name)) := by
  subst hops
  have hsound : JobStoreSound (jobStoreRun start first) := by
    apply run_invariant_of_runMeets JobStoreSound _ hrest.sound (runMeets_append.mp hmeets).1
    intro state input horderly hstate
    exact hstate.step horderly
  constructor
  · exact hsound.settled
  · exact hsound.keepsLastInMemory

def sampleOutpoint : ArkadeVtxoOutpoint where
  txid := "aa"
  vout := 0

def sampleJobStore : JobStore where
  memory := some emptyPersistedUnilateralExitJob
  hydrated := true
  durable := some emptyPersistedUnilateralExitJob
  settingsJob := none
  queued := 0
  inFlight := none
  hydrates := fun _ => none
  lastJob := some emptyPersistedUnilateralExitJob

theorem atRest_sampleJobStore : AtRest sampleJobStore := ⟨rfl, rfl, fun _ => rfl, rfl⟩

def tornDownOps : List JobStoreOp :=
  [.persistActive [sampleOutpoint] 0, .beginWrite, .updateRelayWait (some 5), .reset,
    .settleWrite true, .beginWrite, .settleWrite true]

/-- The second write finds no job in memory and stores an empty one over the first. -/
theorem not_durableIsLast_tornDown :
    AtRest sampleJobStore ∧ ¬ DurableIsLast (jobStoreRun sampleJobStore tornDownOps) := by
  constructor
  · exact atRest_sampleJobStore
  · intro h
    have hdurable := h rfl rfl _ rfl
    have hsince := congrArg (Option.map PersistedUnilateralExitJob.currentStepRelayedSinceUnix)
      hdurable
    cases hsince

def resumedOps : List JobStoreOp :=
  [.persistActive [sampleOutpoint] 0, .beginWrite, .settleWrite true, .reset, .hydrate 0,
    .advance 0, .advance 0]

theorem durableIsLast_resumed :
    (DurableIsLast (jobStoreRun sampleJobStore resumedOps) ∧
      ∀ name, KeepsLastInMemory (jobStoreRun sampleJobStore resumedOps)
        (jobStoreStep (jobStoreRun sampleJobStore resumedOps) (.advance name))) ∧
    (jobStoreRun sampleJobStore resumedOps).memory =
      some (newActivePersistedJob (sortArkadeVtxoOutpoints [sampleOutpoint]) 0) := by
  constructor
  · have hmeets : RunMeets jobStoreStep Orderly sampleJobStore resumedOps := by
      refine ⟨?_, trivial, rfl, rfl, trivial, ?_, ?_, trivial⟩
      · intro name hydrate hhydrate
        cases hhydrate
      · intro _
        refine ⟨rfl, rfl, ?_⟩
        intro other hydrate hother
        cases hydrates_of_setHydrate hother with
        | inl hnew =>
            cases hnew.2
            rfl
        | inr hold => cases hold
      · intro hreading
        cases hreading
    exact durableIsLast_of_orderly atRest_sampleJobStore hmeets (List.append_nil _).symm
  · rfl

end Bitboard.Frontend
