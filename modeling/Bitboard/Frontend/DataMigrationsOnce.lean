/-
# Runs of the migrations

In every run each wallet has, beside the markers it started with, exactly those of the
migrations that were applied to it, each once; a wallet that was created has all markers and
is never migrated; and a runner that has returned leaves no wallet with a pending migration.
-/

import Bitboard.Frontend.DataMigrationsRuns

namespace Bitboard.Frontend

open Bitboard.Lib Bitboard.Wallet

variable {walletId : Nat}

section Once

variable {Id Random : Type}
variable (codec : PayloadCodec JsonValue Random) (registry : List WalletDataMigration)

/-- The attempt of a call is sound, and a runner has passed only wallets that have all markers. -/
def MigrationTask.Sound (tables : WalletTables) : MigrationTask Random → Prop
  | .update walletId transform maxRetries phase =>
    CallSound codec tables walletId
      { update := ordinaryUpdate transform, maxRetries := maxRetries, phase := phase }
  | .runner _ (.checking _ rest) =>
    ∀ walletId ∈ tables.walletIds, walletId ∈ rest ∨ tables.Complete registry walletId
  | .runner _ (.updating chain walletId rest phase) =>
    CallSound codec tables walletId (migrationCall registry chain phase) ∧ phase ≠ .returned ∧
      ∀ other ∈ tables.walletIds, other ∈ rest ∨ other = walletId ∨ tables.Complete registry other
  | .runner _ .returned => ∀ walletId ∈ tables.walletIds, tables.Complete registry walletId
  | _ => True

/-- The id with which a creation will store its secrets. -/
def MigrationTask.storing : MigrationTask Random → Option Nat
  | .creation _ _ (.storing walletId) => some walletId
  | _ => none

/-- What holds in every state: the tables hold what the writes amount to, the ids are given out
once, and the calls are sound. -/
structure MigrationInv (start : WalletTables) (system : MigrationSystem Id Random) : Prop where
  hold : ∃ contents,
    system.log.foldlM (applyEvent codec registry) (startContents start) = .ok contents ∧
      WalletTables.Hold registry start system.tables contents
  fresh : ∀ walletId ∈ system.tables.walletIds, walletId < system.tables.nextWalletId
  kept : ∀ walletId ∈ start.walletIds, walletId ∈ system.tables.walletIds
  storing : ∀ id task walletId, system.tasks id = some task → task.storing = some walletId →
    walletId < system.tables.nextWalletId ∧ walletId ∉ system.tables.walletIds ∧
      ∀ other otherTask, system.tasks other = some otherTask →
        otherTask.storing = some walletId → other = id
  sound : ∀ id task, system.tasks id = some task → task.Sound codec registry system.tables

variable {codec registry} {start tables next : WalletTables} {task : MigrationTask Random}
  {system : MigrationSystem Id Random} {id : Id}

theorem MigrationTask.Sound.later (h : task.Sound codec registry tables)
    (hlater : tables.Later registry next) : task.Sound codec registry next := by
  cases task with
  | update walletId transform maxRetries phase => exact CallSound.later h hlater
  | creation payload mnemonic phase => trivial
  | runner attempt phase =>
    cases phase with
    | checking chain rest =>
      intro walletId hmem
      rcases hlater.new walletId hmem with hold | hcomplete
      · exact (h walletId hold).imp_right (hlater.complete hold)
      · exact Or.inr hcomplete
    | updating chain walletId rest phase =>
      refine ⟨h.1.later hlater, h.2.1, ?_⟩
      intro other hmem
      rcases hlater.new other hmem with hold | hcomplete
      · exact (h.2.2 other hold).imp_right (Or.imp_right (hlater.complete hold))
      · exact Or.inr (Or.inr hcomplete)
    | returned =>
      intro walletId hmem
      rcases hlater.new walletId hmem with hold | hcomplete
      · exact hlater.complete hold (h walletId hold)
      · exact hcomplete
    | device | listing | threw => trivial

variable [DecidableEq Id]
variable {tasks : Id → Option (MigrationTask Random)}

theorem forall_tasks_update {P : Id → MigrationTask Random → Prop} (hnew : P id task)
    (hold : ∀ other before, other ≠ id → tasks other = some before → P other before) (other : Id)
    (found : MigrationTask Random)
    (hfound : Function.update tasks id (some task) other = some found) : P other found := by
  obtain ⟨rfl, rfl⟩ | ⟨hother, hfound⟩ := update_some_cases hfound
  · exact hnew
  · exact hold other found hother hfound

theorem storing_of_update {next : Option (MigrationTask Random)}
    (hnext : ∀ task ∈ next, task.storing = none) {other : Id} {found : MigrationTask Random}
    (hfound : Function.update tasks id next other = some found)
    (hstoring : found.storing = some walletId) : other ≠ id ∧ tasks other = some found := by
  have hne : other ≠ id := by
    intro heq
    rw [heq, Function.update_self] at hfound
    rw [hnext found hfound] at hstoring
    cases hstoring
  rw [Function.update_of_ne hne] at hfound
  exact ⟨hne, hfound⟩

structure CallResult (codec : PayloadCodec JsonValue Random) (registry : List WalletDataMigration)
    (start tables : WalletTables) (result : MigrationResult Random) : Prop where
  nextWalletId : result.tables.nextWalletId = tables.nextWalletId
  walletIds : result.tables.walletIds = tables.walletIds
  later : tables.Later registry result.tables
  storing : result.task.storing = none
  sound : result.task.Sound codec registry result.tables
  hold : ∀ log contents,
    log.foldlM (applyEvent codec registry) (startContents start) = .ok contents →
    WalletTables.Hold registry start tables contents →
    ∃ after, (log ++ result.event.toList).foldlM (applyEvent codec registry)
        (startContents start) = .ok after ∧
      WalletTables.Hold registry start result.tables after

variable {result : MigrationResult Random}

theorem MigrationInv.callStep (h : MigrationInv codec registry start system)
    (hresult : CallResult codec registry start system.tables result) :
    MigrationInv codec registry start
      { tables := result.tables
        tasks := Function.update system.tasks id (some result.task)
        log := system.log ++ result.event.toList } where
  hold := by
    obtain ⟨contents, hlog, hhold⟩ := h.hold
    exact hresult.hold system.log contents hlog hhold
  fresh := by
    intro walletId hmem
    dsimp only at hmem ⊢
    rw [hresult.walletIds] at hmem
    rw [hresult.nextWalletId]
    exact h.fresh walletId hmem
  kept := by
    intro walletId hmem
    exact hresult.later.stay walletId (h.kept walletId hmem)
  storing := by
    have hnext : ∀ task ∈ some result.task, task.storing = none := by
      intro task htask
      cases htask
      exact hresult.storing
    intro other found walletId hfound hstoring
    dsimp only at hfound ⊢
    rw [hresult.walletIds, hresult.nextWalletId]
    have hbefore := (storing_of_update hnext hfound hstoring).2
    obtain ⟨hlt, hnot, hunique⟩ := h.storing other found walletId hbefore hstoring
    refine ⟨hlt, hnot, ?_⟩
    intro third thirdTask hthirdFound hthirdStoring
    have hthird := (storing_of_update hnext hthirdFound hthirdStoring).2
    exact hunique third thirdTask hthird hthirdStoring
  sound := by
    apply forall_tasks_update (P := fun _ found => found.Sound codec registry result.tables)
      hresult.sound
    intro other before _ hbefore
    exact (h.sound other before hbefore).later hresult.later

omit [DecidableEq Id] in
/-- A step that leaves the wallets and goes on soundly. -/
theorem callResult_of_none (hevent : result.event = none)
    (hnext : result.tables.nextWalletId = tables.nextWalletId)
    (hids : result.tables.walletIds = tables.walletIds)
    (hwallet : result.tables.wallet = tables.wallet) (hstoring : result.task.storing = none)
    (hsound : result.task.Sound codec registry tables) :
    CallResult codec registry start tables result where
  nextWalletId := hnext
  walletIds := hids
  later := later_of_same hids hwallet
  storing := hstoring
  sound := hsound.later (later_of_same hids hwallet)
  hold := by
    intro log contents hlog hhold
    refine ⟨contents, ?_, ?_⟩
    · rw [hevent]
      simpa using hlog
    · constructor
      · intro walletId hnot
        rw [hids] at hnot
        exact hhold.absent walletId hnot
      · intro walletId hmem
        rw [hids] at hmem
        rw [hwallet]
        exact hhold.stored walletId hmem

omit [DecidableEq Id] in
/-- A step that writes to one wallet what its event amounts to. -/
theorem callResult_of_event {event : MigrationEvent Random}
    {database : SecretsDatabase (List String)} (hevent : result.event = some event)
    (htables : result.tables = tables.setWallet walletId database)
    (hlater : tables.Later registry (tables.setWallet walletId database))
    (hstoring : result.task.storing = none)
    (hsound : result.task.Sound codec registry result.tables)
    (hhold : ∀ contents, WalletTables.Hold registry start tables contents →
      ∃ after, applyEvent codec registry contents event = .ok after ∧
      WalletTables.Hold registry start (tables.setWallet walletId database) after) :
    CallResult codec registry start tables result where
  nextWalletId := by
    rw [htables]
    rfl
  walletIds := by
    rw [htables]
    rfl
  later := by
    rw [htables]
    exact hlater
  storing := hstoring
  sound := hsound
  hold := by
    intro log contents hlog hbefore
    obtain ⟨after, hafter, hstored⟩ := hhold contents hbefore
    refine ⟨after, ?_, ?_⟩
    · rw [hevent]
      exact foldlM_concat_eq_ok hlog hafter
    · rw [htables]
      exact hstored

variable {phase : UpdatePhase (MigrationAmbient Random)}

omit [DecidableEq Id] in
/-- A step of an ordinary update writes its transform or nothing. -/
theorem callResult_ordinaryStep {maxRetries : Nat}
    {transform : Random → JsonValue → Except String JsonValue}
    (hsound : (MigrationTask.update walletId transform maxRetries phase).Sound codec registry
      tables) (input : UpdateInput Random)
    (hhold : ∃ contents, WalletTables.Hold registry start tables contents) :
    CallResult codec registry start tables
      (ordinaryStep codec tables walletId transform maxRetries phase input) := by
  have hcases := updateWalletStep_cases hsound input
  have hphase : (updateWalletStep codec tables walletId
      { update := ordinaryUpdate transform, maxRetries := maxRetries, phase := phase } input).1 =
    { update := ordinaryUpdate transform, maxRetries := maxRetries,
      phase := (updateWalletStep codec tables walletId
        { update := ordinaryUpdate transform, maxRetries := maxRetries, phase := phase }
        input).1.phase } := step_eq _
  unfold ordinaryStep
  generalize updateWalletStep codec tables walletId
    { update := ordinaryUpdate transform, maxRetries := maxRetries, phase := phase } input =
      result at hcases hphase
  rcases hcases with hwait | ⟨random, hwrite⟩
  · apply callResult_of_none
    · simp only [hwait.bytes, Option.map_none]
    · simp only [hwait.unchanged]
    · simp only [hwait.unchanged]
    · simp only [hwait.unchanged]
    · rfl
    · have hafter := hwait.sound
      rw [hphase] at hafter
      exact hafter
  · obtain ⟨database, htables, hrow, hcommit⟩ := hwrite.written
    obtain ⟨contents, hcontents⟩ := hhold
    have hmarkers := (hold_ordinaryUpdate hcontents hwrite.there hcommit).2
    apply callResult_of_event
    · simp only [hwrite.bytes, Option.map_some]
      rfl
    · exact htables
    · apply later_setWallet hrow
      rw [hmarkers]
      intro name hname
      exact hname
    · rfl
    · simp only [hwrite.returned]
      apply callSound_of_phase
      · intro attempt current hreturned
        cases hreturned
      · intro attempt current ambient nextPayload hreturned
        cases hreturned
    · intro contents hcontents
      exact (hold_ordinaryUpdate hcontents hwrite.there hcommit).1

omit [DecidableEq Id] in
theorem sound_retryRunner (attempt : Nat) (message : String) :
    (retryRunner attempt message : MigrationTask Random).Sound codec registry tables := by
  unfold retryRunner
  split
  · trivial
  · trivial

omit [DecidableEq Id] in
theorem storing_retryRunner (attempt : Nat) (message : String) :
    (retryRunner attempt message : MigrationTask Random).storing = none := by
  unfold retryRunner
  split
  · rfl
  · rfl

omit [DecidableEq Id] in
theorem storing_afterUpdate (attempt : Nat) (chain : HistoricalSignetOnchainChain)
    (walletId : Nat) (rest : List Nat) (phase : UpdatePhase (MigrationAmbient Random)) :
    (afterUpdate attempt chain walletId rest phase).storing = none := by
  cases phase with
  | threw message => exact storing_retryRunner attempt message
  | _ => rfl

omit [DecidableEq Id] in
/-- A step of a runner's update applies what is pending or writes nothing. -/
theorem callResult_runnerUpdate {attempt : Nat} {chain : HistoricalSignetOnchainChain}
    {rest : List Nat}
    (hsound : (MigrationTask.runner attempt (.updating chain walletId rest phase)).Sound codec
      registry tables) (input : UpdateInput Random)
    (hhold : ∃ contents, WalletTables.Hold registry start tables contents) :
    CallResult codec registry start tables
      (runnerStep codec registry tables attempt (.updating chain walletId rest phase)
        (.update input)) := by
  obtain ⟨hcall, hfresh, hpassed⟩ := hsound
  have hcases := updateWalletStep_cases hcall input
  have hphase : (updateWalletStep codec tables walletId (migrationCall registry chain phase)
        input).1 =
      migrationCall registry chain (updateWalletStep codec tables walletId
        (migrationCall registry chain phase) input).1.phase := step_eq _
  simp only [runnerStep]
  generalize updateWalletStep codec tables walletId (migrationCall registry chain phase) input =
    result at hcases hphase
  rcases hcases with hwait | ⟨random, hwrite⟩
  · apply callResult_of_none
    · have hbytes : writtenRandom phase result.1.phase = none := hwait.bytes
      simp only [hbytes, Option.map_none]
    · simp only [hwait.unchanged]
    · simp only [hwait.unchanged]
    · simp only [hwait.unchanged]
    · exact storing_afterUpdate attempt chain walletId rest _
    · have hafter := hwait.sound
      rw [hphase] at hafter
      have hgoesOn (hreturned : result.1.phase ≠ .returned) :
          (MigrationTask.runner attempt
            (.updating chain walletId rest result.1.phase)).Sound codec registry tables :=
        ⟨hafter, hreturned, hpassed⟩
      show (afterUpdate attempt chain walletId rest result.1.phase).Sound codec registry tables
      cases hresult : result.1.phase with
      | returned => exact absurd (hwait.returned hresult) hfresh
      | threw message => exact sound_retryRunner attempt message
      | reading | transforming | putting =>
        rw [hresult] at hgoesOn
        exact hgoesOn (by simp)
  · obtain ⟨database, htables, hrow, hcommit⟩ := hwrite.written
    obtain ⟨contents, hcontents⟩ := hhold
    have hmarkers := (hold_migrationUpdate hcontents hwrite.there hcommit).2
    have hlater : tables.Later registry (tables.setWallet walletId database) := by
      apply later_setWallet hrow
      intro name hname
      rw [hmarkers]
      exact List.mem_append_left _ hname
    apply callResult_of_event
    · have hbytes : writtenRandom phase result.1.phase = some random := hwrite.bytes
      simp only [hbytes, Option.map_some]
      rfl
    · exact htables
    · exact hlater
    · exact storing_afterUpdate attempt chain walletId rest _
    · simp only [hwrite.returned, htables]
      intro other hother
      rcases hpassed other hother with hrest | rfl | hcomplete
      · exact Or.inl hrest
      · right
        intro migration hmigration
        simp only [WalletTables.setWallet, Function.update_self, hmarkers]
        exact complete_of_pending hmigration
      · exact Or.inr (hlater.complete hother hcomplete)
    · intro contents hcontents
      exact (hold_migrationUpdate hcontents hwrite.there hcommit).1

omit [DecidableEq Id] in
theorem migrationCall_startCall (chain : HistoricalSignetOnchainChain) :
    migrationCall registry chain
        (startCall (migrationUpdate registry chain :
          PayloadUpdate JsonValue (MigrationAmbient Random) (List String)) none).phase =
      startCall (migrationUpdate registry chain) none := by
  unfold startCall UpdateCall.enterAttempt
  split
  · rfl
  · rfl

omit [DecidableEq Id] in
/-- A step of a runner. -/
theorem callResult_runnerStep {attempt : Nat} {phase : RunnerPhase Random}
    (hsound : (MigrationTask.runner attempt phase).Sound codec registry tables)
    (input : RunnerInput Random)
    (hhold : ∃ contents, WalletTables.Hold registry start tables contents) :
    CallResult codec registry start tables
      (runnerStep codec registry tables attempt phase input) := by
  have hgoes (next : MigrationTask Random) (hstoring : next.storing = none)
      (hnext : next.Sound codec registry tables) :
      CallResult codec registry start tables
        { task := next, tables := tables, event := none } :=
    callResult_of_none rfl rfl rfl rfl hstoring hnext
  have hretry (message : String) : CallResult codec registry start tables
      { task := retryRunner attempt message, tables := tables, event := none } :=
    hgoes _ (storing_retryRunner attempt message) (sound_retryRunner attempt message)
  have hstays : CallResult codec registry start tables
      { task := .runner attempt phase, tables := tables, event := none } := hgoes _ rfl hsound
  cases phase with
  | device =>
    cases input with
    | device classified =>
      simp only [runnerStep]
      apply callResult_of_none
      · rfl
      · rfl
      · rfl
      · rfl
      · dsimp only
        split
        · rfl
        · exact storing_retryRunner attempt _
      · dsimp only
        split
        · trivial
        · exact sound_retryRunner attempt _
    | fail message => exact hretry message
    | list | check | update => exact hstays
  | listing chain =>
    cases input with
    | list =>
      apply hgoes _ rfl
      intro walletId hmem
      exact Or.inl hmem
    | fail message => exact hretry message
    | device | check | update => exact hstays
  | checking chain rest =>
    cases input with
    | check =>
      cases rest with
      | nil =>
        apply hgoes _ rfl
        intro walletId hmem
        exact (hsound walletId hmem).resolve_left List.not_mem_nil
      | cons walletId rest =>
        simp only [runnerStep]
        split
        · rename_i hnone
          apply hgoes _ rfl
          intro other hmem
          rcases hsound other hmem with hrest | hcomplete
          · rcases List.mem_cons.mp hrest with rfl | hlater
            · exact Or.inr (complete_of_pending_eq_nil hnone)
            · exact Or.inl hlater
          · exact Or.inr hcomplete
        · apply hgoes _ rfl
          refine ⟨?_, startCall_phase_ne_returned _ none, ?_⟩
          · rw [migrationCall_startCall]
            exact callSound_enterAttempt 1
          · intro other hmem
            rcases hsound other hmem with hrest | hcomplete
            · rcases List.mem_cons.mp hrest with rfl | hlater
              · exact Or.inr (Or.inl rfl)
              · exact Or.inl hlater
            · exact Or.inr (Or.inr hcomplete)
    | fail message => cases rest <;> exact hretry message
    | device | list | update => cases rest <;> exact hstays
  | updating chain walletId rest phase =>
    cases input with
    | update input => exact callResult_runnerUpdate hsound input hhold
    | fail message => exact hretry message
    | device | list | check => exact hstays
  | returned | threw => exact hstays

/-! ## Creations -/

/-- A creation gets an id that nobody has. -/
theorem MigrationInv.insertStep (h : MigrationInv codec registry start system)
    (payload mnemonic : EncryptedWalletSecretsBlob) :
    MigrationInv codec registry start
      { system with
        tables := { system.tables with nextWalletId := system.tables.nextWalletId + 1 }
        tasks := Function.update system.tasks id
          (some (.creation payload mnemonic (.storing system.tables.nextWalletId))) } where
  hold := by
    obtain ⟨contents, hlog, hhold⟩ := h.hold
    exact ⟨contents, hlog, hhold.absent, hhold.stored⟩
  fresh := by
    intro walletId hmem
    exact Nat.lt_succ_of_lt (h.fresh walletId hmem)
  kept := h.kept
  storing := by
    have hbelow : ∀ other before walletId, system.tasks other = some before →
        before.storing = some walletId → walletId ≠ system.tables.nextWalletId := by
      intro other before walletId hbefore hstoring
      exact Nat.ne_of_lt (h.storing other before walletId hbefore hstoring).1
    intro other found walletId hfound hstoring
    dsimp only at hfound ⊢
    obtain ⟨rfl, rfl⟩ | ⟨-, hbefore⟩ := update_some_cases hfound
    · cases hstoring
      refine ⟨Nat.lt_succ_self _, ?_, ?_⟩
      · intro hmem
        exact Nat.lt_irrefl _ (h.fresh _ hmem)
      · intro third thirdTask hthird hthirdStoring
        by_contra hne
        rw [Function.update_of_ne hne] at hthird
        exact hbelow third thirdTask _ hthird hthirdStoring rfl
    · obtain ⟨hlt, hnot, hunique⟩ := h.storing other found walletId hbefore hstoring
      refine ⟨Nat.lt_succ_of_lt hlt, hnot, ?_⟩
      intro third thirdTask hthird hthirdStoring
      obtain ⟨-, rfl⟩ | ⟨-, hthirdBefore⟩ := update_some_cases hthird
      · cases hthirdStoring
        exact absurd rfl (hbelow other found _ hbefore hstoring)
      · exact hunique third thirdTask hthirdBefore hthirdStoring
  sound := by
    have hlater : system.tables.Later registry
        { system.tables with nextWalletId := system.tables.nextWalletId + 1 } :=
      later_of_same rfl rfl
    apply forall_tasks_update (P := fun _ found => found.Sound codec registry
      { system.tables with nextWalletId := system.tables.nextWalletId + 1 })
    · trivial
    · intro other before _ hbefore
      exact (h.sound other before hbefore).later hlater

def WalletTables.addWallet (tables : WalletTables) (walletId : Nat)
    (payload mnemonic : EncryptedWalletSecretsBlob) (markers : List String) : WalletTables :=
  { tables with
    walletIds := tables.walletIds ++ [walletId]
    wallet := Function.update tables.wallet walletId
      { row := newWalletSecretsRow payload mnemonic, alongside := markers } }

omit [DecidableEq Id] in
theorem later_addWallet {payload mnemonic : EncryptedWalletSecretsBlob}
    (hnew : walletId ∉ tables.walletIds) :
    tables.Later registry
      (tables.addWallet walletId payload mnemonic (registryNames registry)) where
  stay := by
    intro other hother
    exact List.mem_append_left _ hother
  wallet := by
    intro other hother
    have hne : other ≠ walletId := by
      intro heq
      exact hnew (heq ▸ hother)
    exact Or.inl (Function.update_of_ne hne _ _)
  new := by
    intro other hother
    rcases List.mem_append.mp hother with hold | hlast
    · exact Or.inl hold
    · right
      rw [List.mem_singleton.mp hlast]
      intro migration hmigration
      simp only [WalletTables.addWallet, Function.update_self]
      exact List.mem_map_of_mem hmigration

omit [DecidableEq Id] in
/-- A new wallet has all markers, and none of its migrations was applied. -/
theorem hold_addWallet {contents : Nat → Option WalletContents}
    (h : WalletTables.Hold registry start tables contents)
    {payload mnemonic : EncryptedWalletSecretsBlob} (hnew : walletId ∉ tables.walletIds)
    (hstart : walletId ∉ start.walletIds) (honce : (registryNames registry).Nodup) :
    ∃ after, applyEvent codec registry contents (.create walletId payload) = .ok after ∧
      WalletTables.Hold registry start
        (tables.addWallet walletId payload mnemonic (registryNames registry)) after := by
  have hnone := h.absent walletId hnew
  refine ⟨_, by simp only [applyEvent, hnone]; rfl, ?_⟩
  constructor
  · intro other hother
    have hboth : other ∉ tables.walletIds ∧ other ≠ walletId := by
      simpa [WalletTables.addWallet, not_or] using hother
    rw [Function.update_of_ne hboth.2]
    exact h.absent other hboth.1
  · intro other hother
    by_cases heq : other = walletId
    · subst heq
      refine ⟨_, Function.update_self _ _ _, ?_, ?_, ?_⟩
      · simp only [WalletTables.addWallet, Function.update_self]
        rfl
      · simp only [WalletTables.addWallet, Function.update_self]
      · exact
          { once := honce
            markers := (List.append_nil _).symm
            known := List.forall_mem_nil _
            initial := (if_neg hstart).symm }
    · have hold : other ∈ tables.walletIds := by
        simpa [WalletTables.addWallet, heq] using hother
      simp only [WalletTables.addWallet, Function.update_of_ne heq]
      exact h.stored other hold

variable {payload mnemonic : EncryptedWalletSecretsBlob}

/-- A creation stores its secrets together with all markers. -/
theorem MigrationInv.storeStep (h : MigrationInv codec registry start system)
    (htask : system.tasks id = some (.creation payload mnemonic (.storing walletId)))
    (honce : (registryNames registry).Nodup) :
    MigrationInv codec registry start
      { tables := system.tables.addWallet walletId payload mnemonic (registryNames registry)
        tasks := Function.update system.tasks id
          (some (.creation payload mnemonic (.returned walletId)))
        log := system.log ++ [.create walletId payload] } := by
  obtain ⟨hlt, hnew, hunique⟩ := h.storing id _ walletId htask rfl
  have hlater : system.tables.Later registry
      (system.tables.addWallet walletId payload mnemonic (registryNames registry)) :=
    later_addWallet hnew
  constructor
  · obtain ⟨contents, hlog, hhold⟩ := h.hold
    have hstart : walletId ∉ start.walletIds := by
      intro hmem
      exact hnew (h.kept walletId hmem)
    obtain ⟨after, hafter, hstored⟩ := hold_addWallet hhold hnew hstart honce
    exact ⟨after, foldlM_concat_eq_ok hlog hafter, hstored⟩
  · intro other hother
    rcases List.mem_append.mp hother with hold | hlast
    · exact h.fresh other hold
    · rw [List.mem_singleton.mp hlast]
      exact hlt
  · intro other hother
    exact hlater.stay other (h.kept other hother)
  · have hnext : ∀ task ∈ some (.creation payload mnemonic (.returned walletId) :
        MigrationTask Random), task.storing = none := by
      intro task hmem
      cases hmem
      rfl
    intro other found stored hfound hstored
    obtain ⟨hne, hbefore⟩ := storing_of_update hnext hfound hstored
    obtain ⟨hbelow, hnot, honly⟩ := h.storing other found stored hbefore hstored
    refine ⟨hbelow, ?_, ?_⟩
    · show stored ∉ system.tables.walletIds ++ [walletId]
      rw [List.mem_append, List.mem_singleton, not_or]
      refine ⟨hnot, ?_⟩
      intro heq
      subst heq
      exact hne (hunique other found hbefore hstored)
    · intro third thirdTask hthird hthirdStoring
      exact honly third thirdTask (storing_of_update hnext hthird hthirdStoring).2 hthirdStoring
  · apply forall_tasks_update (P := fun _ found => found.Sound codec registry
      (system.tables.addWallet walletId payload mnemonic (registryNames registry)))
    · trivial
    · intro other found _ hfound
      exact (h.sound other found hfound).later hlater

theorem recordAll_eq_ok {markers : List String}
    (h : recordWalletDataMigrationsApplied [] (registryNames registry) = .ok markers) :
    markers = registryNames registry ∧ (registryNames registry).Nodup := by
  rw [recordWalletDataMigrationsApplied, List.nil_append] at h
  split at h
  · rename_i honce
    cases h
    exact ⟨rfl, honce⟩
  · cases h

section

variable (h : MigrationInv codec registry start system)
include h

theorem MigrationInv.goTo {next : MigrationTask Random} (hstoring : next.storing = none)
    (hsound : next.Sound codec registry system.tables) :
    MigrationInv codec registry start
      { system with tasks := Function.update system.tasks id (some next) } := by
  have hresult : CallResult codec registry start system.tables
      { task := next, tables := system.tables, event := none } :=
    callResult_of_none rfl rfl rfl rfl hstoring hsound
  simpa only [Option.toList_none, List.append_nil] using h.callStep hresult

theorem MigrationInv.stay {task : MigrationTask Random} (htask : system.tasks id = some task) :
    MigrationInv codec registry start
      { system with tasks := Function.update system.tasks id (some task) } := by
  rw [← htask, Function.update_eq_self]
  exact h

theorem MigrationInv.crash :
    MigrationInv codec registry start
      { system with tasks := Function.update system.tasks id none } := by
  have hnext : ∀ task ∈ (none : Option (MigrationTask Random)), task.storing = none := by
    intro task htask
    cases htask
  constructor
  · exact h.hold
  · exact h.fresh
  · exact h.kept
  · intro other found walletId hother hstoring
    have hbefore := (storing_of_update hnext hother hstoring).2
    obtain ⟨hlt, hnot, hunique⟩ := h.storing other found walletId hbefore hstoring
    refine ⟨hlt, hnot, ?_⟩
    intro third thirdTask hthird hthirdStoring
    exact hunique third thirdTask (storing_of_update hnext hthird hthirdStoring).2 hthirdStoring
  · intro other found hother
    dsimp only at hother
    by_cases heq : other = id
    · rw [heq, Function.update_self] at hother
      cases hother
    · rw [Function.update_of_ne heq] at hother
      exact h.sound other found hother

/-- A step of a creation. -/
theorem MigrationInv.creationStep {phase : CreationPhase}
    (htask : system.tasks id = some (.creation payload mnemonic phase)) (input : CreationInput) :
    MigrationInv codec registry start
      { tables := (Frontend.creationStep registry system.tables payload mnemonic phase input :
          MigrationResult Random).tables
        tasks := Function.update system.tasks id (some (Frontend.creationStep registry
          system.tables payload mnemonic phase input : MigrationResult Random).task)
        log := system.log ++ (Frontend.creationStep registry system.tables payload mnemonic phase
          input : MigrationResult Random).event.toList } := by
  have hstay : MigrationInv codec registry start
      { tables := system.tables
        tasks := Function.update system.tasks id (some (.creation payload mnemonic phase))
        log := system.log ++ (none : Option (MigrationEvent Random)).toList } := by
    rw [Option.toList_none, List.append_nil]
    exact h.stay htask
  have hthrows (message : String) : MigrationInv codec registry start
      { tables := system.tables
        tasks := Function.update system.tasks id (some (.creation payload mnemonic
          (.threw message)))
        log := system.log ++ (none : Option (MigrationEvent Random)).toList } := by
    rw [Option.toList_none, List.append_nil]
    exact h.goTo rfl trivial
  cases phase with
  | inserting =>
    cases input with
    | insert =>
      simpa only [Frontend.creationStep, Option.toList_none, List.append_nil] using
        h.insertStep payload mnemonic
    | store => exact hstay
    | fail message => exact hthrows message
  | storing walletId =>
    cases input with
    | insert => exact hstay
    | store =>
      simp only [Frontend.creationStep]
      split
      · exact hthrows _
      · rename_i markers hrecord
        obtain ⟨rfl, honce⟩ := recordAll_eq_ok hrecord
        exact h.storeStep htask honce
    | fail message => exact hthrows message
  | returned | threw => cases input <;> exact hstay

end

omit [DecidableEq Id] in
theorem startCall_eq_self (update : PayloadUpdate JsonValue (MigrationAmbient Random) (List String))
    (maxRetries : Option Nat) :
    startCall update maxRetries =
      { update := update
        maxRetries := (startCall update maxRetries).maxRetries
        phase := (startCall update maxRetries).phase } := by
  unfold startCall UpdateCall.enterAttempt
  split
  · rfl
  · rfl

omit [DecidableEq Id] in
theorem sound_start (request : MigrationRequest Random) :
    request.start.Sound codec registry tables := by
  cases request with
  | update walletId transform maxRetries =>
    have hcall : CallSound codec tables walletId
        (startCall (ordinaryUpdate transform) maxRetries) := callSound_enterAttempt 1
    rw [startCall_eq_self] at hcall
    exact hcall
  | migrate | create => trivial

omit [DecidableEq Id] in
theorem storing_start (request : MigrationRequest Random) : request.start.storing = none := by
  cases request <;> rfl

/-- Every step keeps the invariant. -/
theorem migrationInv_migrationStep (system : MigrationSystem Id Random)
    (op : MigrationOp Id Random) (h : MigrationInv codec registry start system) :
    MigrationInv codec registry start (migrationStep codec registry system op) := by
  cases op with
  | call id request =>
    simp only [migrationStep]
    split
    · exact h
    · exact h.goTo (storing_start request) (sound_start request)
  | crash id => exact h.crash
  | step id input =>
    simp only [migrationStep]
    split
    · exact h
    · rename_i task htask
      have hsound := h.sound id task htask
      obtain ⟨contents, -, hcontents⟩ := h.hold
      have hhold : ∃ contents, WalletTables.Hold registry start system.tables contents :=
        ⟨contents, hcontents⟩
      have hstay : MigrationInv codec registry start
          { tables := system.tables
            tasks := Function.update system.tasks id (some task)
            log := system.log ++ (none : Option (MigrationEvent Random)).toList } := by
        rw [Option.toList_none, List.append_nil]
        exact h.stay htask
      cases task with
      | update walletId transform maxRetries phase =>
        cases input with
        | update input => exact h.callStep (callResult_ordinaryStep hsound input hhold)
        | runner | creation => exact hstay
      | runner attempt phase =>
        cases input with
        | runner input => exact h.callStep (callResult_runnerStep hsound input hhold)
        | update | creation => exact hstay
      | creation payload mnemonic phase =>
        cases input with
        | creation input => exact h.creationStep htask input
        | update | runner => exact hstay

end Once

end Bitboard.Frontend
