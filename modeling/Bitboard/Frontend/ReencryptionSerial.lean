/-
# The rows hold what the record of the writes amounts to

The invariant of the tabs: every call that has written stands in the record once, the rows
are sealed under the present password with the texts that the record amounts to, and every
call that goes on is sound. A re-encryption keeps it exactly if the rows still hold what it
has read from them.
-/

import Bitboard.Frontend.ReencryptionRuns

namespace Bitboard.Frontend

open Bitboard.Lib Bitboard.Wallet Bitboard.Wallet.PayloadJson

section Serial

variable {Tab Id Ambient Side : Type}

def SecretsSystem.contents (env : Environment) (engine : JsonEngine String)
    (start : SecretsContents Side) (system : SecretsSystem Tab Id Ambient Side) :
    SecretsContents Side :=
  (system.log.map SecretsCommit.effect).foldl (applyEffect env engine) start

/-- Every call that has written stands in the record once, with what it was asked for. -/
structure LogOf (calls : Id → Option (SecretsCall Tab Ambient Side))
    (log : List (SecretsCommit Id Ambient Side)) : Prop where
  once : (log.map SecretsCommit.id).Nodup
  committed : ∀ id, id ∈ log.map SecretsCommit.id ↔
    ∃ call, calls id = some call ∧ call.task.committed = true
  wrote : ∀ commit ∈ log, ∀ call, calls commit.id = some call → call.task.Wrote commit.effect

variable (vault : Vault Ambient) (env : Environment) (engine : JsonEngine String)

/-- The rows are read as the writes of the calls, once each and one after the other. -/
structure SecretsSystem.Serial (start : SecretsContents Side)
    (system : SecretsSystem Tab Id Ambient Side) : Prop where
  logged : LogOf system.calls system.log
  stored : system.table.Stores vault.Reads (system.contents env engine start)

/-- A re-encryption that writes still finds in the rows what it has read from them. -/
def ReadsStillStored [DecidableEq Tab] [DecidableEq Id]
    (system : SecretsSystem Tab Id Ambient Side) : SecretsOp Tab Id Ambient Side → Prop
  | .step id (.reencrypt .write) =>
    ∀ tab oldPassword newPassword decrypted blobs,
      system.calls id = some
        { tab := tab, task := .reencrypt oldPassword newPassword (.writing decrypted blobs) } →
      system.currentTask tab = some id →
      ∀ entry ∈ decrypted, StillStored vault env engine (system.table.row entry.1) entry.2
  | _ => True

/-- The record is kept, the rows are sealed, and the calls are sound. -/
structure SecretsInv (start : SecretsContents Side)
    (system : SecretsSystem Tab Id Ambient Side) : Prop where
  logged : LogOf system.calls system.log
  stored : system.table.Stores vault.Sealed (system.contents env engine start)
  sound : ∀ id call, system.calls id = some call →
    call.task.Sound vault env engine system.table

variable {vault env engine} {start : SecretsContents Side}
  {calls : Id → Option (SecretsCall Tab Ambient Side)} {log : List (SecretsCommit Id Ambient Side)}
  {system : SecretsSystem Tab Id Ambient Side} {id : Id}
  {call next : SecretsCall Tab Ambient Side} {effect : SecretsEffect Ambient Side}
variable {table : SecretsTable Side}

theorem secretsInv_initial {sessions : Tab → Option String}
    (hstored : table.Stores vault.Sealed start) :
    SecretsInv vault env engine start
      (initialSecretsSystem sessions table : SecretsSystem Tab Id Ambient Side) where
  logged := by
    refine ⟨List.nodup_nil, ?_, ?_⟩
    · intro id
      constructor
      · intro hmem
        cases hmem
      · intro hcommitted
        obtain ⟨call, hcall, -⟩ := hcommitted
        cases hcall
    · intro commit hcommit
      cases hcommit
  stored := hstored
  sound := by
    intro id call hcall
    cases hcall

theorem SecretsInv.serial (hlawful : vault.Lawful)
    (h : SecretsInv vault env engine start system) :
    system.Serial vault env engine start where
  logged := h.logged
  stored := h.stored.reads hlawful

variable [DecidableEq Id]

/-- A call that is new or goes on without a write leaves the record. -/
theorem LogOf.waits (h : LogOf calls log) (hsome : ∀ before, calls id = some before →
      next.task.committed = before.task.committed ∧
        ∀ effect, before.task.Wrote effect → next.task.Wrote effect)
    (hnone : calls id = none → next.task.committed = false) :
    LogOf (Function.update calls id (some next)) log where
  once := h.once
  committed := by
    intro other
    rw [h.committed other]
    by_cases hother : other = id
    · subst hother
      simp only [Function.update_self, Option.some.injEq, exists_eq_left']
      cases hcall : calls other with
      | none => simp [hnone hcall]
      | some before => simp [(hsome before hcall).1]
    · simp only [Function.update_of_ne hother]
  wrote := by
    intro commit hcommit call hcall
    have hmem : commit.id ∈ log.map SecretsCommit.id := List.mem_map_of_mem hcommit
    by_cases hother : commit.id = id
    · obtain ⟨before, hbefore, -⟩ := (h.committed commit.id).mp hmem
      have hwrote := h.wrote commit hcommit before hbefore
      rw [hother] at hcall hbefore
      rw [Function.update_self] at hcall
      cases hcall
      exact (hsome before hbefore).2 commit.effect hwrote
    · rw [Function.update_of_ne hother] at hcall
      exact h.wrote commit hcommit call hcall

/-- A call that writes comes last in the record. -/
theorem LogOf.writes (h : LogOf calls log) (hcall : calls id = some call)
    (hfresh : call.task.committed = false) (hcommitted : next.task.committed = true)
    (hwrote : next.task.Wrote effect) :
    LogOf (Function.update calls id (some next)) (log ++ [{ id := id, effect := effect }]) := by
  have hnew : id ∉ log.map SecretsCommit.id := by
    rw [h.committed id]
    intro hmem
    obtain ⟨before, hbefore, htrue⟩ := hmem
    rw [hcall] at hbefore
    cases hbefore
    rw [hfresh] at htrue
    cases htrue
  constructor
  · rw [List.map_append, List.map_cons, List.map_nil, List.nodup_append]
    refine ⟨h.once, List.nodup_singleton _, ?_⟩
    intro other hother last hlast
    rw [List.mem_singleton.mp hlast]
    exact ne_of_mem_of_not_mem hother hnew
  · intro other
    rw [List.map_append, List.mem_append, h.committed other]
    by_cases hother : other = id
    · subst hother
      simp [hcommitted]
    · simp [hother]
  · intro commit hcommit after hafter
    rcases List.mem_append.mp hcommit with hbefore | hlast
    · have hother : commit.id ≠ id := by
        intro heq
        exact hnew (heq ▸ List.mem_map_of_mem hbefore)
      rw [Function.update_of_ne hother] at hafter
      exact h.wrote commit hbefore after hafter
    · rw [List.mem_singleton.mp hlast] at hafter ⊢
      rw [Function.update_self] at hafter
      cases hafter
      exact hwrote

variable (system) in
omit [DecidableEq Id] in
theorem contents_append (written : SecretsCommit Id Ambient Side)
    {after : SecretsSystem Tab Id Ambient Side} (hlog : after.log = system.log ++ [written]) :
    after.contents env engine start =
      applyEffect env engine (system.contents env engine start)
        written.effect := by
  rw [SecretsSystem.contents, hlog, List.map_append, List.foldl_append]
  rfl

theorem sound_update (hnext : next.task.Sound vault env engine table)
    (hcalls : ∀ other call, calls other = some call →
      call.task.Sound vault env engine table) (other : Id) (call : SecretsCall Tab Ambient Side)
    (hcall : Function.update calls id (some next) other = some call) :
    call.task.Sound vault env engine table := by
  obtain ⟨rfl, rfl⟩ | ⟨-, hcall⟩ := update_some_cases hcall
  · exact hnext
  · exact hcalls other call hcall

variable [DecidableEq Tab]
variable {input : SecretsInput Ambient}

/-- A body that waits keeps the invariant. -/
theorem SecretsInv.stepTask_waits (h : SecretsInv vault env engine start system)
    (hcall : system.calls id = some call)
    (hwaits : TaskWaits env engine vault system.table call.task
      (secretsTaskStep vault env engine system.table (system.sessions call.tab) call.task
      input)) :
    SecretsInv vault env engine start
      (system.stepTask vault env engine id call input) := by
  have hlog : (system.stepTask vault env engine id call input).log = system.log := by
    simp [SecretsSystem.stepTask, hwaits.written]
  have htable : (system.stepTask vault env engine id call input).table = system.table :=
    hwaits.table_eq
  constructor
  · rw [hlog]
    apply h.logged.waits
    · intro before hbefore
      rw [hcall] at hbefore
      cases hbefore
      exact ⟨hwaits.committed, hwaits.wrote⟩
    · intro hnone
      rw [hcall] at hnone
      cases hnone
  · rw [htable, SecretsSystem.contents, hlog]
    exact h.stored
  · rw [htable]
    exact sound_update hwaits.sound h.sound

/-- A body that writes what its effect is keeps the invariant. -/
theorem SecretsInv.stepTask_writes (h : SecretsInv vault env engine start system)
    (hcall : system.calls id = some call) {result : TaskResult Ambient Side}
    (hresult : secretsTaskStep vault env engine system.table (system.sessions call.tab)
      call.task input = result) (hwrites : TaskWrites call.task effect result)
    (hlater : system.table.Later result.table) (hstored : result.table.Stores vault.Sealed
      (applyEffect env engine (system.contents env engine start) effect)) :
    SecretsInv vault env engine start
      (system.stepTask vault env engine id call input) := by
  have hlog : (system.stepTask vault env engine id call input).log =
      system.log ++ [{ id := id, effect := effect }] := by
    simp [SecretsSystem.stepTask, hresult, hwrites.written]
  have htable : (system.stepTask vault env engine id call input).table = result.table := by
    simp [SecretsSystem.stepTask, hresult]
  have hcalls : (system.stepTask vault env engine id call input).calls =
      Function.update system.calls id (some { call with task := result.task }) := by
    simp [SecretsSystem.stepTask, hresult]
  constructor
  · rw [hlog, hcalls]
    exact h.logged.writes hcall hwrites.fresh hwrites.committed hwrites.wrote
  · rw [htable, contents_append system _ hlog]
    exact hstored
  · rw [htable, hcalls]
    apply sound_update (SecretsTask.sound_of_committed hwrites.committed)
    intro other before hbefore
    exact (h.sound other before hbefore).later hlater

/-- A step of an update keeps the invariant. -/
theorem SecretsInv.stepUpdate (hlawful : vault.Lawful)
    (h : SecretsInv vault env engine start system) {tab : Tab} {walletId maxRetries : Nat}
    {update : SecretsUpdate Ambient Side} {phase : UpdatePhase Ambient}
    (hcall : system.calls id =
      some { tab := tab, task := .update walletId update maxRetries phase })
    (input : UpdateInput Ambient) :
    SecretsInv vault env engine start
      (system.stepTask vault env engine id
        { tab := tab, task := .update walletId update maxRetries phase } (.update input)) := by
  rcases updateTaskStep_cases (system.sessions tab) (h.sound id _ hcall) input with
    hwaits | ⟨computed, ambient, written, hwrites, htable, hpayload, hcommit⟩
  · exact h.stepTask_waits hcall hwaits
  · apply h.stepTask_writes hcall rfl hwrites
    · show system.table.Later (updateTaskStep vault env engine system.table
        (system.sessions tab) walletId update maxRetries phase input).table
      rw [htable]
      exact later_setDatabase hpayload
    · show (updateTaskStep vault env engine system.table (system.sessions tab) walletId
        update maxRetries phase input).table.Stores _ _
      rw [htable]
      exact stores_update hlawful h.stored hpayload hcommit

/-- A step of a re-encryption keeps the invariant, if it writes what the rows still hold. -/
theorem SecretsInv.stepReencrypt (hlawful : vault.Lawful)
    (h : SecretsInv vault env engine start system) {tab : Tab}
    {oldPassword newPassword : String} {phase : ReencryptPhase}
    (hcall : system.calls id =
      some { tab := tab, task := .reencrypt oldPassword newPassword phase })
    (input : ReencryptInput Ambient)
    (hstill : input = .write → ∀ decrypted blobs, phase = .writing decrypted blobs →
      ∀ entry ∈ decrypted, StillStored vault env engine (system.table.row entry.1) entry.2) :
    SecretsInv vault env engine start
      (system.stepTask vault env engine id
        { tab := tab, task := .reencrypt oldPassword newPassword phase } (.reencrypt input)) := by
  have hsound := h.sound id _ hcall
  by_cases hwrites : input = .write ∧ ∃ decrypted blobs, phase = .writing decrypted blobs
  · obtain ⟨rfl, decrypted, blobs, rfl⟩ := hwrites
    apply h.stepTask_writes hcall rfl
    · exact ⟨rfl, rfl, rfl, rfl⟩
    · exact later_writeAll system.table blobs
    · exact stores_writeAll hlawful h.stored hsound.1 hsound.2 (hstill rfl decrypted blobs rfl)
  · apply h.stepTask_waits hcall
    apply reencryptTaskStep_waits hsound
    intro hinput decrypted blobs hphase
    exact hwrites ⟨hinput, decrypted, blobs, hphase⟩

/-! ## Runs -/

variable (request : SecretsRequest Ambient Side)

theorem SecretsRequest.committed_start : request.start.committed = false := by
  cases request with
  | update walletId change maxRetries =>
    rw [Bool.eq_false_iff]
    intro hcommitted
    exact startCall_phase_ne_returned change.toPayloadUpdate maxRetries
      (committed_update_iff.mp hcommitted)
  | reencrypt oldPassword newPassword => rfl

omit [DecidableEq Id] [DecidableEq Tab] in
theorem call_startCall (change : SecretsUpdate Ambient Side) (maxRetries : Option Nat) :
    change.call (startCall change.toPayloadUpdate maxRetries).maxRetries
        (startCall change.toPayloadUpdate maxRetries).phase =
      startCall change.toPayloadUpdate maxRetries := by
  unfold startCall UpdateCall.enterAttempt
  split
  · rfl
  · rfl

theorem SecretsRequest.sound_start (table : SecretsTable Side) :
    request.start.Sound vault env engine table := by
  cases request with
  | update walletId change maxRetries =>
    refine ⟨none, ?_⟩
    show UpdateCall.Sound _ _ (change.call
      (startCall change.toPayloadUpdate maxRetries).maxRetries
      (startCall change.toPayloadUpdate maxRetries).phase)
    rw [call_startCall]
    exact sound_enterAttempt 1
  | reencrypt oldPassword newPassword => trivial

/-- What one step keeps. -/
theorem secretsInv_secretsStep (hlawful : vault.Lawful)
    (system : SecretsSystem Tab Id Ambient Side) (op : SecretsOp Tab Id Ambient Side)
    (hstill : ReadsStillStored vault env engine system op)
    (h : SecretsInv vault env engine start system) :
    SecretsInv vault env engine start
      (secretsStep vault env engine system op) := by
  cases op with
  | call tab id request =>
    simp only [secretsStep]
    cases hcall : system.calls id with
    | some call => exact h
    | none =>
      constructor
      · apply h.logged.waits
        · intro before hbefore
          rw [hcall] at hbefore
          cases hbefore
        · intro hnone
          exact request.committed_start
      · exact h.stored
      · exact sound_update (request.sound_start system.table) h.sound
  | takeTurn | grant | release | beginSession | endSession => exact ⟨h.logged, h.stored, h.sound⟩
  | settle work =>
    simp only [secretsStep]
    split
    · exact ⟨h.logged, h.stored, h.sound⟩
    · exact h
  | step id input =>
    simp only [secretsStep]
    cases hcall : system.calls id with
    | none => exact h
    | some call =>
      simp only
      split
      · rename_i hturn
        obtain ⟨tab, task⟩ := call
        cases task with
        | update walletId change maxRetries phase =>
          cases input with
          | update input => exact h.stepUpdate hlawful hcall input
          | reencrypt input =>
            exact h.stepTask_waits hcall
              ⟨rfl, rfl, h.sound id _ hcall, rfl, fun _ hwrote => hwrote⟩
        | reencrypt oldPassword newPassword phase =>
          cases input with
          | reencrypt input =>
            apply h.stepReencrypt hlawful hcall
            intro hinput decrypted blobs hphase
            subst hinput hphase
            exact hstill tab oldPassword newPassword decrypted blobs hcall hturn
          | update input =>
            exact h.stepTask_waits hcall
              ⟨rfl, rfl, h.sound id _ hcall, rfl, fun _ hwrote => hwrote⟩
      · exact h

/-- A re-encryption that writes something else than the rows hold is seen at once. -/
theorem not_serial_of_not_readsStillStored (hlawful : vault.Lawful)
    (system : SecretsSystem Tab Id Ambient Side) (op : SecretsOp Tab Id Ambient Side)
    (h : SecretsInv vault env engine start system)
    (hlost : ¬ ReadsStillStored vault env engine system op) :
    ¬ (secretsStep vault env engine system op).Serial vault env engine start := by
  intro hserial
  apply hlost
  unfold ReadsStillStored
  split
  · rename_i id
    intro tab oldPassword newPassword decrypted blobs hcall hturn
    have hstep : secretsStep vault env engine system (.step id (.reencrypt .write)) =
        system.stepTask vault env engine id
          { tab := tab, task := .reencrypt oldPassword newPassword (.writing decrypted blobs) }
          (.reencrypt .write) := by
      simp [secretsStep, hcall, hturn]
    have hstored := hserial.stored
    rw [hstep, contents_append system _ rfl] at hstored
    have hsound := h.sound id _ hcall
    exact stillStored_of_reads hlawful h.stored hsound.1 hsound.2 hstored
  · trivial

omit [DecidableEq Id] [DecidableEq Tab] in
theorem reencryptTaskStep_table (table : SecretsTable Side) (session : Option String)
    (oldPassword newPassword : String) (phase : ReencryptPhase) (input : ReencryptInput Ambient) :
    (reencryptTaskStep vault env engine table session oldPassword newPassword phase
        input).table = table ∨
      (reencryptTaskStep vault env engine table session oldPassword newPassword phase
        input).written = some (.reencrypt newPassword) := by
  unfold reencryptTaskStep
  dsimp only
  split
  case h_5 => exact Or.inr rfl
  case h_1 => split <;> exact Or.inl rfl
  case h_3 => split <;> exact Or.inl rfl
  case h_4 => split <;> exact Or.inl rfl
  all_goals exact Or.inl rfl

omit [DecidableEq Id] [DecidableEq Tab] in
/-- A body changes the table only in a step that it records. -/
theorem table_eq_of_written_eq_none {session : Option String} {task : SecretsTask Ambient Side}
    (hwritten : (secretsTaskStep vault env engine table session task input).written =
      none) : (secretsTaskStep vault env engine table session task input).table = table := by
  cases task with
  | update walletId change maxRetries phase =>
    cases input with
    | reencrypt input => rfl
    | update input =>
      rcases step_database_or_returned (sessionCodec vault env engine session)
        (table.database walletId) (change.call maxRetries phase)
        (table.inputOn walletId input) with
        hsame | ⟨⟨attempt, current, ambient, nextPayload, hphase⟩, hreturned⟩
      · simp only [secretsTaskStep, updateTaskStep, hsame]
        exact setDatabase_database
      · simp only [secretsTaskStep, updateTaskStep, hreturned] at hwritten
        rw [show phase = .putting attempt current ambient nextPayload from hphase]
          at hwritten
        cases hwritten
  | reencrypt oldPassword newPassword phase =>
    cases input with
    | update input => rfl
    | reencrypt input =>
      rcases reencryptTaskStep_table table session oldPassword newPassword phase input with
        hsame | hsome
      · exact hsame
      · rw [show reencryptTaskStep vault env engine table session oldPassword
          newPassword phase input = secretsTaskStep vault env engine table session
            (.reencrypt oldPassword newPassword phase) (.reencrypt input) from rfl,
          hwritten] at hsome
        cases hsome

/-- The table changes only in a step that is recorded. -/
theorem table_eq_of_log_eq (system : SecretsSystem Tab Id Ambient Side)
    (op : SecretsOp Tab Id Ambient Side)
    (hlog : (secretsStep vault env engine system op).log = system.log) :
    (secretsStep vault env engine system op).table = system.table := by
  cases op with
  | call | settle =>
    simp only [secretsStep]
    split <;> rfl
  | takeTurn | grant => rfl
  | release | beginSession | endSession => rfl
  | step id input =>
    simp only [secretsStep] at hlog ⊢
    split
    · rfl
    · rename_i call hcall
      split
      · rename_i hturn
        apply table_eq_of_written_eq_none
        rw [hcall] at hlog
        simpa [hturn, SecretsSystem.stepTask] using hlog
      · rfl

/-- In every run, the rows hold at each point what the updates and re-encryptions that have
written so far amount to, one after the other, exactly if every re-encryption that writes still
finds in the rows what it has read from them. Nothing else changes the rows. -/
theorem secrets_serial_iff_reads_still_stored (vault : Vault Ambient) (env : Environment)
    (engine : JsonEngine String) (hlawful : vault.Lawful) (start : SecretsContents Side)
    (sessions : Tab → Option String) (table : SecretsTable Side)
    (hstored : table.Stores vault.Sealed start) (ops : List (SecretsOp Tab Id Ambient Side)) :
    (RunMeets (secretsStep vault env engine) (ReadsStillStored vault env engine)
        (initialSecretsSystem sessions table) ops ↔
      ∀ first, first <+: ops →
        (run (secretsStep vault env engine) (initialSecretsSystem sessions table)
          first).Serial vault env engine start) ∧
      ∀ (system : SecretsSystem Tab Id Ambient Side) op,
        (secretsStep vault env engine system op).log = system.log →
        (secretsStep vault env engine system op).table = system.table := by
  constructor
  · exact runMeets_iff_forall_prefix (SecretsInv vault env engine start)
      (fun system => system.Serial vault env engine start)
      (fun system h => h.serial hlawful)
      (fun system op hstill h => secretsInv_secretsStep hlawful system op hstill h)
      (fun system op h hlost => not_serial_of_not_readsStillStored hlawful system op h hlost)
      (secretsInv_initial hstored) ops
  · exact table_eq_of_log_eq

end Serial

end Bitboard.Frontend
