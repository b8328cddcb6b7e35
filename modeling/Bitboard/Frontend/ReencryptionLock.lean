/-
# What the writer lock does for a re-encryption

A re-encryption has no other protection than the lock and the queue of its tab. As long as
no work under the lock settles before the works that ran directly during its hold, they are
enough: whoever steps is the only one who steps. A re-encryption that was called directly
and outlives its hold can lose the update of another tab.
-/

import Bitboard.Frontend.ReencryptionSerial
import Bitboard.Wallet.PayloadJsonLoss

namespace Bitboard.Frontend

open Bitboard.Lib Bitboard.Wallet Bitboard.Wallet.PayloadJson
open SecretsSystem

variable {session : Option String} {oldPassword newPassword : String} {phase : ReencryptPhase}
  {decrypted : List (Nat × WalletSecrets)}

section Lock

variable {Tab Id Ambient Side : Type} [DecidableEq Tab] [DecidableEq Id]

def SettlesLast (system : SecretsSystem Tab Id Ambient Side) : SecretsOp Tab Id Ambient Side → Prop
  | .settle work => OutlivesDirectWorks system.lock (.settle work)
  | _ => True

def ReencryptPhase.holds : ReencryptPhase → Option (List (Nat × WalletSecrets))
  | .loading _ decrypted => some decrypted
  | .encrypting decrypted => some decrypted
  | .writing decrypted _ => some decrypted
  | _ => none

variable (vault : Vault Ambient) (env : Environment) (engine : JsonEngine String)

structure ReencryptsAlone (system : SecretsSystem Tab Id Ambient Side) : Prop where
  lock : system.lock.Excludes
  turn : ∀ id tab oldPassword newPassword phase decrypted,
    system.calls id = some { tab := tab, task := .reencrypt oldPassword newPassword phase } →
    phase.holds = some decrypted →
    system.currentTask tab = some id ∧
      ∀ entry ∈ decrypted,
        loadWalletSecretsWithPassword vault env engine oldPassword
          (system.table.row entry.1) = .ok entry.2

variable {vault env engine} {system next : SecretsSystem Tab Id Ambient Side} {id : Id}
  {tab : Tab}

theorem find?_append_of_eq_some {α : Type} {p q : α → Bool} {works more : List α} {found : α}
    (hfound : works.find? p = some found) (hstays : q found = true)
    (hmono : ∀ work, p work = false → q work = false) :
    (works ++ more).find? q = some found := by
  rw [List.find?_eq_some_iff_append] at hfound
  obtain ⟨hp, before, after, rfl, hbefore⟩ := hfound
  rw [List.find?_eq_some_iff_append]
  refine ⟨hstays, before, after ++ more, by simp, ?_⟩
  intro work hwork
  have hfalse := hbefore work hwork
  rw [Bool.not_eq_true'] at hfalse
  rw [Bool.not_eq_true', hmono work hfalse]

theorem find?_erase_of_eq_false {α : Type} [DecidableEq α] {p : α → Bool} {works : List α}
    {erased : α} (herased : p erased = false) :
    (works.erase erased).find? p = works.find? p := by
  induction works with
  | nil => rfl
  | cons work works ih =>
    by_cases hwork : work = erased
    · subst hwork
      rw [List.erase_cons_head, List.find?_cons_of_neg]
      simp [herased]
    · rw [List.erase_cons_tail (by simpa using hwork)]
      cases hp : p work with
      | true => rw [List.find?_cons_of_pos hp, List.find?_cons_of_pos hp]
      | false =>
        rw [List.find?_cons_of_neg (by simp [hp]), List.find?_cons_of_neg (by simp [hp]), ih]

omit [DecidableEq Id] in
theorem mem_running_of_currentTask (hturn : system.currentTask tab = some id) :
    ∃ work ∈ system.lock.running, work.tab = tab ∧ work.call = id ∧
      system.isSettled id = false := by
  rw [currentTask, Option.map_eq_some_iff] at hturn
  obtain ⟨work, hwork, rfl⟩ := hturn
  have hp := List.find?_some hwork
  simp only [Bool.and_eq_true, decide_eq_true_eq, Bool.not_eq_true'] at hp
  exact ⟨work, List.mem_of_find?_eq_some hwork, hp.1, rfl, hp.2⟩

omit [DecidableEq Id] in
/-- Two calls that have the turn are one. -/
theorem eq_of_currentTask (hlock : system.lock.Excludes) {other : Id} {elsewhere : Tab}
    (hturn : system.currentTask tab = some id)
    (hother : system.currentTask elsewhere = some other) : tab = elsewhere ∧ id = other := by
  obtain ⟨work, hwork, rfl, -, -⟩ := mem_running_of_currentTask hturn
  obtain ⟨otherWork, hotherWork, rfl, -, -⟩ := mem_running_of_currentTask hother
  have hsame := hlock.runsOneTab work hwork otherWork hotherWork
  rw [hsame, hother] at hturn
  exact ⟨hsame, (Option.some.inj hturn).symm⟩

omit [DecidableEq Id] in
/-- The turn stays with a call that has not settled while more works start. -/
theorem currentTask_of_append {more : List (WriterWork Tab Id)}
    (hturn : system.currentTask tab = some id)
    (hrunning : next.lock.running = system.lock.running ++ more)
    (hstays : next.isSettled id = false)
    (hmono : ∀ other, system.isSettled other = true → next.isSettled other = true) :
    next.currentTask tab = some id := by
  rw [currentTask, Option.map_eq_some_iff] at hturn ⊢
  obtain ⟨work, hwork, rfl⟩ := hturn
  have hp := List.find?_some hwork
  simp only [Bool.and_eq_true, decide_eq_true_eq] at hp
  refine ⟨work, ?_, rfl⟩
  rw [hrunning]
  apply find?_append_of_eq_some hwork
  · simp [hp.1, hstays]
  · intro other hother
    simp only [Bool.and_eq_false_iff, decide_eq_false_iff_not, Bool.not_eq_false'] at hother ⊢
    exact hother.imp_right (hmono other.call)

theorem running_writerStep (lock : WriterSystem Tab Id) (op : WriterOp Tab Id)
    (hop : ∀ work, op ≠ .settle work) :
    ∃ more, (writerStep lock op).running = lock.running ++ more := by
  cases op with
  | withWriterLock tab call =>
    simp only [writerStep, WriterSystem.withWriterLock]
    split
    · exact ⟨_, rfl⟩
    · exact ⟨[], (List.append_nil _).symm⟩
  | takeTurn tab =>
    simp only [writerStep, WriterSystem.takeTurn]
    split
    · simp only [WriterSystem.runExclusive]
      split
      · exact ⟨_, rfl⟩
      · exact ⟨[], (List.append_nil _).symm⟩
    · exact ⟨[], (List.append_nil _).symm⟩
  | grant tab call =>
    simp only [writerStep, WriterSystem.grant]
    split
    · exact ⟨_, rfl⟩
    · exact ⟨[], (List.append_nil _).symm⟩
  | settle work => exact absurd rfl (hop work)
  | release =>
    simp only [writerStep, WriterSystem.release]
    split
    · exact ⟨[], (List.append_nil _).symm⟩
    · exact ⟨[], (List.append_nil _).symm⟩

theorem running_settle (lock : WriterSystem Tab Id) (work : WriterWork Tab Id) :
    (writerStep lock (.settle work)).running = lock.running ∨
      (writerStep lock (.settle work)).running = lock.running.erase work := by
  simp only [writerStep, WriterSystem.settle]
  split
  · split
    · exact Or.inr rfl
    · exact Or.inr rfl
    · exact Or.inr rfl
  · exact Or.inl rfl

section

variable (h : ReencryptsAlone vault env engine system)
include h

theorem ReencryptsAlone.lockStep (op : WriterOp Tab Id) (hop : ∀ work, op ≠ .settle work) :
    ReencryptsAlone vault env engine
      { system with lock := writerStep system.lock op } where
  lock := by
    apply excludes_writerStep system.lock op _ h.lock
    cases op with
    | settle work => exact absurd rfl (hop work)
    | _ => trivial
  turn := by
    intro id tab oldPassword newPassword phase decrypted hcall hholds
    obtain ⟨hturn, hread⟩ := h.turn id tab oldPassword newPassword phase decrypted hcall hholds
    obtain ⟨more, hmore⟩ := running_writerStep system.lock op hop
    obtain ⟨-, -, -, -, hsettled⟩ := mem_running_of_currentTask hturn
    exact ⟨currentTask_of_append hturn hmore hsettled fun _ hbefore => hbefore, hread⟩

theorem ReencryptsAlone.settleStep (work : WriterWork Tab Id)
    (hlast : OutlivesDirectWorks system.lock (.settle work))
    (hsettled : system.isSettled work.call = true) :
    ReencryptsAlone vault env engine
      { system with lock := writerStep system.lock (.settle work) } where
  lock := excludes_writerStep system.lock (.settle work) hlast h.lock
  turn := by
    intro id tab oldPassword newPassword phase decrypted hcall hholds
    obtain ⟨hturn, hread⟩ := h.turn id tab oldPassword newPassword phase decrypted hcall hholds
    refine ⟨?_, hread⟩
    rcases running_settle system.lock work with hsame | herase
    · rw [← hturn]
      simp only [currentTask, hsame]
      rfl
    · have hfind : (system.lock.running.erase work).find? (fun other =>
          decide (other.tab = tab) && !system.isSettled other.call) =
        system.lock.running.find? fun other =>
          decide (other.tab = tab) && !system.isSettled other.call :=
        find?_erase_of_eq_false (by simp [hsettled])
      rw [← hturn]
      show ((writerStep system.lock (.settle work)).running.find? fun other =>
        decide (other.tab = tab) && !system.isSettled other.call).map WriterWork.call = _
      rw [herase, hfind]
      rfl

theorem ReencryptsAlone.callStep (request : SecretsRequest Ambient Side)
    (hnew : system.calls id = none) :
    ReencryptsAlone vault env engine
      { system with
        lock := withWalletSecretsWriterLock system.lock tab id
        calls := Function.update system.calls id
          (some { tab := tab, task := request.start }) } where
  lock := by
    show (withWalletSecretsWriterLock system.lock tab id).Excludes
    rw [withWalletSecretsWriterLock_eq]
    exact excludes_withWriterLock h.lock tab id
  turn := by
    intro other elsewhere oldPassword newPassword phase decrypted hcall hholds
    by_cases hother : other = id
    · subst hother
      simp only [Function.update_self, Option.some.injEq, SecretsCall.mk.injEq] at hcall
      cases request with
      | update walletId change maxRetries => cases hcall.2
      | reencrypt first second =>
        cases hcall.2
        cases hholds
    · dsimp only at hcall
      rw [Function.update_of_ne hother] at hcall
      obtain ⟨hturn, hread⟩ :=
        h.turn other elsewhere oldPassword newPassword phase decrypted hcall hholds
      refine ⟨?_, hread⟩
      obtain ⟨-, -, -, -, hsettled⟩ := mem_running_of_currentTask hturn
      obtain ⟨more, hmore⟩ := running_writerStep system.lock (.withWriterLock tab id) (by simp)
      apply currentTask_of_append hturn
      · show (withWalletSecretsWriterLock system.lock tab id).running = _
        rw [withWalletSecretsWriterLock_eq]
        exact hmore
      · simpa only [isSettled, Function.update_of_ne hother] using hsettled
      · intro before hbefore
        have hne : before ≠ id := by
          intro heq
          rw [heq, isSettled, hnew] at hbefore
          cases hbefore
        simpa only [isSettled, Function.update_of_ne hne] using hbefore

end

variable {table : SecretsTable Side} {input : ReencryptInput Ambient}

omit [DecidableEq Tab] [DecidableEq Id] in
theorem phase_of_written {effect : SecretsEffect Ambient Side}
    (hwritten : (reencryptTaskStep vault env engine table session oldPassword newPassword
      phase input).written = some effect) :
    (reencryptTaskStep vault env engine table session oldPassword newPassword phase
      input).task = .reencrypt oldPassword newPassword .replacingSession := by
  unfold reencryptTaskStep at hwritten ⊢
  dsimp only at hwritten ⊢
  split at hwritten
  case h_5 => rfl
  case h_1 => split at hwritten <;> cases hwritten
  case h_3 => split at hwritten <;> cases hwritten
  case h_4 => split at hwritten <;> cases hwritten
  all_goals cases hwritten

omit [DecidableEq Tab] [DecidableEq Id] in
/-- What a re-encryption holds after a step, it held before or has just read. -/
theorem holds_of_reencryptTaskStep {next : ReencryptPhase}
    (hnext : (reencryptTaskStep vault env engine table session oldPassword newPassword
      phase input).task = .reencrypt oldPassword newPassword next)
    (hholds : next.holds = some decrypted) :
    ∀ entry ∈ decrypted, (∃ before, phase.holds = some before ∧ entry ∈ before) ∨
      loadWalletSecretsWithPassword vault env engine oldPassword
        (table.row entry.1) = .ok entry.2 := by
  unfold reencryptTaskStep at hnext
  dsimp only at hnext
  split at hnext
  case h_1 =>
    split at hnext
    · cases hnext
      cases hholds
    · cases hnext
      cases hholds
      exact List.forall_mem_nil _
  case h_3 walletId walletIds before =>
    split at hnext
    · rename_i secrets hload
      cases hnext
      cases hholds
      intro entry hentry
      rcases List.mem_append.mp hentry with hbefore | hlast
      · exact Or.inl ⟨before, rfl, hbefore⟩
      · rw [List.mem_singleton.mp hlast]
        exact Or.inr hload
    · cases hnext
      cases hholds
  case h_4 before ambient =>
    split at hnext
    · cases hnext
      cases hholds
      intro entry hentry
      exact Or.inl ⟨_, rfl, hentry⟩
    · cases hnext
      cases hholds
  -- the other steps hold what they held, or nothing
  all_goals
    cases hnext
    first
    | cases hholds
      done
    | intro entry hentry
      exact Or.inl ⟨decrypted, hholds, hentry⟩

omit [DecidableEq Tab] [DecidableEq Id] in
/-- A re-encryption that holds secrets after a step has not changed the table with it. -/
theorem table_of_holds {next : ReencryptPhase}
    (hnext : (reencryptTaskStep vault env engine table session oldPassword newPassword
      phase input).task = .reencrypt oldPassword newPassword next)
    (hholds : next.holds = some decrypted) :
    (reencryptTaskStep vault env engine table session oldPassword newPassword phase
      input).table = table := by
  rcases reencryptTaskStep_table table session oldPassword newPassword phase input with
    hsame | hwritten
  · exact hsame
  · rw [phase_of_written hwritten] at hnext
    cases hnext
    cases hholds

omit [DecidableEq Tab] [DecidableEq Id] in
/-- A step leaves a body what it is; a re-encryption keeps its passwords. -/
theorem reencrypt_of_step {task : SecretsTask Ambient Side} {input : SecretsInput Ambient}
    {next : ReencryptPhase}
    (hnext : (secretsTaskStep vault env engine table session task input).task =
      .reencrypt oldPassword newPassword next) :
    ∃ phase, task = .reencrypt oldPassword newPassword phase := by
  cases task with
  | update walletId change maxRetries phase =>
    cases input with
    | update | reencrypt => cases hnext
  | reencrypt first second phase =>
    cases input with
    | update input =>
      cases hnext
      exact ⟨next, rfl⟩
    | reencrypt input =>
      refine ⟨phase, ?_⟩
      simp only [secretsTaskStep, reencryptTaskStep] at hnext
      split at hnext
      case h_1 => split at hnext <;> cases hnext <;> rfl
      case h_3 => split at hnext <;> cases hnext <;> rfl
      case h_4 => split at hnext <;> cases hnext <;> rfl
      all_goals cases hnext; rfl

variable {call : SecretsCall Tab Ambient Side}

theorem isSettled_stepTask_of_ne {input : SecretsInput Ambient} {other : Id} (hne : other ≠ id) :
    (system.stepTask vault env engine id call input).isSettled other = system.isSettled other := by
  simp only [isSettled, SecretsSystem.stepTask, Function.update_of_ne hne]

theorem currentTask_stepTask {input : SecretsInput Ambient}
    (hturn : system.currentTask tab = some id)
    (hstays : (system.stepTask vault env engine id call input).isSettled id = false) :
    (system.stepTask vault env engine id call input).currentTask tab = some id := by
  have hrunning : (system.stepTask vault env engine id call input).lock.running =
      system.lock.running ++ [] := (List.append_nil _).symm
  apply currentTask_of_append hturn hrunning hstays
  intro other hother
  have hne : other ≠ id := by
    intro heq
    obtain ⟨-, -, -, -, hsettled⟩ := mem_running_of_currentTask hturn
    rw [heq, hsettled] at hother
    cases hother
  rw [isSettled_stepTask_of_ne hne]
  exact hother

theorem ReencryptsAlone.bodyStep (h : ReencryptsAlone vault env engine system)
    (hcall : system.calls id = some call) (hturn : system.currentTask call.tab = some id)
    (input : SecretsInput Ambient) :
    ReencryptsAlone vault env engine
      (system.stepTask vault env engine id call input) where
  lock := h.lock
  turn := by
    intro other elsewhere oldPassword newPassword next decrypted hother hholds
    by_cases hne : other = id
    · subst hne
      obtain ⟨tab, task⟩ := call
      simp only [SecretsSystem.stepTask, Function.update_self, Option.some.injEq,
        SecretsCall.mk.injEq] at hother
      obtain ⟨rfl, hnext⟩ := hother
      obtain ⟨phase, rfl⟩ := reencrypt_of_step hnext
      constructor
      · apply currentTask_stepTask hturn
        simp only [isSettled, SecretsSystem.stepTask, Function.update_self, hnext]
        cases next with
        | returned | threwBeforeWrite | threwAfterWrite => cases hholds
        | _ => rfl
      · have hbefore := h.turn other tab oldPassword newPassword phase
        intro entry hentry
        cases input with
        | update input =>
          cases hnext
          exact (hbefore decrypted hcall hholds).2 entry hentry
        | reencrypt input =>
          have htable : (system.stepTask vault env engine other
              { tab := tab, task := .reencrypt oldPassword newPassword phase }
              (.reencrypt input)).table = system.table := table_of_holds hnext hholds
          rw [htable]
          rcases holds_of_reencryptTaskStep hnext hholds entry hentry with
            ⟨before, hphase, hmem⟩ | hread
          · exact (hbefore before hcall hphase).2 entry hmem
          · exact hread
    · -- a re-encryption that holds secrets has the turn, so it is this one
      simp only [SecretsSystem.stepTask, Function.update_of_ne hne] at hother
      have hotherTurn := (h.turn other elsewhere oldPassword newPassword next decrypted hother
        hholds).1
      exact absurd (eq_of_currentTask h.lock hotherTurn hturn).2 hne

omit [DecidableEq Id] in
theorem reencryptsAlone_initial (sessions : Tab → Option String) (table : SecretsTable Side) :
    ReencryptsAlone vault env engine
      (initialSecretsSystem sessions table : SecretsSystem Tab Id Ambient Side) where
  lock := excludes_initial
  turn := by
    intro id tab oldPassword newPassword phase decrypted hcall hholds
    cases hcall

theorem reencryptsAlone_secretsStep (system : SecretsSystem Tab Id Ambient Side)
    (op : SecretsOp Tab Id Ambient Side) (hlast : SettlesLast system op)
    (h : ReencryptsAlone vault env engine system) :
    ReencryptsAlone vault env engine (secretsStep vault env engine system op) := by
  cases op with
  | call tab id request =>
    simp only [secretsStep]
    cases hcall : system.calls id with
    | some call => exact h
    | none => exact h.callStep request hcall
  | takeTurn tab => exact h.lockStep (.takeTurn tab) (by simp)
  | grant tab id => exact h.lockStep (.grant tab id) (by simp)
  | settle work =>
    simp only [secretsStep]
    split
    · rename_i hsettled
      exact h.settleStep work hlast hsettled
    · exact h
  | release => exact h.lockStep .release (by simp)
  | beginSession | endSession => exact ⟨h.lock, h.turn⟩
  | step id input =>
    simp only [secretsStep]
    cases hcall : system.calls id with
    | none => exact h
    | some call =>
      simp only
      split
      · rename_i hturn
        exact h.bodyStep hcall hturn input
      · exact h

theorem ReencryptsAlone.readsStillStored (h : ReencryptsAlone vault env engine system)
    (op : SecretsOp Tab Id Ambient Side) : ReadsStillStored vault env engine system op := by
  unfold ReadsStillStored
  split
  · intro tab oldPassword newPassword decrypted blobs hcall hturn entry hentry
    have hread := (h.turn _ tab oldPassword newPassword _ decrypted hcall rfl).2 entry hentry
    exact ⟨oldPassword, entry.2, hread, rfl, rfl⟩
  · trivial

theorem readsStillStored_of_settlesLast {sessions : Tab → Option String}
    {ops : List (SecretsOp Tab Id Ambient Side)}
    (hlast : RunMeets (secretsStep vault env engine) SettlesLast
      (initialSecretsSystem sessions table) ops) :
    RunMeets (secretsStep vault env engine) (ReadsStillStored vault env engine)
      (initialSecretsSystem sessions table) ops :=
  hlast.imp_of_invariant (ReencryptsAlone vault env engine)
    (fun _ op h _ => h.readsStillStored op) reencryptsAlone_secretsStep
    (reencryptsAlone_initial sessions table)

end Lock

/-! ## Two tabs -/

def barkPayload (accounts : List JsonValue) : JsonValue :=
  .object [("descriptorWallets", .array []), ("lightningNwcConnections", .array []),
    ("arkadeAccounts", .array []), ("activeArkadeAccountIdByNetwork", .object []),
    ("barkAccounts", .array accounts)]

def barkAccount : JsonValue :=
  .object [("id", .string "account"), ("networkMode", .string "signet"),
    ("serverUrl", .string barkSignetServerUrl), ("fingerprint", .string "f00dbabe")]

def barkPayloadText (accounts : String) : String :=
  "\x7b\"descriptorWallets\":[],\"lightningNwcConnections\":[],\"arkadeAccounts\":[]," ++
    "\"activeArkadeAccountIdByNetwork\":\x7b\x7d,\"barkAccounts\":[" ++ accounts ++ "]\x7d"

def barkAccountText : String :=
  "\x7b\"id\":\"account\",\"networkMode\":\"signet\",\"serverUrl\":\"" ++ barkSignetServerUrl ++
    "\",\"fingerprint\":\"f00dbabe\"\x7d"

def barkPayloadEngine : JsonEngine String where
  parse := fun text =>
    if text = barkPayloadText "" then some (barkPayload [])
    else if text = barkPayloadText barkAccountText then some (barkPayload [barkAccount])
    else none
  stringify := fun value =>
    match value.get? "barkAccounts" with
    | some (.array []) => barkPayloadText ""
    | _ => barkPayloadText barkAccountText
  isDouble := fun _ => True

def vaultEntries : List (String × String) :=
  [("old password", "mnemonic"), ("old password", barkPayloadText ""),
    ("old password", barkPayloadText barkAccountText), ("new password", "mnemonic"),
    ("new password", barkPayloadText ""), ("new password", barkPayloadText barkAccountText)]

def vaultBlob (index : Nat) : EncryptedWalletSecretsBlob where
  ciphertext := List.replicate index 0
  iv := []
  salt := []
  kdfPhc := ""

def entryVault : Vault Unit where
  doEncrypt := fun _ password plaintext =>
    if (password, plaintext) ∈ vaultEntries then
      .ok (vaultBlob (vaultEntries.idxOf (password, plaintext)))
    else .error "Encryption failed"
  doDecrypt := fun password blob =>
    match vaultEntries[blob.ciphertext.length]? with
    | some entry =>
      if password = entry.1 then .ok entry.2
      else .error "Decryption failed: incorrect password or corrupted data"
    | none => .error "Decryption failed: incorrect password or corrupted data"

theorem entry_of_sealed {password plaintext : String} {blob : EncryptedWalletSecretsBlob}
    (hsealed : entryVault.Sealed password plaintext blob) :
    vaultEntries[blob.ciphertext.length]? = some (password, plaintext) := by
  obtain ⟨ambient, hencrypt⟩ := hsealed
  simp only [entryVault] at hencrypt
  split at hencrypt
  · rename_i hmem
    cases hencrypt
    rw [vaultBlob, List.length_replicate]
    exact List.getElem?_idxOf hmem
  · cases hencrypt

theorem entryVault_lawful : entryVault.Lawful where
  opens := by
    intro password plaintext blob hsealed
    simp [entryVault, entry_of_sealed hsealed]
  rejects := by
    intro password plaintext blob other hsealed hother
    refine ⟨"Decryption failed: incorrect password or corrupted data", ?_⟩
    simp [entryVault, entry_of_sealed hsealed, hother]

def emptyWalletRow : WalletSecretsRow where
  revision := 0
  encryptedData := (vaultBlob 1).ciphertext
  iv := []
  salt := []
  kdfPhc := ""
  mnemonicEncryptedData := (vaultBlob 0).ciphertext
  mnemonicIv := []
  mnemonicSalt := []
  mnemonicKdfPhc := ""

def oneWallet : SecretsTable Unit where
  walletIds := [0]
  nodup := List.nodup_singleton 0
  row := fun _ => emptyWalletRow
  alongside := ()

def oneWalletContents : SecretsContents Unit where
  password := "old password"
  payload := fun _ => .ok (barkPayloadText "")
  mnemonic := fun _ => "mnemonic"
  alongside := .ok ()

theorem stores_oneWallet : oneWallet.Stores entryVault.Sealed oneWalletContents where
  payload := by
    have hencrypt : entryVault.doEncrypt () "old password" (barkPayloadText "") =
        .ok (rowToPayloadBlob emptyWalletRow) := by decide +kernel
    intro walletId hmem
    exact ⟨_, rfl, (), hencrypt⟩
  mnemonic := by
    have hencrypt : entryVault.doEncrypt () "old password" "mnemonic" =
        .ok (rowToMnemonicBlob emptyWalletRow) := by decide +kernel
    intro walletId hmem
    exact ⟨(), hencrypt⟩
  alongside := rfl

def savePayload : SecretsUpdate Unit Unit where
  transform := fun _ payload => .ok payload
  writeAlongsideInTransaction := none

def addBarkAccount : SecretsUpdate Unit Unit where
  transform := fun _ _ => .ok (barkPayload [barkAccount])
  writeAlongsideInTransaction := none

def attempt (id : Nat) : List (SecretsOp Bool Nat Unit Unit) :=
  [.step id (.update .read), .step id (.update (.transform ())), .step id (.update .put)]

def reencryptionOutlivesHold : List (SecretsOp Bool Nat Unit Unit) :=
  ([.call false 0 (.update 0 savePayload none), .takeTurn false, .grant false 0,
    .call false 1 (.reencrypt "old password" "new password")] : List (SecretsOp _ Nat _ _)) ++
    attempt 0 ++
    ([.settle { tab := false, call := 0, start := .runWithHoldDepth }, .release,
      .step 1 (.reencrypt .list), .step 1 (.reencrypt .load), .step 1 (.reencrypt .load),
      .call true 2 (.update 0 addBarkAccount none), .takeTurn true, .grant true 2] :
      List (SecretsOp _ Nat _ _)) ++ attempt 2 ++
    ([.step 1 (.reencrypt (.encrypt fun _ => ((), ()))), .step 1 (.reencrypt .write),
      .step 1 (.reencrypt .replaceSession)] : List (SecretsOp _ Nat _ _))

def afterReencryption : SecretsSystem Bool Nat Unit Unit :=
  run (secretsStep entryVault sampleEnvironment barkPayloadEngine)
    (initialSecretsSystem (fun _ => some "old password") oneWallet) reencryptionOutlivesHold

theorem not_serial_afterReencryption :
    ¬ afterReencryption.Serial entryVault sampleEnvironment barkPayloadEngine
      oneWalletContents := by
  intro hserial
  have htext : (afterReencryption.contents sampleEnvironment barkPayloadEngine
      oneWalletContents).payload 0 = .ok (barkPayloadText barkAccountText) := by decide +kernel
  have hblob : entryVault.doDecrypt
      (afterReencryption.contents sampleEnvironment barkPayloadEngine oneWalletContents).password
      (rowToPayloadBlob (afterReencryption.table.row 0)) = .ok (barkPayloadText "") := by
    decide +kernel
  have hids : 0 ∈ afterReencryption.table.walletIds := by decide +kernel
  obtain ⟨text, hstored, hread⟩ := hserial.stored.payload 0 hids
  rw [htext] at hstored
  cases hstored
  have hlost := hblob.symm.trans hread
  exact absurd hlost (by decide +kernel)

/-- Both calls have returned, and the account that the update has added is not in the row. -/
theorem reencryption_overwrites_an_update :
    entryVault.Lawful ∧ oneWallet.Stores entryVault.Sealed oneWalletContents ∧
      (∀ id ∈ [1, 2], afterReencryption.isSettled id = true ∧
        id ∈ afterReencryption.log.map SecretsCommit.id) ∧
      ¬ afterReencryption.Serial entryVault sampleEnvironment barkPayloadEngine
        oneWalletContents :=
  ⟨entryVault_lawful, stores_oneWallet, by decide +kernel, not_serial_afterReencryption⟩

/-- The re-encryption of that run no longer finds what it has read. -/
theorem secrets_serial_iff_outlived_hold :
    ¬ RunMeets (secretsStep entryVault sampleEnvironment barkPayloadEngine)
      (ReadsStillStored entryVault sampleEnvironment barkPayloadEngine)
      (initialSecretsSystem (fun _ => some "old password") oneWallet)
      reencryptionOutlivesHold := by
  intro hmeets
  have hserial := (secrets_serial_iff_reads_still_stored entryVault sampleEnvironment
    barkPayloadEngine entryVault_lawful oneWalletContents (fun _ => some "old password") oneWallet
    stores_oneWallet reencryptionOutlivesHold).1.mp hmeets
  exact not_serial_afterReencryption (hserial reencryptionOutlivesHold (List.prefix_refl _))

/-- The password is changed under the lock, after the update of the other tab. -/
def reencryptionUnderLock : List (SecretsOp Bool Nat Unit Unit) :=
  ([.call true 0 (.update 0 addBarkAccount none), .takeTurn true, .grant true 0,
    .call false 1 (.reencrypt "old password" "new password"), .takeTurn false] :
      List (SecretsOp _ Nat _ _)) ++ attempt 0 ++
    ([.settle { tab := true, call := 0, start := .runWithHoldDepth }, .release, .grant false 1,
      .step 1 (.reencrypt .list), .step 1 (.reencrypt .load), .step 1 (.reencrypt .load),
      .step 1 (.reencrypt (.encrypt fun _ => ((), ()))), .step 1 (.reencrypt .write),
      .step 1 (.reencrypt .replaceSession),
      .settle { tab := false, call := 1, start := .runWithHoldDepth }, .release] :
      List (SecretsOp _ Nat _ _))

theorem readsStillStored_underLock :
    RunMeets (secretsStep entryVault sampleEnvironment barkPayloadEngine)
      (ReadsStillStored entryVault sampleEnvironment barkPayloadEngine)
      (initialSecretsSystem (fun _ => some "old password") oneWallet) reencryptionUnderLock := by
  apply readsStillStored_of_settlesLast
  refine ⟨trivial, trivial, trivial, trivial, trivial, trivial, trivial, trivial, ?_, trivial,
    trivial, trivial, trivial, trivial, trivial, trivial, trivial, ?_, trivial, trivial⟩
  · intro _
    decide +kernel
  · intro _
    decide +kernel

end Bitboard.Frontend
