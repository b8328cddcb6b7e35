/-
# Updates and changes of the password take effect one after the other

The writes of all calls are recorded in their order. What they amount to is given by
`applyEffect`: an update transforms the text of one payload, and a re-encryption sets the
password and writes every payload as it reads it. The rows hold what the record amounts to
at every point of a run exactly if every re-encryption that writes still finds in the rows
what it has read from them.
-/

import Bitboard.Frontend.Reencryption

namespace Bitboard.Frontend

open Bitboard.Lib Bitboard.Wallet Bitboard.Wallet.PayloadJson
open SecretsTable

section Contents

variable {Ambient Side : Type}

/-- The texts that the rows hold, and the password that opens them. A text is an error if a
write could not have been computed from the text before. -/
structure SecretsContents (Side : Type) where
  password : String
  payload : Nat → Except String String
  mnemonic : Nat → String
  alongside : Except String Side

variable (env : Environment) (engine : JsonEngine String)

def rewrittenText (mnemonic text : String) : Except String String :=
  (parseWalletPayloadJson env engine text).map fun payload =>
    (assembleWalletSecrets mnemonic payload).payloadText engine

def updatedText (update : SecretsUpdate Ambient Side) (ambient : Ambient) (text : String) :
    Except String String :=
  parseWalletPayloadJson env engine text >>= update.transform ambient >>= fun next =>
    .ok (engine.stringify next)

def applyEffect (contents : SecretsContents Side) :
    SecretsEffect Ambient Side → SecretsContents Side
  | .update walletId update ambient =>
    { contents with
      payload := Function.update contents.payload walletId
        (contents.payload walletId >>= updatedText env engine update ambient)
      alongside := contents.alongside >>= update.toPayloadUpdate.alongside ambient }
  | .reencrypt newPassword =>
    { contents with
      password := newPassword
      payload := fun walletId =>
        contents.payload walletId >>=
          rewrittenText env engine (contents.mnemonic walletId) }

def Vault.Reads (vault : Vault Ambient) (password plaintext : String)
    (blob : EncryptedWalletSecretsBlob) : Prop :=
  vault.doDecrypt password blob = .ok plaintext

/-- The rows hold the texts, in the sense of `holds`. -/
structure SecretsTable.Stores (holds : String → String → EncryptedWalletSecretsBlob → Prop)
    (table : SecretsTable Side) (contents : SecretsContents Side) : Prop where
  payload : ∀ walletId ∈ table.walletIds, ∃ text, contents.payload walletId = .ok text ∧
    holds contents.password text (rowToPayloadBlob (table.row walletId))
  mnemonic : ∀ walletId ∈ table.walletIds,
    holds contents.password (contents.mnemonic walletId) (rowToMnemonicBlob (table.row walletId))
  alongside : contents.alongside = .ok table.alongside

variable {env : Environment} {engine : JsonEngine String} {vault : Vault Ambient}
  {table next : SecretsTable Side} {contents : SecretsContents Side}

theorem SecretsTable.Stores.reads (hlawful : vault.Lawful)
    (h : table.Stores vault.Sealed contents) : table.Stores vault.Reads contents where
  payload := by
    intro walletId hmem
    obtain ⟨text, htext, hsealed⟩ := h.payload walletId hmem
    exact ⟨text, htext, hlawful.opens _ _ _ hsealed⟩
  mnemonic := by
    intro walletId hmem
    exact hlawful.opens _ _ _ (h.mnemonic walletId hmem)
  alongside := h.alongside

/-- What was read of the rows has at most become old. -/
structure SecretsTable.Later (table next : SecretsTable Side) : Prop where
  walletIds : next.walletIds = table.walletIds
  saw : ∀ walletId snapshot, (table.row walletId).cell.Saw snapshot →
    (next.row walletId).cell.Saw snapshot

theorem SecretsTable.later_self (table : SecretsTable Side) : table.Later table where
  walletIds := rfl
  saw := by
    intro walletId snapshot hsaw
    exact hsaw

theorem later_put (table : SecretsTable Side) (walletId : Nat)
    (blobs : SplitWalletSecretsEncryptedBlobs) :
    table.Later (table.putSplitWalletSecretsEncrypted walletId blobs) where
  walletIds := rfl
  saw := by
    intro other snapshot hsaw
    by_cases hother : other = walletId
    · subst hother
      simp only [putSplitWalletSecretsEncrypted, Function.update_self]
      exact hsaw.put blobs.payload
    · simpa only [putSplitWalletSecretsEncrypted, Function.update_of_ne hother]
        using hsaw

theorem later_writeAll (table : SecretsTable Side)
    (blobs : List (Nat × SplitWalletSecretsEncryptedBlobs)) :
    table.Later (table.writeAll blobs) := by
  induction blobs generalizing table with
  | nil => exact table.later_self
  | cons entry blobs ih =>
    have hput := later_put table entry.1 entry.2
    have hrest := ih (table.putSplitWalletSecretsEncrypted entry.1 entry.2)
    constructor
    · exact hrest.walletIds.trans hput.walletIds
    · intro walletId snapshot hsaw
      exact hrest.saw walletId snapshot (hput.saw walletId snapshot hsaw)

theorem alongside_writeAll (table : SecretsTable Side)
    (blobs : List (Nat × SplitWalletSecretsEncryptedBlobs)) :
    (table.writeAll blobs).alongside = table.alongside := by
  induction blobs generalizing table with
  | nil => rfl
  | cons entry blobs ih => exact ih (table.putSplitWalletSecretsEncrypted entry.1 entry.2)

variable {blobs : List (Nat × SplitWalletSecretsEncryptedBlobs)}

theorem row_writeAll_of_notMem {walletId : Nat} (hnot : walletId ∉ blobs.map Prod.fst) :
    (table.writeAll blobs).row walletId = table.row walletId := by
  induction blobs generalizing table with
  | nil => rfl
  | cons entry blobs ih =>
    simp only [List.map_cons, List.mem_cons, not_or] at hnot
    show ((table.putSplitWalletSecretsEncrypted entry.1 entry.2).writeAll blobs).row walletId = _
    rw [ih hnot.2]
    exact Function.update_of_ne hnot.1 _ _

theorem row_writeAll_of_mem {walletId : Nat} {written : SplitWalletSecretsEncryptedBlobs}
    (hnodup : (blobs.map Prod.fst).Nodup) (hmem : (walletId, written) ∈ blobs) :
    (table.writeAll blobs).row walletId =
      ((table.row walletId).withPayload written.payload).withMnemonic written.mnemonic := by
  induction blobs generalizing table with
  | nil => cases hmem
  | cons entry blobs ih =>
    rw [List.map_cons, List.nodup_cons] at hnodup
    show ((table.putSplitWalletSecretsEncrypted entry.1 entry.2).writeAll blobs).row walletId = _
    rcases List.mem_cons.mp hmem with rfl | hrest
    · rw [row_writeAll_of_notMem hnodup.1]
      exact Function.update_self _ _ _
    · have hne : walletId ≠ entry.1 := by
        intro heq
        exact hnodup.1 (heq ▸ List.mem_map_of_mem hrest)
      rw [ih hnodup.2 hrest]
      simp only [putSplitWalletSecretsEncrypted, Function.update_of_ne hne]

/-- The blobs are those of the secrets under the password. -/
def BlobsOf (vault : Vault Ambient) (engine : JsonEngine String) (password : String)
    (entry : Nat × WalletSecrets) (blobs : Nat × SplitWalletSecretsEncryptedBlobs) : Prop :=
  blobs.1 = entry.1 ∧ vault.Sealed password (entry.2.payloadText engine) blobs.2.payload ∧
    vault.Sealed password entry.2.mnemonic blobs.2.mnemonic

/-- A re-encryption goes through all rows of the table. -/
def ReencryptPhase.Sound (vault : Vault Ambient) (engine : JsonEngine String)
    (walletIds : List Nat) (newPassword : String) : ReencryptPhase → Prop
  | .loading rest decrypted => decrypted.map Prod.fst ++ rest = walletIds
  | .encrypting decrypted => decrypted.map Prod.fst = walletIds
  | .writing decrypted blobs => decrypted.map Prod.fst = walletIds ∧
      List.Forall₂ (BlobsOf vault engine newPassword) decrypted blobs
  | _ => True

/-- An update has read its row at some time and computes its write from it under some session,
and a re-encryption goes through all rows. -/
def SecretsTask.Sound (vault : Vault Ambient) (env : Environment)
    (engine : JsonEngine String) (table : SecretsTable Side) : SecretsTask Ambient Side → Prop
  | .update walletId change maxRetries phase => ∃ session,
      (change.call maxRetries phase).Sound (sessionCodec vault env engine session)
        (table.row walletId)
  | .reencrypt _ newPassword phase => phase.Sound vault engine table.walletIds newPassword

theorem SecretsTask.Sound.later {task : SecretsTask Ambient Side}
    (h : task.Sound vault env engine table) (hlater : table.Later next) :
    task.Sound vault env engine next := by
  cases task with
  | update walletId change maxRetries phase =>
    obtain ⟨session, hsound⟩ := h
    refine ⟨session, ?_⟩
    cases phase with
    | transforming attempt current => exact hlater.saw walletId current hsound
    | putting attempt current ambient nextPayload =>
      exact ⟨hlater.saw walletId current hsound.1, hsound.2⟩
    | reading | returned | threw => trivial
  | reencrypt oldPassword newPassword phase =>
    rw [SecretsTask.Sound, hlater.walletIds]
    exact h

def SecretsTask.Wrote : SecretsTask Ambient Side → SecretsEffect Ambient Side → Prop
  | .update walletId change _ _, .update written effect _ => written = walletId ∧ effect = change
  | .reencrypt _ newPassword _, .reencrypt written => written = newPassword
  | _, _ => False

variable (vault env engine) in
/-- A step of a body that writes nothing. -/
structure TaskWaits (table : SecretsTable Side) (task : SecretsTask Ambient Side)
    (result : TaskResult Ambient Side) : Prop where
  table_eq : result.table = table
  written : result.written = none
  sound : result.task.Sound vault env engine table
  committed : result.task.committed = task.committed
  wrote : ∀ effect, task.Wrote effect → result.task.Wrote effect

theorem SecretsTask.sound_of_committed {task : SecretsTask Ambient Side}
    (h : task.committed = true) : task.Sound vault env engine table := by
  cases task with
  | update walletId change maxRetries phase =>
    cases phase with
    | returned => exact ⟨none, trivial⟩
    | _ => cases h
  | reencrypt oldPassword newPassword phase =>
    cases phase with
    | replacingSession | returned | threwAfterWrite => trivial
    | _ => cases h

structure TaskWrites (task : SecretsTask Ambient Side) (effect : SecretsEffect Ambient Side)
    (result : TaskResult Ambient Side) : Prop where
  written : result.written = some effect
  fresh : task.committed = false
  committed : result.task.committed = true
  wrote : result.task.Wrote effect

end Contents

variable {password : String} {blob : EncryptedWalletSecretsBlob}

section UpdateTask

variable {Ambient Side : Type} {vault : Vault Ambient} {env : Environment}
  {engine : JsonEngine String} {table : SecretsTable Side} {contents : SecretsContents Side}
  {session : Option String} {walletId maxRetries : Nat} {update : SecretsUpdate Ambient Side}
  {phase : UpdatePhase Ambient}

theorem setDatabase_database : table.setDatabase walletId (table.database walletId) = table := by
  simp [setDatabase, database]

theorem committed_update_iff :
    (SecretsTask.update walletId update maxRetries phase).committed = true ↔ phase = .returned := by
  cases phase <;> simp [SecretsTask.committed]

variable (session) in
/-- Where nothing has been computed yet, the session is not asked for. -/
theorem exists_session_of_sound (hsound : (SecretsTask.update walletId update maxRetries
      phase).Sound vault env engine table) (input : UpdateInput Ambient) :
    ∃ computed,
      (update.call maxRetries phase).Sound (sessionCodec vault env engine computed)
        (table.database walletId).row ∧
      (update.call maxRetries phase).step (sessionCodec vault env engine session)
          (table.database walletId) input =
        (update.call maxRetries phase).step (sessionCodec vault env engine computed)
          (table.database walletId) input := by
  obtain ⟨computed, hcomputed⟩ := hsound
  cases phase with
  | putting attempt current ambient nextPayload =>
    refine ⟨computed, hcomputed, ?_⟩
    cases input <;> rfl
  | reading | returned | threw => exact ⟨session, trivial, rfl⟩
  | transforming attempt current => exact ⟨session, hcomputed, rfl⟩

/-- A step of an update that leaves its database waits. -/
theorem taskWaits_of_waits {computed : Option String} {input : UpdateInput Ambient}
    {next : UpdateCall JsonValue Ambient Side × SecretsDatabase Side}
    (hwaits : (update.call maxRetries phase).Waits
      (sessionCodec vault env engine computed) (table.database walletId) next)
    (hnext : (update.call maxRetries phase).step (sessionCodec vault env engine session)
      (table.database walletId) (table.inputOn walletId input) = next) :
    TaskWaits env engine vault table (.update walletId update maxRetries phase)
      (updateTaskStep vault env engine table session walletId update maxRetries phase
        input) := by
  have hupdate : next.1.update = update.toPayloadUpdate := by
    rw [← hnext]
    exact step_update _
  have hreturned : next.1.phase = .returned ↔ phase = .returned := hwaits.returned
  constructor
  · simp only [updateTaskStep, hnext, hwaits.unchanged]
    exact setDatabase_database
  · simp only [updateTaskStep, hnext, updateWritten]
    split
    · rename_i attempt current ambient nextPayload hafter
      exact absurd (hreturned.mp hafter) (by simp)
    · rfl
  · simp only [updateTaskStep, hnext]
    refine ⟨computed, ?_⟩
    have hsound := hwaits.sound
    rw [UpdateCall.Sound] at hsound ⊢
    cases hphase : next.1.phase with
    | putting attempt current ambient nextPayload =>
      rw [hphase, hupdate] at hsound
      exact hsound
    | transforming attempt current =>
      rw [hphase] at hsound
      exact hsound
    | reading | returned | threw => trivial
  · rw [Bool.eq_iff_iff]
    simp only [updateTaskStep, hnext]
    rw [committed_update_iff, committed_update_iff]
    exact hreturned
  · intro effect hwrote
    cases effect <;> exact hwrote

variable (session) in
/-- A step of an update waits, or it writes what it has computed from the row as it is. -/
theorem updateTaskStep_cases (hsound : (SecretsTask.update walletId update maxRetries
      phase).Sound vault env engine table) (input : UpdateInput Ambient) :
    TaskWaits env engine vault table (.update walletId update maxRetries phase)
        (updateTaskStep vault env engine table session walletId update maxRetries phase
          input) ∨
      ∃ computed ambient written,
        TaskWrites (.update walletId update maxRetries phase)
          (.update walletId update ambient)
          (updateTaskStep vault env engine table session walletId update maxRetries
            phase input) ∧
        (updateTaskStep vault env engine table session walletId update maxRetries
          phase input).table = table.setDatabase walletId written ∧
        (∃ payload, written.row = (table.row walletId).withPayload payload) ∧
        applyCommit (sessionCodec vault env engine computed)
          (table.database walletId).contents
          ({ id := (), update := update.toPayloadUpdate, ambient := ambient } :
            PayloadCommit Unit JsonValue Ambient Side) = .ok written.contents := by
  obtain ⟨computed, hcomputed, hstep⟩ :=
    exists_session_of_sound session hsound (table.inputOn walletId input)
  generalize hnext : (update.call maxRetries phase).step
      (sessionCodec vault env engine session) (table.database walletId)
      (table.inputOn walletId input) = next at hstep
  have hcommits {ambient : Ambient}
      (h : (update.call maxRetries phase).Commits
        (sessionCodec vault env engine computed) () (table.database walletId) ambient
        next) :
      table.inputOn walletId input = .put ∧ ∃ attempt current ambient nextPayload,
        phase = .putting attempt current ambient nextPayload := by
    have hreturned := h.returned
    rw [← hnext] at hreturned
    exact putting_of_returned h.fresh hreturned
  rcases step_cases () hcomputed (table.inputOn walletId input) with hwaits | ⟨other, hwrites⟩
  · rw [← hstep] at hwaits
    exact Or.inl (taskWaits_of_waits hwaits hnext)
  · rw [← hstep] at hwrites
    obtain ⟨hinput, attempt, current, ambient, nextPayload, rfl⟩ := hcommits hwrites
    rw [hinput] at hstep
    have hphase : (update.call maxRetries (.putting attempt current ambient nextPayload)).phase =
      .putting attempt current ambient nextPayload := rfl
    rcases put_cases () hphase hcomputed with hwaits | hwrites
    · rw [← hstep] at hwaits
      exact Or.inl (taskWaits_of_waits hwaits hnext)
    · rw [← hstep] at hwrites
      refine Or.inr ⟨computed, ambient, next.2, ?_, ?_, hwrites.written, hwrites.contents⟩
      · constructor
        · simp only [updateTaskStep, hnext, hwrites.returned, updateWritten]
        · rfl
        · simp only [updateTaskStep, hnext, hwrites.returned]
          rfl
        · exact ⟨rfl, rfl⟩
      · simp only [updateTaskStep, hnext]

variable {computed : Option String} {ambient : Ambient} {written : SecretsDatabase Side}

theorem decryptData_eq_ok (hlawful : vault.Lawful) {plaintext read : String}
    (hsealed : vault.Sealed password plaintext blob)
    (hread : (sessionCodec vault env engine computed).decryptData blob = .ok read) :
    computed = some password ∧ read = plaintext := by
  cases computed with
  | none => cases hread
  | some other =>
    obtain ⟨rfl, hplaintext⟩ := hlawful.eq_of_doDecrypt hsealed hread
    exact ⟨rfl, hplaintext⟩

theorem sealed_onBlob (hlawful : vault.Lawful) {text : String} {next : EncryptedWalletSecretsBlob}
    (hsealed : vault.Sealed password text blob)
    (hnext : (sessionCodec vault env engine computed).onBlob update.transform ambient
      blob = .ok next) :
    ∃ updated, updatedText env engine update ambient text = .ok updated ∧
      vault.Sealed password updated next := by
  simp only [PayloadCodec.onBlob, PayloadCodec.readPayload, bind_eq_ok] at hnext
  obtain ⟨result, ⟨payload, ⟨read, hread, hparse⟩, htransform⟩, hencrypt⟩ := hnext
  obtain ⟨rfl, rfl⟩ := decryptData_eq_ok hlawful hsealed hread
  refine ⟨engine.stringify result, ?_, ⟨ambient, hencrypt⟩⟩
  rw [updatedText, bind_eq_ok]
  refine ⟨result, ?_, rfl⟩
  rw [bind_eq_ok]
  exact ⟨payload, hparse, htransform⟩

/-- What an update writes amounts to its effect. -/
theorem stores_update (hlawful : vault.Lawful) (h : table.Stores vault.Sealed contents)
    (hpayload : ∃ payload, written.row = (table.row walletId).withPayload payload)
    (hcommit : applyCommit (sessionCodec vault env engine computed)
      (table.database walletId).contents
      ({ id := (), update := update.toPayloadUpdate, ambient := ambient } :
        PayloadCommit Unit JsonValue Ambient Side) = .ok written.contents) :
    (table.setDatabase walletId written).Stores vault.Sealed
      (applyEffect env engine contents (.update walletId update ambient)) := by
  obtain ⟨payload, hrow⟩ := hpayload
  simp only [applyCommit, bind_eq_ok] at hcommit
  obtain ⟨blob, hblob, alongside, halongside, hwritten⟩ := hcommit
  cases hwritten
  constructor
  · intro other hmem
    obtain ⟨text, htext, hsealed⟩ := h.payload other hmem
    by_cases hother : other = walletId
    · subst hother
      obtain ⟨updated, hupdated, hnext⟩ := sealed_onBlob hlawful hsealed hblob
      refine ⟨updated, ?_, ?_⟩
      · simp only [applyEffect, Function.update_self, htext]
        exact hupdated
      · simp only [setDatabase, Function.update_self]
        exact hnext
    · refine ⟨text, ?_, ?_⟩
      · simp only [applyEffect, Function.update_of_ne hother, htext]
      · simp only [setDatabase, Function.update_of_ne hother]
        exact hsealed
  · intro other hmem
    have hsealed := h.mnemonic other hmem
    by_cases hother : other = walletId
    · subst hother
      simp only [setDatabase, Function.update_self, hrow, rowToMnemonicBlob_withPayload]
      exact hsealed
    · simp only [setDatabase, Function.update_of_ne hother]
      exact hsealed
  · simp only [applyEffect, h.alongside]
    exact halongside

theorem later_setDatabase
    (hpayload : ∃ payload, written.row = (table.row walletId).withPayload payload) :
    table.Later (table.setDatabase walletId written) where
  walletIds := rfl
  saw := by
    intro other snapshot hsaw
    obtain ⟨payload, hrow⟩ := hpayload
    by_cases hother : other = walletId
    · subst hother
      simp only [setDatabase, Function.update_self, hrow, cell_withPayload]
      exact hsaw.put payload
    · simpa only [setDatabase, Function.update_of_ne hother] using hsaw

end UpdateTask

/-! ## A re-encryption -/

section ReencryptTask

variable {Ambient Side : Type} {vault : Vault Ambient} {env : Environment}
  {engine : JsonEngine String} {table : SecretsTable Side} {contents : SecretsContents Side}
  {session : Option String} {oldPassword newPassword : String} {phase : ReencryptPhase}
  {decrypted : List (Nat × WalletSecrets)}
  {blobs : List (Nat × SplitWalletSecretsEncryptedBlobs)}
variable (vault env engine) in
/-- The row still holds the secrets, as far as a re-encryption writes them. -/
def StillStored (row : WalletSecretsRow) (secrets : WalletSecrets) : Prop :=
  ∃ password now, loadWalletSecretsWithPassword vault env engine password row = .ok now ∧
    now.payloadText engine = secrets.payloadText engine ∧ now.mnemonic = secrets.mnemonic

/-- All wallets are encrypted, each under its own id. -/
theorem blobsOf_of_mapM {ambient : Nat → Ambient × Ambient} (h : (decrypted.mapM fun entry =>
      (encryptWalletSecrets vault engine newPassword (ambient entry.1) entry.2).map
        fun blobs => (entry.1, blobs)) = .ok blobs) :
    List.Forall₂ (BlobsOf vault engine newPassword) decrypted blobs := by
  induction decrypted generalizing blobs with
  | nil =>
    rw [List.mapM_nil] at h
    cases h
    exact .nil
  | cons entry decrypted ih =>
    rw [List.mapM_cons, bind_eq_ok] at h
    obtain ⟨first, hfirst, hrest⟩ := h
    rw [bind_eq_ok] at hrest
    obtain ⟨rest, hmap, hblobs⟩ := hrest
    cases hblobs
    refine .cons ?_ (ih hmap)
    cases hencrypt : encryptWalletSecrets vault engine newPassword (ambient entry.1) entry.2 with
    | error message =>
      rw [hencrypt] at hfirst
      cases hfirst
    | ok sealed =>
      rw [hencrypt] at hfirst
      cases hfirst
      simp only [encryptWalletSecrets, bind_eq_ok] at hencrypt
      obtain ⟨payload, hpayload, mnemonic, hmnemonic, hsealed⟩ := hencrypt
      cases hsealed
      exact ⟨rfl, ⟨_, hpayload⟩, ⟨_, hmnemonic⟩⟩

theorem taskWaits_reencrypt {next : ReencryptPhase} {after : Option String}
    (hsound : next.Sound vault engine table.walletIds newPassword)
    (hcommitted : (SecretsTask.reencrypt oldPassword newPassword next :
        SecretsTask Ambient Side).committed =
      (SecretsTask.reencrypt oldPassword newPassword phase : SecretsTask Ambient Side).committed) :
    TaskWaits env engine vault table
      (.reencrypt oldPassword newPassword phase : SecretsTask Ambient Side)
      { task := .reencrypt oldPassword newPassword next
        table := table
        session := after
        written := none } where
  table_eq := rfl
  written := rfl
  sound := hsound
  committed := hcommitted
  wrote := by
    intro effect hwrote
    cases effect <;> exact hwrote

/-- Every other step of a re-encryption waits. -/
theorem reencryptTaskStep_waits (hsound : phase.Sound vault engine table.walletIds newPassword)
    {input : ReencryptInput Ambient}
    (hother : input = .write → ∀ decrypted blobs, phase ≠ .writing decrypted blobs) :
    TaskWaits env engine vault table
      (.reencrypt oldPassword newPassword phase : SecretsTask Ambient Side)
      (reencryptTaskStep vault env engine table session oldPassword newPassword phase
        input) := by
  have hstays : TaskWaits env engine vault table
      (.reencrypt oldPassword newPassword phase : SecretsTask Ambient Side)
      { task := .reencrypt oldPassword newPassword phase
        table := table
        session := session
        written := none } := taskWaits_reencrypt hsound rfl
  cases phase with
  | listing =>
    cases input with
    | list =>
      rw [reencryptTaskStep]
      split
      · exact taskWaits_reencrypt trivial rfl
      · exact taskWaits_reencrypt rfl rfl
    | fail message => exact taskWaits_reencrypt trivial rfl
    | load | encrypt | write | replaceSession => exact hstays
  | loading walletIds decrypted =>
    cases input with
    | load =>
      cases walletIds with
      | nil =>
        have hall : decrypted.map Prod.fst = table.walletIds := by
          simpa [ReencryptPhase.Sound] using hsound
        exact taskWaits_reencrypt hall rfl
      | cons walletId walletIds =>
        simp only [reencryptTaskStep]
        split
        · rename_i secrets hload
          have hgoesOn : (ReencryptPhase.loading walletIds
              (decrypted ++ [(walletId, secrets)])).Sound vault engine table.walletIds
                newPassword := by
            simpa [ReencryptPhase.Sound] using hsound
          exact taskWaits_reencrypt hgoesOn rfl
        · exact taskWaits_reencrypt trivial rfl
    | fail message => cases walletIds <;> exact taskWaits_reencrypt trivial rfl
    | list | encrypt | write | replaceSession => cases walletIds <;> exact hstays
  | encrypting decrypted =>
    cases input with
    | encrypt ambient =>
      simp only [reencryptTaskStep]
      split
      · rename_i blobs hmap
        exact taskWaits_reencrypt ⟨hsound, blobsOf_of_mapM hmap⟩ rfl
      · exact taskWaits_reencrypt trivial rfl
    | fail message => exact taskWaits_reencrypt trivial rfl
    | list | load | write | replaceSession => exact hstays
  | writing decrypted blobs =>
    cases input with
    | write => exact absurd rfl (hother rfl decrypted blobs)
    | fail message => exact taskWaits_reencrypt trivial rfl
    | list | load | encrypt | replaceSession => exact hstays
  | replacingSession =>
    cases input with
    | replaceSession | fail => exact taskWaits_reencrypt trivial rfl
    | list | load | encrypt | write => exact hstays
  | returned | threwBeforeWrite | threwAfterWrite => cases input <;> exact hstays

theorem Vault.Lawful.loadWalletSecretsWithPassword_iff (hlawful : vault.Lawful)
    {text mnemonic : String} {row : WalletSecretsRow}
    (hpayload : vault.Sealed password text (rowToPayloadBlob row))
    (hmnemonic : vault.Sealed password mnemonic (rowToMnemonicBlob row)) (other : String)
    (secrets : WalletSecrets) :
    loadWalletSecretsWithPassword vault env engine other row = .ok secrets ↔
      other = password ∧ ∃ payload, parseWalletPayloadJson env engine text = .ok payload ∧
        secrets = assembleWalletSecrets mnemonic payload := by
  simp only [loadWalletSecretsWithPassword, bind_eq_ok]
  constructor
  · intro hload
    obtain ⟨read, hread, readMnemonic, hreadMnemonic, payload, hparse, hsecrets⟩ := hload
    obtain ⟨rfl, rfl⟩ := hlawful.eq_of_doDecrypt hpayload hread
    obtain ⟨-, rfl⟩ := hlawful.eq_of_doDecrypt hmnemonic hreadMnemonic
    cases hsecrets
    exact ⟨rfl, payload, hparse, rfl⟩
  · intro hsame
    obtain ⟨rfl, payload, hparse, rfl⟩ := hsame
    exact ⟨text, hlawful.opens _ _ _ hpayload, mnemonic, hlawful.opens _ _ _ hmnemonic, payload,
      hparse, rfl⟩

/-- A row still holds the secrets exactly if rewriting its text gives theirs. -/
theorem stillStored_iff (hlawful : vault.Lawful) {text mnemonic : String} {row : WalletSecretsRow}
    (hpayload : vault.Sealed password text (rowToPayloadBlob row))
    (hmnemonic : vault.Sealed password mnemonic (rowToMnemonicBlob row)) (secrets : WalletSecrets) :
    StillStored vault env engine row secrets ↔
      rewrittenText env engine mnemonic text = .ok (secrets.payloadText engine) ∧
        mnemonic = secrets.mnemonic := by
  constructor
  · intro hstill
    obtain ⟨other, now, hload, htext, hsame⟩ := hstill
    obtain ⟨-, payload, hparse, rfl⟩ :=
      (hlawful.loadWalletSecretsWithPassword_iff hpayload hmnemonic other now).mp hload
    rw [rewrittenText, hparse, ← htext]
    exact ⟨rfl, hsame⟩
  · intro hsame
    obtain ⟨hrewritten, hsameMnemonic⟩ := hsame
    cases hparse : parseWalletPayloadJson env engine text with
    | error message =>
      rw [rewrittenText, hparse] at hrewritten
      cases hrewritten
    | ok payload =>
      rw [rewrittenText, hparse] at hrewritten
      refine ⟨password, assembleWalletSecrets mnemonic payload, ?_, ?_, hsameMnemonic⟩
      · exact (hlawful.loadWalletSecretsWithPassword_iff hpayload hmnemonic _ _).mpr
          ⟨rfl, payload, hparse, rfl⟩
      · exact Except.ok.inj hrewritten

theorem map_fst_of_blobsOf
    (hblobs : List.Forall₂ (BlobsOf vault engine newPassword) decrypted blobs) :
    blobs.map Prod.fst = decrypted.map Prod.fst := by
  induction hblobs with
  | nil => rfl
  | cons hfirst hrest ih => rw [List.map_cons, List.map_cons, ih, hfirst.1]

variable {entry : Nat × WalletSecrets}

theorem exists_blobsOf (hblobs : List.Forall₂ (BlobsOf vault engine newPassword) decrypted blobs)
    (hmem : entry ∈ decrypted) :
    ∃ sealed ∈ blobs, BlobsOf vault engine newPassword entry sealed := by
  induction hblobs with
  | nil => cases hmem
  | cons hfirst hrest ih =>
    rcases List.mem_cons.mp hmem with rfl | hlater
    · exact ⟨_, List.mem_cons_self, hfirst⟩
    · obtain ⟨sealed, hsealed, hblobs⟩ := ih hlater
      exact ⟨sealed, List.mem_cons_of_mem _ hsealed, hblobs⟩

theorem sealed_writeAll (hids : decrypted.map Prod.fst = table.walletIds)
    (hblobs : List.Forall₂ (BlobsOf vault engine newPassword) decrypted blobs)
    (hmem : entry ∈ decrypted) :
    vault.Sealed newPassword (entry.2.payloadText engine)
        (rowToPayloadBlob ((table.writeAll blobs).row entry.1)) ∧
      vault.Sealed newPassword entry.2.mnemonic
        (rowToMnemonicBlob ((table.writeAll blobs).row entry.1)) := by
  have hnodup : (blobs.map Prod.fst).Nodup := by
    rw [map_fst_of_blobsOf hblobs, hids]
    exact table.nodup
  obtain ⟨sealed, hsealed, hid, hpayload, hmnemonic⟩ := exists_blobsOf hblobs hmem
  have hmemBlobs : (entry.1, sealed.2) ∈ blobs := by
    rw [← hid]
    exact hsealed
  rw [row_writeAll_of_mem hnodup hmemBlobs]
  exact ⟨hpayload, hmnemonic⟩

theorem mem_walletIds_of_mem (hids : decrypted.map Prod.fst = table.walletIds)
    (hmem : entry ∈ decrypted) : entry.1 ∈ table.walletIds := by
  rw [← hids]
  exact List.mem_map_of_mem hmem

/-- A re-encryption that writes what the rows still hold amounts to its effect. -/
theorem stores_writeAll (hlawful : vault.Lawful) (h : table.Stores vault.Sealed contents)
    (hids : decrypted.map Prod.fst = table.walletIds)
    (hblobs : List.Forall₂ (BlobsOf vault engine newPassword) decrypted blobs)
    (hstill : ∀ entry ∈ decrypted, StillStored vault env engine (table.row entry.1) entry.2) :
    (table.writeAll blobs).Stores vault.Sealed
      (applyEffect env engine contents
        (.reencrypt newPassword : SecretsEffect Ambient Side)) := by
  have hsame : ∀ walletId ∈ (table.writeAll blobs).walletIds, ∃ entry ∈ decrypted,
      entry.1 = walletId ∧
      (contents.payload entry.1 >>= rewrittenText env engine (contents.mnemonic entry.1)) =
        .ok (entry.2.payloadText engine) ∧
      contents.mnemonic entry.1 = entry.2.mnemonic := by
    intro walletId hmem
    rw [(later_writeAll table blobs).walletIds, ← hids] at hmem
    obtain ⟨entry, hdecrypted, rfl⟩ := List.mem_map.mp hmem
    have hmem := mem_walletIds_of_mem hids hdecrypted
    obtain ⟨text, htext, hsealed⟩ := h.payload entry.1 hmem
    refine ⟨entry, hdecrypted, rfl, ?_⟩
    rw [htext]
    exact (stillStored_iff hlawful hsealed (h.mnemonic entry.1 hmem) entry.2).mp
      (hstill entry hdecrypted)
  constructor
  · intro walletId hmem
    obtain ⟨entry, hdecrypted, rfl, hpayload, -⟩ := hsame walletId hmem
    exact ⟨_, hpayload, (sealed_writeAll hids hblobs hdecrypted).1⟩
  · intro walletId hmem
    obtain ⟨entry, hdecrypted, rfl, -, hmnemonic⟩ := hsame walletId hmem
    show vault.Sealed newPassword (contents.mnemonic entry.1) _
    rw [hmnemonic]
    exact (sealed_writeAll hids hblobs hdecrypted).2
  · rw [alongside_writeAll]
    exact h.alongside

/-- A re-encryption that writes something else than the rows hold is seen by the next reader. -/
theorem stillStored_of_reads (hlawful : vault.Lawful) (h : table.Stores vault.Sealed contents)
    (hids : decrypted.map Prod.fst = table.walletIds)
    (hblobs : List.Forall₂ (BlobsOf vault engine newPassword) decrypted blobs)
    (hreads : (table.writeAll blobs).Stores vault.Reads
      (applyEffect env engine contents
        (.reencrypt newPassword : SecretsEffect Ambient Side))) :
    ∀ entry ∈ decrypted, StillStored vault env engine (table.row entry.1) entry.2 := by
  intro entry hdecrypted
  have hmem := mem_walletIds_of_mem hids hdecrypted
  have hafter : entry.1 ∈ (table.writeAll blobs).walletIds := by
    rw [(later_writeAll table blobs).walletIds]
    exact hmem
  obtain ⟨text, htext, hsealed⟩ := h.payload entry.1 hmem
  obtain ⟨hpayload, hmnemonic⟩ := sealed_writeAll hids hblobs hdecrypted
  obtain ⟨written, hwritten, hread⟩ := hreads.payload entry.1 hafter
  have hreadMnemonic := hreads.mnemonic entry.1 hafter
  rw [stillStored_iff hlawful hsealed (h.mnemonic entry.1 hmem)]
  constructor
  · rw [← (hlawful.eq_of_doDecrypt hpayload hread).2, ← hwritten]
    simp only [applyEffect, htext]
    rfl
  · exact (hlawful.eq_of_doDecrypt hmnemonic hreadMnemonic).2

end ReencryptTask

end Bitboard.Frontend
