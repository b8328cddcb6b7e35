/-
# Payload updates take effect one after the other

However the calls interleave, the stored payload is the first one with the transforms of
the calls that have returned applied to it, once each, in the order of their writes. A
call that has thrown is not among them. The reason is the revision: a call writes only if
the blob it has read is still the stored one.
-/

import Bitboard.Frontend.PayloadUpdate

namespace Bitboard.Frontend

open Bitboard.Lib
open UpdateCall

variable {blob : EncryptedWalletSecretsBlob}
variable (attempt : Nat)

section Serial

variable {Id Payload Ambient Side : Type}

/-- A call that took effect, with what its last attempt depended on. -/
structure PayloadCommit (Id Payload Ambient Side : Type) where
  id : Id
  update : PayloadUpdate Payload Ambient Side
  ambient : Ambient

/-- What the calls change: the payload blob and the rows written alongside. -/
def SecretsDatabase.contents (database : SecretsDatabase Side) :
    EncryptedWalletSecretsBlob × Side :=
  (rowToPayloadBlob database.row, database.alongside)

def applyCommit (codec : PayloadCodec Payload Ambient)
    (contents : EncryptedWalletSecretsBlob × Side)
    (commit : PayloadCommit Id Payload Ambient Side) :
    Except String (EncryptedWalletSecretsBlob × Side) :=
  commit.update.nextPayload codec commit.ambient contents.1 >>= fun payload =>
    commit.update.alongside commit.ambient contents.2 >>= fun alongside =>
      .ok (payload, alongside)

/-- The calls that have returned, each once, made one after the other in this order, lead
from the first contents to the present ones, and the mnemonic is the first one. -/
structure Serialises (codec : PayloadCodec Payload Ambient) (start : SecretsDatabase Side)
    (system : UpdateSystem Id Payload Ambient Side)
    (order : List (PayloadCommit Id Payload Ambient Side)) : Prop where
  once : (order.map PayloadCommit.id).Nodup
  succeeded : ∀ commit ∈ order, ∃ call, system.calls commit.id = some call ∧
    call.phase = .returned ∧ call.update = commit.update
  complete : ∀ id call, system.calls id = some call → call.phase = .returned →
    id ∈ order.map PayloadCommit.id
  contents : order.foldlM (applyCommit codec) start.contents = .ok system.database.contents
  mnemonic : rowToMnemonicBlob system.database.row = rowToMnemonicBlob start.row

/-- The blob that a call has read is the stored one or has an older revision, and what it
is about to write is its transform of that blob. -/
def UpdateCall.Sound (codec : PayloadCodec Payload Ambient) (row : WalletSecretsRow)
    (call : UpdateCall Payload Ambient Side) : Prop :=
  match call.phase with
  | .transforming _ current => row.cell.Saw current
  | .putting _ current ambient nextPayload =>
    row.cell.Saw current ∧
      call.update.nextPayload codec ambient current.value = .ok nextPayload
  | _ => True

structure UpdateCall.Commits (codec : PayloadCodec Payload Ambient) (id : Id)
    (database : SecretsDatabase Side) (call : UpdateCall Payload Ambient Side)
    (ambient : Ambient) (next : UpdateCall Payload Ambient Side × SecretsDatabase Side) :
    Prop where
  fresh : call.phase ≠ .returned
  returned : next.1.phase = .returned
  written : ∃ payload, next.2.row = database.row.withPayload payload
  contents : applyCommit codec database.contents
    { id := id, update := call.update, ambient := ambient } = .ok next.2.contents

/-- A step of a call that leaves the database as it is and does not return. -/
structure UpdateCall.Waits (codec : PayloadCodec Payload Ambient)
    (database : SecretsDatabase Side) (call : UpdateCall Payload Ambient Side)
    (next : UpdateCall Payload Ambient Side × SecretsDatabase Side) : Prop where
  unchanged : next.2 = database
  sound : next.1.Sound codec database.row
  returned : next.1.phase = .returned ↔ call.phase = .returned

variable {codec : PayloadCodec Payload Ambient} {database : SecretsDatabase Side}
  {call : UpdateCall Payload Ambient Side} {row : WalletSecretsRow}

theorem sound_enterAttempt : (call.enterAttempt attempt).Sound codec row := by
  unfold enterAttempt
  split
  · trivial
  · trivial

theorem enterAttempt_phase_ne_returned : (call.enterAttempt attempt).phase ≠ .returned := by
  unfold enterAttempt
  split
  · simp
  · simp

@[simp]
theorem enterAttempt_update : (call.enterAttempt attempt).update = call.update := by
  unfold enterAttempt
  split
  · rfl
  · rfl

theorem UpdateCall.Sound.withPayload (h : call.Sound codec row)
    (payload : EncryptedWalletSecretsBlob) : call.Sound codec (row.withPayload payload) := by
  unfold UpdateCall.Sound at h ⊢
  cases hphase : call.phase with
  | reading | returned | threw => trivial
  | transforming attempt current =>
    rw [hphase] at h
    exact h.put payload
  | putting attempt current ambient nextPayload =>
    rw [hphase] at h
    exact ⟨h.1.put payload, h.2⟩

theorem sound_of_returned (h : call.phase = .returned) : call.Sound codec row := by
  simp [UpdateCall.Sound, h]

theorem waits_self (h : call.Sound codec database.row) :
    call.Waits codec database (call, database) where
  unchanged := rfl
  sound := h
  returned := Iff.rfl

theorem waits_of_phase {phase : UpdatePhase Ambient}
    (hsound : ({ call with phase := phase } : UpdateCall Payload Ambient Side).Sound codec
      database.row)
    (hbefore : call.phase ≠ .returned) (hafter : phase ≠ .returned) :
    call.Waits codec database ({ call with phase := phase }, database) where
  unchanged := rfl
  sound := hsound
  returned := iff_of_false hafter hbefore

variable {ambient : Ambient} {update : PayloadUpdate Payload Ambient Side}
variable {nextPayload : EncryptedWalletSecretsBlob}

theorem put_eq_written {expectedRevision : Nat} {written : SecretsDatabase Side}
    (h : putPayloadAndWriteAlongsideIfRevisionMatches update database ambient nextPayload
      expectedRevision = .ok (some written)) :
    database.row.revision = expectedRevision ∧
      written.row = database.row.withPayload nextPayload ∧
      update.alongside ambient database.alongside = .ok written.alongside := by
  unfold putPayloadAndWriteAlongsideIfRevisionMatches
    putSplitWalletSecretsEncryptedIfRevisionMatches at h
  by_cases hrevision : database.row.revision = expectedRevision
  · simp only [hrevision, if_true] at h
    cases halongside : update.alongside ambient database.alongside with
    | error message =>
      rw [halongside] at h
      cases h
    | ok alongside =>
      rw [halongside] at h
      cases h
      exact ⟨hrevision, rfl, rfl⟩
  · simp [hrevision] at h

/-- The write of a call commits, or the call starts over or throws. -/
theorem put_cases (id : Id) {attempt : Nat} {current : Versioned EncryptedWalletSecretsBlob}
    (hphase : call.phase = .putting attempt current ambient nextPayload)
    (h : call.Sound codec database.row) :
    call.Waits codec database (call.step codec database .put) ∨
      call.Commits codec id database ambient (call.step codec database .put) := by
  simp only [UpdateCall.Sound, hphase] at h
  cases hput : putPayloadAndWriteAlongsideIfRevisionMatches call.update database ambient
      nextPayload current.version with
  | error message =>
    left
    simp only [step, hphase, hput]
    exact waits_of_phase trivial (by simp [hphase]) (by simp)
  | ok result =>
    cases result with
    | none =>
      left
      simp only [step, hphase, hput]
      exact
        { unchanged := rfl
          sound := sound_enterAttempt (attempt + 1)
          returned := iff_of_false (enterAttempt_phase_ne_returned (attempt + 1))
            (by simp [hphase]) }
    | some written =>
      right
      obtain ⟨hrevision, hrow, halongside⟩ := put_eq_written hput
      -- the revision is the one that was read, so the blob is too
      have hcurrent := h.1.eq_of_version_eq hrevision
      have hnext : call.update.nextPayload codec ambient (rowToPayloadBlob database.row) =
          .ok nextPayload := by
        have hnext := h.2
        rw [hcurrent] at hnext
        exact hnext
      simp only [step, hphase, hput]
      refine ⟨by simp [hphase], rfl, ⟨nextPayload, hrow⟩, ?_⟩
      simp [applyCommit, SecretsDatabase.contents, hnext, halongside, hrow, bind, Except.bind]

/-- Every step of a call waits or commits. -/
theorem step_cases (id : Id) (h : call.Sound codec database.row) (input : UpdateInput Ambient) :
    call.Waits codec database (call.step codec database input) ∨
      ∃ ambient, call.Commits codec id database ambient (call.step codec database input) := by
  have hfails (hbefore : call.phase ≠ .returned) (message : String) :
      call.Waits codec database ({ call with phase := .threw message }, database) :=
    waits_of_phase trivial hbefore (by simp)
  cases hphase : call.phase with
  | reading attempt =>
    have hbefore : call.phase ≠ .returned := by simp [hphase]
    left
    cases input with
    | read =>
      simp only [step, hphase]
      exact waits_of_phase (Versioned.saw_self _) hbefore (by simp)
    | transform | put =>
      simp only [step, hphase]
      exact waits_self h
    | fail message =>
      simp only [step, hphase]
      exact hfails hbefore message
  | transforming attempt current =>
    have hbefore : call.phase ≠ .returned := by simp [hphase]
    left
    cases input with
    | read | put =>
      simp only [step, hphase]
      exact waits_self h
    | transform ambient =>
      cases hnext : call.update.nextPayload codec ambient current.value with
      | error message =>
        simp only [step, hphase, hnext]
        exact hfails hbefore message
      | ok nextPayload =>
        simp only [step, hphase, hnext]
        simp only [UpdateCall.Sound, hphase] at h
        exact waits_of_phase ⟨h, hnext⟩ hbefore (by simp)
    | fail message =>
      simp only [step, hphase]
      exact hfails hbefore message
  | putting attempt current ambient nextPayload =>
    have hbefore : call.phase ≠ .returned := by simp [hphase]
    cases input with
    | read | transform =>
      simp only [step, hphase]
      exact Or.inl (waits_self h)
    | put => exact (put_cases id hphase h).imp_right fun hcommits => ⟨ambient, hcommits⟩
    | fail message =>
      simp only [step, hphase]
      exact Or.inl (hfails hbefore message)
  | returned | threw =>
    left
    cases input with
    | read | transform | put | fail =>
      simp only [step, hphase]
      exact waits_self h

variable (input : UpdateInput Ambient)

theorem step_update : (call.step codec database input).1.update = call.update := by
  cases input with
  | read | transform | put | fail =>
    simp only [step]
    split
    all_goals
      first
      | rfl
      | (split <;> first | rfl | exact enterAttempt_update _)

theorem enterAttempt_eq :
    call.enterAttempt attempt = { call with phase := (call.enterAttempt attempt).phase } := by
  unfold enterAttempt
  split
  · rfl
  · rfl

theorem step_eq :
    (call.step codec database input).1 =
      { call with phase := (call.step codec database input).1.phase } := by
  cases input with
  | read | fail =>
    simp only [step]
    split <;> rfl
  | transform ambient =>
    simp only [step]
    split
    · split <;> rfl
    · rfl
  | put =>
    simp only [step]
    split
    · split
      · rfl
      · exact enterAttempt_eq _
      · rfl
    · rfl

variable (codec database call) in
/-- An update changes its database only as it returns. -/
theorem step_database_or_returned :
    (call.step codec database input).2 = database ∨
      (∃ attempt current ambient nextPayload,
        call.phase = .putting attempt current ambient nextPayload) ∧
        (call.step codec database input).1.phase = .returned := by
  cases input with
  | read | fail =>
    simp only [step]
    split <;> exact Or.inl rfl
  | transform ambient =>
    simp only [step]
    split
    · split <;> exact Or.inl rfl
    · exact Or.inl rfl
  | put =>
    cases hphase : call.phase with
    | putting attempt current ambient nextPayload =>
      simp only [step, hphase]
      split
      · exact Or.inr ⟨⟨attempt, current, ambient, nextPayload, rfl⟩, rfl⟩
      · exact Or.inl rfl
      · exact Or.inl rfl
    | reading | transforming | returned | threw => simp [step, hphase]

/-- Only the write of an attempt returns. -/
theorem putting_of_returned {input : UpdateInput Ambient} (hfresh : call.phase ≠ .returned)
    (hreturned : (call.step codec database input).1.phase = .returned) :
    input = .put ∧ ∃ attempt current ambient nextPayload,
      call.phase = .putting attempt current ambient nextPayload := by
  cases hphase : call.phase with
  | returned => exact absurd hphase hfresh
  | reading | threw =>
    cases input <;> simp [step, hphase] at hreturned
  | transforming attempt current =>
    cases input with
    | transform ambient =>
      simp only [step, hphase] at hreturned
      split at hreturned <;> cases hreturned
    | read | put | fail => simp [step, hphase] at hreturned
  | putting attempt current ambient nextPayload =>
    cases input with
    | put => exact ⟨rfl, attempt, current, ambient, nextPayload, rfl⟩
    | read | transform | fail => simp [step, hphase] at hreturned

/-! ## Runs -/

/-- Some order serialises the calls that have returned, and the others are sound. -/
structure UpdateInv (codec : PayloadCodec Payload Ambient) (start : SecretsDatabase Side)
    (system : UpdateSystem Id Payload Ambient Side) : Prop where
  serialised : ∃ order, Serialises codec start system order
  sound : ∀ id call, system.calls id = some call → call.Sound codec system.database.row

variable {start : SecretsDatabase Side} {system : UpdateSystem Id Payload Ambient Side}
  {order : List (PayloadCommit Id Payload Ambient Side)}

theorem updateInv_initial : UpdateInv codec start
    (initialUpdateSystem start : UpdateSystem Id Payload Ambient Side) where
  serialised := by
    refine ⟨[], List.nodup_nil, ?_, ?_, rfl, rfl⟩
    · intro commit hcommit
      cases hcommit
    · intro id call hcall
      cases hcall
  sound := by
    intro id call hcall
    cases hcall

variable [DecidableEq Id] {id : Id} {next : UpdateCall Payload Ambient Side}

/-- A call that is replaced by one with the same update, and returns if and only if it has
returned before, keeps the order. -/
theorem Serialises.replace (h : Serialises codec start system order)
    (hbefore : ∀ before, system.calls id = some before →
      next.update = before.update ∧ (next.phase = .returned ↔ before.phase = .returned))
    (hnew : system.calls id = none → next.phase ≠ .returned) :
    Serialises codec start
      { system with calls := Function.update system.calls id (some next) } order where
  once := h.once
  succeeded := by
    intro commit hcommit
    obtain ⟨call, hcall, hreturned, hupdate⟩ := h.succeeded commit hcommit
    by_cases hid : commit.id = id
    · rw [hid] at hcall
      obtain ⟨hsame, hiff⟩ := hbefore call hcall
      exact ⟨next, by simp [hid], hiff.mpr hreturned, hsame.trans hupdate⟩
    · exact ⟨call, by simpa [Function.update_of_ne hid] using hcall, hreturned, hupdate⟩
  complete := by
    intro other call hcall hreturned
    obtain ⟨rfl, rfl⟩ | ⟨-, hcall⟩ := update_some_cases hcall
    · cases hcalls : system.calls other with
      | none => exact absurd hreturned (hnew hcalls)
      | some before =>
        exact h.complete other before hcalls ((hbefore before hcalls).2.mp hreturned)
    · exact h.complete other call hcall hreturned
  contents := h.contents
  mnemonic := h.mnemonic

/-- A call that commits comes last in the order. -/
theorem Serialises.commit (h : Serialises codec start system order)
    {written : SecretsDatabase Side} (hcall : system.calls id = some call)
    (hcommits : call.Commits codec id system.database ambient (next, written))
    (hupdate : next.update = call.update) :
    Serialises codec start
      { database := written, calls := Function.update system.calls id (some next) }
      (order ++ [{ id := id, update := call.update, ambient := ambient }]) where
  once := by
    have hfresh : id ∉ order.map PayloadCommit.id := by
      intro hmem
      obtain ⟨commit, hcommit, hid⟩ := List.mem_map.mp hmem
      obtain ⟨before, hbefore, hreturned, -⟩ := h.succeeded commit hcommit
      rw [hid, hcall] at hbefore
      cases hbefore
      exact hcommits.fresh hreturned
    rw [List.map_append, List.map_cons, List.map_nil, List.nodup_append]
    refine ⟨h.once, by simp, ?_⟩
    intro other hother last hlast
    rw [List.mem_singleton.mp hlast]
    exact ne_of_mem_of_not_mem hother hfresh
  succeeded := by
    intro commit hcommit
    rcases List.mem_append.mp hcommit with hbefore | hlast
    · obtain ⟨other, hother, hreturned, hsame⟩ := h.succeeded commit hbefore
      have hid : commit.id ≠ id := by
        intro hid
        rw [hid, hcall] at hother
        cases hother
        exact hcommits.fresh hreturned
      exact ⟨other, by simpa [Function.update_of_ne hid] using hother, hreturned, hsame⟩
    · rw [List.mem_singleton.mp hlast]
      exact ⟨next, by simp, hcommits.returned, hupdate⟩
  complete := by
    intro other before hbefore hreturned
    rw [List.map_append, List.mem_append]
    by_cases hid : other = id
    · subst hid
      exact Or.inr (by simp)
    · simp only [Function.update_of_ne hid] at hbefore
      exact Or.inl (h.complete other before hbefore hreturned)
  contents := foldlM_concat_eq_ok h.contents hcommits.contents
  mnemonic := by
    obtain ⟨payload, hrow⟩ := hcommits.written
    show rowToMnemonicBlob written.row = rowToMnemonicBlob start.row
    rw [show written.row = _ from hrow, rowToMnemonicBlob_withPayload]
    exact h.mnemonic

theorem forall_update {P : UpdateCall Payload Ambient Side → Prop}
    {calls : Id → Option (UpdateCall Payload Ambient Side)} (hnext : P next)
    (hcalls : ∀ other call, calls other = some call → P call) (other : Id)
    (call : UpdateCall Payload Ambient Side)
    (hcall : Function.update calls id (some next) other = some call) : P call := by
  by_cases hid : other = id
  · subst hid
    simp only [Function.update_self, Option.some.injEq] at hcall
    exact hcall ▸ hnext
  · simp only [Function.update_of_ne hid] at hcall
    exact hcalls other call hcall

theorem startCall_phase_ne_returned (update : PayloadUpdate Payload Ambient Side)
    (maxRetries : Option Nat) : (startCall update maxRetries).phase ≠ .returned :=
  enterAttempt_phase_ne_returned 1

/-- What one step of the calls keeps. -/
theorem updateInv_updateStep (system : UpdateSystem Id Payload Ambient Side)
    (op : UpdateOp Id Payload Ambient Side) (h : UpdateInv codec start system) :
    UpdateInv codec start (updateStep codec system op) := by
  obtain ⟨order, hserial⟩ := h.serialised
  cases op with
  | call id update maxRetries =>
    cases hcalls : system.calls id with
    | some call =>
      simp only [updateStep, hcalls]
      exact h
    | none =>
      simp only [updateStep, hcalls]
      constructor
      · refine ⟨order, hserial.replace ?_ ?_⟩
        · intro before hbefore
          rw [hcalls] at hbefore
          cases hbefore
        · intro _
          exact startCall_phase_ne_returned update maxRetries
      · exact forall_update (sound_enterAttempt 1) h.sound
  | step id input =>
    cases hcalls : system.calls id with
    | none =>
      simp only [updateStep, hcalls]
      exact h
    | some call =>
      simp only [updateStep, hcalls]
      have hupdate : (call.step codec system.database input).1.update = call.update :=
        step_update input
      have hcases := step_cases id (h.sound id call hcalls) input
      generalize call.step codec system.database input = result at hupdate hcases ⊢
      obtain ⟨next, written⟩ := result
      rcases hcases with hwaits | ⟨ambient, hcommits⟩
      · obtain rfl : written = system.database := hwaits.unchanged
        constructor
        · refine ⟨order, hserial.replace ?_ ?_⟩
          · intro before hbefore
            obtain rfl := Option.some.inj (hcalls.symm.trans hbefore)
            exact ⟨hupdate, hwaits.returned⟩
          · intro hnone
            rw [hcalls] at hnone
            cases hnone
        · exact forall_update hwaits.sound h.sound
      · obtain ⟨payload, hrow⟩ := hcommits.written
        constructor
        · exact ⟨_, hserial.commit hcalls hcommits hupdate⟩
        · apply forall_update
          · exact sound_of_returned hcommits.returned
          · intro other before hbefore
            show before.Sound codec written.row
            rw [show written.row = _ from hrow]
            exact (h.sound other before hbefore).withPayload payload

def PayloadCodec.RoundTrips (codec : PayloadCodec Payload Ambient) : Prop :=
  ∀ ambient plaintext blob, codec.encryptData ambient plaintext = .ok blob →
    codec.decryptData blob = .ok plaintext

/-- What the update of a call does to the payload that is read: a transform of the payload
does what it does, a transform of the ciphertext what a reader of its result sees. -/
def PayloadUpdate.Means (codec : PayloadCodec Payload Ambient)
    (effect : Ambient → Payload → Except String Payload) :
    PayloadUpdate Payload Ambient Side → Prop
  | .payload transform _ => effect = codec.storedForm transform
  | .encrypted transform => ∀ ambient blob next, transform ambient blob = .ok next →
      codec.readPayload next = codec.readPayload blob >>= effect ambient

theorem readPayload_onBlob (hround : codec.RoundTrips)
    {transform : Ambient → Payload → Except String Payload} {next : EncryptedWalletSecretsBlob}
    (h : codec.onBlob transform ambient blob = .ok next) :
    codec.readPayload next = codec.readPayload blob >>= codec.storedForm transform ambient := by
  unfold PayloadCodec.onBlob at h
  obtain ⟨transformed, htransformed, hencrypted⟩ := bind_eq_ok.mp h
  obtain ⟨payload, hpayload, htransform⟩ := bind_eq_ok.mp htransformed
  rw [hpayload]
  show (codec.decryptData next >>= codec.parseWalletPayloadJson) =
    (transform ambient payload >>= fun next =>
      codec.parseWalletPayloadJson (codec.stringify next))
  rw [hround ambient _ next hencrypted, htransform]
  rfl

/-- An update of the decrypted payload does to it what its change does, in its stored form. -/
theorem updateDecryptedWalletPayload_means (hround : codec.RoundTrips)
    (applyChange : Ambient → Payload → Except String Payload) :
    (updateDecryptedWalletPayload codec applyChange : PayloadUpdate Payload Ambient Side).Means
      codec (codec.storedForm applyChange) :=
  fun _ _ _ h => readPayload_onBlob hround h

theorem readPayload_nextPayload (hround : codec.RoundTrips)
    {effect : Ambient → Payload → Except String Payload} (hmeans : update.Means codec effect)
    {next : EncryptedWalletSecretsBlob}
    (h : update.nextPayload codec ambient blob = .ok next) :
    codec.readPayload next = codec.readPayload blob >>= effect ambient := by
  cases update with
  | payload transform alongside =>
    rw [show effect = codec.storedForm transform from hmeans]
    exact readPayload_onBlob hround h
  | encrypted transform => exact hmeans ambient blob next h

omit [DecidableEq Id] in
/-- Calls made one after the other do to the payload what their transforms do. -/
theorem readPayload_foldlM (hround : codec.RoundTrips)
    {effect : Id → Ambient → Payload → Except String Payload}
    (hmeans : ∀ commit ∈ order, commit.update.Means codec (effect commit.id))
    {first last : EncryptedWalletSecretsBlob × Side}
    (h : order.foldlM (applyCommit codec) first = .ok last) :
    codec.readPayload last.1 =
      order.foldl (fun payload commit => payload >>= effect commit.id commit.ambient)
        (codec.readPayload first.1) := by
  induction order generalizing first with
  | nil =>
    cases h
    rfl
  | cons commit order ih =>
    obtain ⟨next, hnext, hrest⟩ := foldlM_cons_eq_ok.mp h
    obtain ⟨payload, hpayload, halongside⟩ := bind_eq_ok.mp hnext
    obtain ⟨alongside, -, hpair⟩ := bind_eq_ok.mp halongside
    cases hpair
    have hread := readPayload_nextPayload hround (hmeans commit List.mem_cons_self) hpayload
    rw [List.foldl_cons, ← hread]
    exact ih (fun later hlater => hmeans later (List.mem_cons_of_mem commit hlater)) hrest

/-- However the calls interleave, those that have returned took effect once each, one after
the other, and nothing else did; and the payload that is read is the first one with their
transforms applied in that order. -/
theorem serialises_run (codec : PayloadCodec Payload Ambient) (hround : codec.RoundTrips)
    (start : SecretsDatabase Side) (ops : List (UpdateOp Id Payload Ambient Side)) :
    ∃ order, Serialises codec start
        (run (updateStep codec) (initialUpdateSystem start) ops) order ∧
      ∀ effect : Id → Ambient → Payload → Except String Payload,
        (∀ commit ∈ order, commit.update.Means codec (effect commit.id)) →
        codec.readPayload (rowToPayloadBlob
            (run (updateStep codec) (initialUpdateSystem start) ops).database.row) =
          order.foldl (fun payload commit => payload >>= effect commit.id commit.ambient)
            (codec.readPayload (rowToPayloadBlob start.row)) := by
  have hinv := run_invariant (UpdateInv codec start) updateInv_updateStep updateInv_initial ops
  obtain ⟨order, hserial⟩ := hinv.serialised
  refine ⟨order, hserial, ?_⟩
  intro effect hmeans
  exact readPayload_foldlM hround hmeans hserial.contents

end Serial

def textCodec : PayloadCodec String Unit where
  encryptData := fun _ plaintext =>
    .ok { ciphertext := plaintext.toUTF8.data.toList, iv := [1], salt := [2], kdfPhc := "v=19" }
  decryptData := fun blob =>
    match String.fromUTF8? ⟨blob.ciphertext.toArray⟩ with
    | some plaintext => .ok plaintext
    | none => .error "Decryption failed"
  stringify := id
  parseWalletPayloadJson := .ok

theorem fromUTF8_bytes (plaintext : String) :
    String.fromUTF8? ⟨plaintext.toUTF8.data.toList.toArray⟩ = some plaintext := by
  have hbytes : (⟨plaintext.toUTF8.data.toList.toArray⟩ : ByteArray) = plaintext.toUTF8 := by
    rw [Array.toArray_toList]
  rw [hbytes]
  unfold String.fromUTF8?
  split
  · rfl
  · rename_i hinvalid
    exact absurd plaintext.isValidUTF8 hinvalid

theorem textCodec_roundTrips : textCodec.RoundTrips := by
  intro ambient plaintext blob hblob
  cases hblob
  simp only [textCodec, fromUTF8_bytes]

def emptyTextDatabase : SecretsDatabase Unit where
  row :=
    { revision := 0, encryptedData := [], iv := [1], salt := [2], kdfPhc := "v=19",
      mnemonicEncryptedData := [3], mnemonicIv := [4], mnemonicSalt := [5],
      mnemonicKdfPhc := "v=19" }
  alongside := ()

def appendText (suffix : String) : PayloadUpdate String Unit Unit :=
  .payload (fun _ payload => .ok (payload ++ suffix)) none

def conflictingCalls : List (UpdateOp Bool String Unit Unit) :=
  [.call false (appendText "a") none, .call true (appendText "b") none, .step false .read,
    .step true .read, .step false (.transform ()), .step true (.transform ()),
    .step false .put, .step true .put, .step true .read, .step true (.transform ()),
    .step true .put]

theorem serialises_conflictingCalls :
    (∃ order, Serialises textCodec emptyTextDatabase
        (run (updateStep textCodec) (initialUpdateSystem emptyTextDatabase) conflictingCalls)
        order) ∧
      (run (updateStep textCodec) (initialUpdateSystem emptyTextDatabase)
        conflictingCalls).database.row.encryptedData = [97, 98] := by
  obtain ⟨order, hserial, -⟩ :=
    serialises_run textCodec textCodec_roundTrips emptyTextDatabase conflictingCalls
  exact ⟨⟨order, hserial⟩, by decide +kernel⟩

end Bitboard.Frontend
