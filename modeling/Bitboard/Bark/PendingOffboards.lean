/-
# Pending offboards

A collaborative exit of Bark parks as an offboard checkpoint. After each sync the wallet drives
the pending checkpoints again, so that the error of a drive can be shown. Where the server
rejects a drive because it has an input as spent, the wallet marks that input as spent as well
and stops every checkpoint with such an input; where an input is already spent or exited
locally, the checkpoint is stopped before it is driven.

The Bark wallet is a parameter: each of its calls may find it changed, and may fail. What is
called, and what was answered, is written to a log.
-/

import Bitboard.Lib.History
import Mathlib.Data.List.TakeWhile

namespace Bitboard.Bark

open Bitboard.Lib

universe u

abbrev Text := List Char

/-- What follows the first occurrence of the mark. -/
def afterFirst (mark : Text) : Text → Option Text
  | [] => if mark.isEmpty then some [] else none
  | c :: rest =>
    if mark.isPrefixOf (c :: rest) then some ((c :: rest).drop mark.length)
    else afterFirst mark rest

/-- `char::is_whitespace`. -/
def isWhitespace (c : Char) : Bool :=
  c.toNat ∈ [0x20, 0x85, 0xA0, 0x1680, 0x2028, 0x2029, 0x202F, 0x205F, 0x3000] ||
    (0x9 ≤ c.toNat && c.toNat ≤ 0xD) || (0x2000 ≤ c.toNat && c.toNat ≤ 0x200A)

def spentVtxoRejectionTails : List Text :=
  [" is not spendable (state: spent)".toList, " is already spent".toList]

def vtxoRejectionMark : Text := "vtxo ".toList

def spentRejectionFollows (afterId : Text) : Bool :=
  spentVtxoRejectionTails.any fun tail => tail.isPrefixOf afterId

def isAsciiDigit (c : Char) : Bool := 0x30 ≤ c.toNat && c.toNat ≤ 0x39

def isAsciiHexdigit (c : Char) : Bool :=
  isAsciiDigit c || (0x61 ≤ c.toNat && c.toNat ≤ 0x66) || (0x41 ≤ c.toNat && c.toNat ≤ 0x46)

def isVtxoId (id : Text) : Bool :=
  match id.dropWhile (· != ':') with
  | [] => false
  | _ :: vout =>
    let txid := id.takeWhile (· != ':')
    txid.length == 64 && txid.all isAsciiHexdigit && !vout.isEmpty && vout.all isAsciiDigit

theorem afterFirst_cases (mark text : Text) :
    (afterFirst mark text = none ∧ ∀ before after, text ≠ before ++ mark ++ after) ∨
      ∃ first after, afterFirst mark text = some after ∧ text = first ++ mark ++ after ∧
        ∀ before later, text = before ++ mark ++ later → first.length ≤ before.length := by
  induction text with
  | nil =>
    by_cases hmark : mark = []
    · exact .inr ⟨[], [], by simp [afterFirst, hmark], by simp [hmark], by simp⟩
    · refine .inl ⟨by simp [afterFirst, hmark], fun before after h => hmark ?_⟩
      have hnil : before ++ mark ++ after = [] := h.symm
      simp only [List.append_eq_nil_iff] at hnil
      exact hnil.1.2
  | cons c rest ih =>
    by_cases hmark : mark.isPrefixOf (c :: rest) = true
    · obtain ⟨after, hafter⟩ := List.isPrefixOf_iff_prefix.mp hmark
      refine .inr ⟨[], after, ?_, by rw [List.nil_append, hafter], by simp⟩
      rw [afterFirst, if_pos hmark, ← hafter, List.drop_left]
    · have hhead : ∀ before later, c :: rest = before ++ mark ++ later →
          ∃ shorter, before = c :: shorter ∧ rest = shorter ++ mark ++ later := by
        intro before later h
        cases before with
        | nil => exact absurd (List.isPrefixOf_iff_prefix.mpr ⟨later, h.symm⟩) hmark
        | cons d shorter =>
          cases (List.cons.inj h).1
          exact ⟨shorter, rfl, (List.cons.inj h).2⟩
      rw [afterFirst, if_neg hmark]
      rcases ih with ⟨hnone, hnot⟩ | ⟨first, after, hafter, htext, hfirst⟩
      · refine .inl ⟨hnone, fun before later h => ?_⟩
        obtain ⟨shorter, -, hrest⟩ := hhead before later h
        exact hnot shorter later hrest
      · refine .inr ⟨c :: first, after, hafter, by rw [htext]; rfl, fun before later h => ?_⟩
        obtain ⟨shorter, rfl, hrest⟩ := hhead before later h
        exact Nat.succ_le_succ (hfirst shorter later hrest)

def inWord (c : Char) : Bool := !isWhitespace c

/-- The ids collected so far, and those named in the rest of the message. An id is a word, so
that it has nothing to trim. -/
def collectSpentVtxoIds (ids : List Text) (rest : Text) : List Text :=
  match _h : afterFirst vtxoRejectionMark rest with
  | none => ids
  | some afterMark =>
    let id := afterMark.takeWhile inWord
    let afterId := afterMark.dropWhile inWord
    collectSpentVtxoIds
      (if isVtxoId id && spentRejectionFollows afterId && !ids.contains id then ids ++ [id]
        else ids) afterId
termination_by rest.length
decreasing_by
  rcases afterFirst_cases vtxoRejectionMark rest with ⟨hnone, -⟩ | ⟨first, after, hafter, hrest, -⟩
  · cases hnone.symm.trans _h
  · cases hafter.symm.trans _h
    have hle := (List.dropWhile_sublist inWord (l := afterMark)).length_le
    rw [hrest]
    simp only [vtxoRejectionMark, List.length_append]
    simp
    omega

def spentVtxoIdsNamedByServer (message : Text) : List Text :=
  collectSpentVtxoIds [] message

/-- After `before`, the message has the id as spent. -/
def RejectsAt (message before id : Text) : Prop :=
  isVtxoId id = true ∧ ∃ tail ∈ spentVtxoRejectionTails, ∃ after,
    message = before ++ vtxoRejectionMark ++ (id ++ (tail ++ after))

/-- What ends `before` is the word after a mark, or the beginning of one. -/
def EndsInMarkedWord (before : Text) : Prop :=
  ∃ earlier word, before = earlier ++ vtxoRejectionMark ++ word ∧
    ∀ c ∈ word, inWord c = true

theorem inWord_of_graphic {c : Char} (hlow : 0x20 < c.toNat) (hhigh : c.toNat < 0x7F) :
    inWord c = true := by
  simp only [inWord, isWhitespace, List.mem_cons, List.not_mem_nil, or_false]
  simp
  omega

theorem inWord_of_isVtxoId {id : Text} (h : isVtxoId id = true) : ∀ c ∈ id, inWord c = true := by
  unfold isVtxoId at h
  split at h
  · cases h
  · rename_i colon vout hrest
    simp only [Bool.and_eq_true, List.all_eq_true] at h
    intro c hc
    rw [← List.takeWhile_append_dropWhile (p := (· != ':')) (l := id), hrest, List.mem_append,
      List.mem_cons] at hc
    rcases hc with htxid | rfl | hvout
    · have hhex := h.1.1.2 c htxid
      simp only [isAsciiHexdigit, isAsciiDigit, Bool.or_eq_true, Bool.and_eq_true,
        decide_eq_true_eq] at hhex
      exact inWord_of_graphic (by omega) (by omega)
    · have hcolon := List.head?_dropWhile_not (· != ':') id
      rw [hrest] at hcolon
      have heq : c = ':' := by simpa using hcolon
      rw [heq]
      decide
    · have hdigit := h.2 c hvout
      simp only [isAsciiDigit, Bool.and_eq_true, decide_eq_true_eq] at hdigit
      exact inWord_of_graphic (by omega) (by omega)

/-- A mark does not overlap itself. -/
theorem mark_append_eq {more after later : Text}
    (h : vtxoRejectionMark ++ after = more ++ (vtxoRejectionMark ++ later)) :
    more = [] ∧ after = later ∨
      ∃ rest, more = vtxoRejectionMark ++ rest ∧ after = rest ++ (vtxoRejectionMark ++ later) := by
  rcases more with _ | ⟨_, _ | ⟨_, _ | ⟨_, _ | ⟨_, _ | ⟨_, rest⟩⟩⟩⟩⟩
  · exact .inl ⟨rfl, List.append_cancel_left h⟩
  all_goals simp [vtxoRejectionMark] at h
  obtain ⟨rfl, rfl, rfl, rfl, rfl, rfl⟩ := h
  exact .inr ⟨rest, rfl, rfl⟩

theorem word_of_rejection {id tail after : Text} (hid : isVtxoId id = true)
    (htail : tail ∈ spentVtxoRejectionTails) :
    (id ++ (tail ++ after)).takeWhile inWord = id ∧
      (id ++ (tail ++ after)).dropWhile inWord = tail ++ after := by
  have hword := inWord_of_isVtxoId hid
  have hspace : ∃ rest, tail = ' ' :: rest := by
    rcases List.mem_pair.mp htail with rfl | rfl
    all_goals exact ⟨_, rfl⟩
  obtain ⟨rest, rfl⟩ := hspace
  have hstop : inWord ' ' = false := by decide
  rw [List.takeWhile_append_of_pos hword, List.dropWhile_append_of_pos hword, List.cons_append,
    List.takeWhile_cons_of_neg (by simp [hstop]), List.dropWhile_cons_of_neg (by simp [hstop])]
  exact ⟨List.append_nil _, rfl⟩

theorem RejectsAt.append_left {message before id : Text} (h : RejectsAt message before id)
    (text : Text) : RejectsAt (text ++ message) (text ++ before) id := by
  obtain ⟨hid, tail, htail, after, rfl⟩ := h
  refine ⟨hid, tail, htail, after, ?_⟩
  simp only [List.append_assoc]

theorem EndsInMarkedWord.append_left {before : Text} (h : EndsInMarkedWord before) (text : Text) :
    EndsInMarkedWord (text ++ before) := by
  obtain ⟨earlier, word, rfl, hword⟩ := h
  refine ⟨text ++ earlier, word, ?_, hword⟩
  simp only [List.append_assoc]

/-- A rejection begins at the first mark, or somewhere behind it. -/
theorem RejectsAt.first_or_behind {rest first afterMark before id : Text}
    (hrest : rest = first ++ vtxoRejectionMark ++ afterMark)
    (hfirst : ∀ before later, rest = before ++ vtxoRejectionMark ++ later →
      first.length ≤ before.length) (h : RejectsAt rest before id) :
    (∃ tail ∈ spentVtxoRejectionTails, ∃ after, afterMark = id ++ (tail ++ after)) ∨
      ∃ more, before = first ++ vtxoRejectionMark ++ more ∧ RejectsAt afterMark more id := by
  obtain ⟨hid, tail, htail, after, hat⟩ := h
  have hfirstOf : first <+: rest :=
    ⟨vtxoRejectionMark ++ afterMark, by rw [hrest, List.append_assoc]⟩
  have hbeforeOf : before <+: rest :=
    ⟨vtxoRejectionMark ++ (id ++ (tail ++ after)), by rw [hat, List.append_assoc]⟩
  obtain ⟨more, rfl⟩ :=
    List.prefix_of_prefix_length_le hfirstOf hbeforeOf (hfirst before _ hat)
  have hmarks : vtxoRejectionMark ++ afterMark =
      more ++ (vtxoRejectionMark ++ (id ++ (tail ++ after))) := by
    have heq := hrest.symm.trans hat
    simp only [List.append_assoc] at heq
    exact List.append_cancel_left heq
  rcases mark_append_eq hmarks with ⟨-, hafter⟩ | ⟨behind, rfl, hafter⟩
  · exact .inl ⟨tail, htail, after, hafter⟩
  · refine .inr ⟨behind, ?_, hid, tail, htail, after, ?_⟩
    · rw [List.append_assoc]
    · rw [hafter, List.append_assoc]

/-- Unless a rejection begins inside the first word, it stands behind that word. -/
theorem RejectsAt.dropWord {text before id : Text} (h : RejectsAt text before id)
    (hword : ¬ ∀ c ∈ before, inWord c = true) :
    RejectsAt (text.dropWhile inWord) (before.dropWhile inWord) id := by
  obtain ⟨hid, tail, htail, after, rfl⟩ := h
  refine ⟨hid, tail, htail, after, ?_⟩
  rw [List.append_assoc, List.dropWhile_append,
    if_neg (by simpa [List.dropWhile_eq_nil_iff] using hword), List.append_assoc]

theorem mem_addUnlessContained {ids : List Text} {id other : Text} {names : Bool} :
    other ∈ (if names && !ids.contains id then ids ++ [id] else ids) ↔
      other ∈ ids ∨ names = true ∧ other = id := by
  cases names with
  | false => simp
  | true =>
    by_cases hmem : id ∈ ids
    · rw [if_neg (by simpa using hmem)]
      constructor
      · exact .inl
      · rintro (hother | ⟨-, rfl⟩)
        · exact hother
        · exact hmem
    · rw [if_pos (by simpa using hmem), List.mem_append, List.mem_singleton]
      simp

theorem nodup_addUnlessContained {ids : List Text} {id : Text} {names : Bool}
    (hnodup : ids.Nodup) : (if names && !ids.contains id then ids ++ [id] else ids).Nodup := by
  split
  · rename_i hnew
    simp only [Bool.and_eq_true, Bool.not_eq_true', List.contains_eq_mem,
      decide_eq_false_iff_not] at hnew
    rw [List.nodup_append]
    refine ⟨hnodup, by simp, ?_⟩
    intro other hother last hlast heq
    rw [heq, List.mem_singleton.mp hlast] at hother
    exact hnew.2 hother
  · exact hnodup

/-- What the scan of the rest of a message collects besides `ids`. -/
structure CollectsSpent (ids : List Text) (rest : Text) (collected : List Text) : Prop where
  nodup : ids.Nodup → collected.Nodup
  kept : ids ⊆ collected
  named : ∀ id ∈ collected, id ∈ ids ∨ ∃ before, RejectsAt rest before id
  found : ∀ before id, RejectsAt rest before id → id ∈ collected ∨ EndsInMarkedWord before

theorem collectsSpent (ids : List Text) (rest : Text) :
    CollectsSpent ids rest (collectSpentVtxoIds ids rest) := by
  fun_induction collectSpentVtxoIds ids rest with
  | case1 ids rest hnone =>
    refine ⟨id, List.Subset.refl ids, fun _ => .inl, ?_⟩
    rintro before id ⟨-, tail, -, after, hrest⟩
    rcases afterFirst_cases vtxoRejectionMark rest with ⟨-, hnot⟩ | ⟨_, after, hafter, -⟩
    · exact absurd hrest (hnot before _)
    · cases hnone.symm.trans hafter
  | case2 ids rest afterMark hmark id afterId ih =>
    rcases afterFirst_cases vtxoRejectionMark rest with
      ⟨hnone, -⟩ | ⟨first, after, hafter, hrest, hfirst⟩
    · cases hnone.symm.trans hmark
    cases hafter.symm.trans hmark
    have hsplit : afterMark = id ++ afterId := (List.takeWhile_append_dropWhile ..).symm
    refine ⟨fun hnodup => ih.nodup (nodup_addUnlessContained hnodup), ?_, ?_, ?_⟩
    · intro other hother
      exact ih.kept (mem_addUnlessContained.mpr (.inl hother))
    · intro other hother
      rcases ih.named other hother with hmem | ⟨before, hbehind⟩
      · rcases mem_addUnlessContained.mp hmem with hold | ⟨hnames, rfl⟩
        · exact .inl hold
        · rw [Bool.and_eq_true, spentRejectionFollows, List.any_eq_true] at hnames
          obtain ⟨hid, tail, htail, hfollows⟩ := hnames
          obtain ⟨later, hlater⟩ := List.isPrefixOf_iff_prefix.mp hfollows
          exact .inr ⟨first, hid, tail, htail, later, by rw [hrest, hsplit, hlater]⟩
      · refine .inr ⟨first ++ vtxoRejectionMark ++ id ++ before, ?_⟩
        rw [hrest, hsplit, ← List.append_assoc]
        exact hbehind.append_left _
    · intro before other hat
      rcases hat.first_or_behind hrest hfirst with ⟨tail, htail, later, hlater⟩ | ⟨more, rfl, hmore⟩
      · obtain ⟨hid, hafterId⟩ := @word_of_rejection other tail later hat.1 htail
        rw [← hlater] at hid hafterId
        have hfollows : spentRejectionFollows afterId = true := by
          rw [show afterId = tail ++ later from hafterId]
          exact List.any_eq_true.mpr
            ⟨tail, htail, List.isPrefixOf_iff_prefix.mpr (List.prefix_append tail later)⟩
        refine .inl (ih.kept (mem_addUnlessContained.mpr (.inr ⟨?_, hid.symm⟩)))
        rw [hfollows, Bool.and_true, show id = other from hid]
        exact hat.1
      · by_cases hword : ∀ c ∈ more, inWord c = true
        · exact .inr ⟨first, more, rfl, hword⟩
        · rcases ih.found _ other (hmore.dropWord hword) with hmem | hends
          · exact .inl hmem
          · have hends := hends.append_left (first ++ vtxoRejectionMark ++ more.takeWhile inWord)
            rw [List.append_assoc, List.takeWhile_append_dropWhile] at hends
            exact .inr hends

/-- A message names each spent id once; every id that it names stands in a rejection, and it
names the id of every rejection that does not begin inside a marked word. -/
theorem spent_vtxo_ids_named_by_server_scans (message : Text) :
    (spentVtxoIdsNamedByServer message).Nodup ∧
      (∀ id ∈ spentVtxoIdsNamedByServer message, ∃ before, RejectsAt message before id) ∧
      ∀ before id, RejectsAt message before id →
        id ∈ spentVtxoIdsNamedByServer message ∨ EndsInMarkedWord before := by
  have hcollects := collectsSpent [] message
  refine ⟨hcollects.nodup List.nodup_nil, fun id hid => ?_, hcollects.found⟩
  exact (hcollects.named id hid).resolve_left List.not_mem_nil

inductive ExitInputState where
  | spendable | locked | spent | exited
  deriving DecidableEq

structure WalletVtxo where
  id : Text
  state : ExitInputState

def exitInputIsAlreadyConsumed (vtxo : WalletVtxo) : Bool :=
  vtxo.state == .spent || vtxo.state == .exited

inductive OffboardKind where
  | offboardWhole (inputVtxoIds : List Text)
  | sendOnchain (inputVtxoIds : List Text)

inductive Progress where
  | start | splitWithArkoor | arkoorRegistrationRequired | readyForOffboard | offboardTxPrepared
  | readyForBroadcast | awaitingConfirmations
  deriving DecidableEq

structure Offboard where
  id : Text
  kind : OffboardKind
  progress : Progress

def offboardInputIds (offboard : Offboard) : List Text :=
  match offboard.kind with
  | .offboardWhole inputVtxoIds | .sendOnchain inputVtxoIds => inputVtxoIds

def sendOnchainSplitAlreadySpentItsInputs (kind : OffboardKind) (progress : Progress) : Bool :=
  match kind with
  | .offboardWhole _ => false
  | .sendOnchain _ => progress != .start && progress != .splitWithArkoor

/-- `offboard_stage_waits_without_an_error` at the stage of the progress. -/
def offboardStageWaitsWithoutAnError (progress : Progress) : Bool :=
  progress == .awaitingConfirmations

/-- What the session calls on the wallet. Any call may find the wallet changed by another
task, and changes it as it likes. -/
structure BarkWallet (W : Type u) where
  allVtxos : W → Except Text (List WalletVtxo) × W
  pendingOffboards : W → Except Text (List Offboard) × W
  offboardCheckpoint : Text → W → Except Text (Option Offboard) × W
  driveAction : Offboard → W → Except Text Unit × W
  markVtxosAsSpent : List WalletVtxo → W → Except Text Unit × W
  stopWalletAction : Text → W → Except Text Unit × W

inductive OffboardCall where
  | readVtxos (answer : Except Text (List WalletVtxo))
  | readPending (answer : Except Text (List Offboard))
  | readCheckpoint (id : Text) (answer : Except Text (Option Offboard))
  | drove (id : Text) (answer : Except Text Unit)
  | markedSpent (vtxos : List WalletVtxo)
  | stopped (offboard : Offboard)

structure OffboardSession (W : Type u) where
  wallet : W
  offboardDriveErrors : Text → Option Text
  calls : List OffboardCall

section Session

variable {W : Type u} (bark : BarkWallet W)
variable (session : OffboardSession W)

def OffboardSession.call {α : Type} (answer : Except Text α × W)
    (entry : Except Text α → OffboardCall) : Except Text α × OffboardSession W :=
  (answer.1, { session with wallet := answer.2, calls := session.calls ++ [entry answer.1] })

def OffboardSession.rememberOffboardDriveError (id error : Text) : OffboardSession W :=
  { session with
    offboardDriveErrors := fun other =>
      if other = id then some error else session.offboardDriveErrors other }

def OffboardSession.forgetOffboardDriveError (id : Text) : OffboardSession W :=
  { session with
    offboardDriveErrors := fun other =>
      if other = id then none else session.offboardDriveErrors other }

def recordNamedVtxosAsSpent (spentIds : List Text) (session : OffboardSession W) :
    Except Text Unit × OffboardSession W :=
  match session.call (bark.allVtxos session.wallet) .readVtxos with
  | (.error error, session) => (.error error, session)
  | (.ok vtxos, session) =>
    let matched := vtxos.filter fun vtxo => spentIds.contains vtxo.id
    if matched.isEmpty then (.ok (), session)
    else session.call (bark.markVtxosAsSpent matched session.wallet) fun _ => .markedSpent matched

def stopEachThatNames (spentIds : List Text) :
    List Offboard → OffboardSession W → Except Text Unit × OffboardSession W
  | [], session => (.ok (), session)
  | offboard :: rest, session =>
    if (offboardInputIds offboard).any spentIds.contains then
      match session.call (bark.stopWalletAction offboard.id session.wallet)
        fun _ => .stopped offboard with
      | (.error error, session) => (.error error, session)
      | (.ok (), session) => stopEachThatNames spentIds rest session
    else stopEachThatNames spentIds rest session

def stopOffboardsThatName (spentIds : List Text) (session : OffboardSession W) :
    Except Text Unit × OffboardSession W :=
  match session.call (bark.pendingOffboards session.wallet) .readPending with
  | (.error error, session) => (.error error, session)
  | (.ok pending, session) => stopEachThatNames bark spentIds pending session

def retireOffboardIfServerSpentAnInput (errorMessage : Text) (session : OffboardSession W) :
    Except Text Bool × OffboardSession W :=
  let spentIds := spentVtxoIdsNamedByServer errorMessage
  if spentIds.isEmpty then (.ok false, session)
  else
    match recordNamedVtxosAsSpent bark spentIds session with
    | (.error error, session) => (.error error, session)
    | (.ok (), session) =>
      match stopOffboardsThatName bark spentIds session with
      | (.error error, session) => (.error error, session)
      | (.ok (), session) => (.ok true, session)

def rememberOrRetireOffboardDriveError (id message : Text) (session : OffboardSession W) :
    OffboardSession W :=
  match retireOffboardIfServerSpentAnInput bark message session with
  | (.ok true, session) => session.forgetOffboardDriveError id
  | (.ok false, session) => session.rememberOffboardDriveError id message
  | (.error retireError, session) =>
    session.rememberOffboardDriveError id (message ++ " (".toList ++ retireError ++ ")".toList)

def stopOffboardWhoseInputsAreAlreadyConsumed (offboard : Offboard)
    (session : OffboardSession W) : Except Text Bool × OffboardSession W :=
  if sendOnchainSplitAlreadySpentItsInputs offboard.kind offboard.progress then
    (.ok false, session)
  else
    match session.call (bark.allVtxos session.wallet) .readVtxos with
    | (.error error, session) => (.error error, session)
    | (.ok vtxos, session) =>
      if vtxos.any fun vtxo =>
          (offboardInputIds offboard).contains vtxo.id && exitInputIsAlreadyConsumed vtxo then
        match session.call (bark.stopWalletAction offboard.id session.wallet)
          fun _ => .stopped offboard with
        | (.error error, session) => (.error error, session)
        | (.ok (), session) => (.ok true, session)
      else (.ok false, session)

/-- `drive_offboard_until_its_result_is_visible`, with the attempts that are left. -/
def driveOffboardUntilItsResultIsVisible (id : Text) :
    Nat → Offboard → OffboardSession W → OffboardSession W
  | 0, _, session => session
  | attempts + 1, action, session =>
    match session.call (bark.driveAction action session.wallet) (.drove id) with
    | (.error message, session) => rememberOrRetireOffboardDriveError bark id message session
    | (.ok (), session) =>
      match session.call (bark.offboardCheckpoint id session.wallet) (.readCheckpoint id) with
      | (.error _, session) => driveOffboardUntilItsResultIsVisible id attempts action session
      | (.ok none, session) => session.forgetOffboardDriveError id
      | (.ok (some fresh), session) =>
        if offboardStageWaitsWithoutAnError fresh.progress then
          session.forgetOffboardDriveError id
        else driveOffboardUntilItsResultIsVisible id attempts fresh session

def continueEach : List Offboard → OffboardSession W → OffboardSession W
  | [], session => session
  | action :: rest, session =>
    match stopOffboardWhoseInputsAreAlreadyConsumed bark action session with
    | (.ok true, session) => continueEach rest (session.forgetOffboardDriveError action.id)
    | (_, session) =>
      continueEach rest (driveOffboardUntilItsResultIsVisible bark action.id 4 action session)

def continuePendingOffboards (session : OffboardSession W) : OffboardSession W :=
  match session.call (bark.pendingOffboards session.wallet) .readPending with
  | (.error _, session) => session
  | (.ok pending, session) =>
    let after := continueEach bark pending session
    { after with
      offboardDriveErrors := fun id =>
        if id ∈ pending.map Offboard.id then after.offboardDriveErrors id else none }

end Session

/-! ## What a drive of the pending offboards calls -/

variable (calls : List OffboardCall)

/-- The server has rejected a drive since the id is spent. -/
def NamedAsSpent (id : Text) : Prop :=
  ∃ driven message, .drove driven (.error message) ∈ calls ∧
    id ∈ spentVtxoIdsNamedByServer message

/-- Only a VTXO of the wallet that the server named is marked as spent. A checkpoint is stopped
since the server named an input, or since the wallet has an input as spent or exited without
the checkpoint's own split having spent it. -/
def Justified (before : List OffboardCall) : OffboardCall → Prop
  | .markedSpent vtxos => ∃ read, .readVtxos (.ok read) ∈ before ∧
      ∀ vtxo ∈ vtxos, vtxo ∈ read ∧ NamedAsSpent before vtxo.id
  | .stopped offboard => (∃ id ∈ offboardInputIds offboard, NamedAsSpent before id) ∨
      sendOnchainSplitAlreadySpentItsInputs offboard.kind offboard.progress = false ∧
        ∃ read, .readVtxos (.ok read) ∈ before ∧ ∃ vtxo ∈ read,
          vtxo.id ∈ offboardInputIds offboard ∧ exitInputIsAlreadyConsumed vtxo = true
  | _ => True

/-- Why the error of a drive may be forgotten: the checkpoint was stopped, it was found gone or
waiting for confirmations, or the server named spent VTXOs. -/
def Settled (id : Text) : Prop :=
  (∃ offboard, .stopped offboard ∈ calls ∧ offboard.id = id) ∨
    (∃ answer, .readCheckpoint id (.ok answer) ∈ calls ∧
      ∀ fresh, answer = some fresh → offboardStageWaitsWithoutAnError fresh.progress = true) ∨
    ∃ message, .drove id (.error message) ∈ calls ∧ spentVtxoIdsNamedByServer message ≠ []

/-- The error begins with the answer to a drive of the checkpoint. -/
def Reports (id error : Text) : Prop :=
  ∃ message, .drove id (.error message) ∈ calls ∧ message <+: error

section Continues

variable {W : Type u}

/-- What the calls between two points of a session have done. -/
structure Continues (before after : OffboardSession W) : Prop where
  grows : before.calls <+: after.calls
  justified : EachAllowed Justified before.calls → EachAllowed Justified after.calls
  errors : ∀ id, after.offboardDriveErrors id = before.offboardDriveErrors id ∨
    after.offboardDriveErrors id = none ∧ Settled after.calls id ∨
    ∃ error, after.offboardDriveErrors id = some error ∧ Reports after.calls id error

variable {before after session : OffboardSession W}

theorem NamedAsSpent.mono {calls more : List OffboardCall} {id : Text}
    (h : NamedAsSpent calls id) (hsub : calls ⊆ more) : NamedAsSpent more id := by
  obtain ⟨driven, message, hdrove, hid⟩ := h
  exact ⟨driven, message, hsub hdrove, hid⟩

theorem Settled.mono {calls more : List OffboardCall} {id : Text} (h : Settled calls id)
    (hsub : calls ⊆ more) : Settled more id := by
  rcases h with ⟨offboard, hstopped, hid⟩ | ⟨answer, hread, hwaits⟩ | ⟨message, hdrove, hspent⟩
  · exact .inl ⟨offboard, hsub hstopped, hid⟩
  · exact .inr (.inl ⟨answer, hsub hread, hwaits⟩)
  · exact .inr (.inr ⟨message, hsub hdrove, hspent⟩)

theorem Continues.refl (session : OffboardSession W) : Continues session session where
  grows := List.prefix_refl _
  justified := id
  errors _ := .inl rfl

theorem Continues.trans {middle : OffboardSession W} (hfirst : Continues before middle)
    (hsecond : Continues middle after) : Continues before after where
  grows := hfirst.grows.trans hsecond.grows
  justified h := hsecond.justified (hfirst.justified h)
  errors id := by
    rcases hsecond.errors id with hsame | hchanged
    · rw [hsame]
      rcases hfirst.errors id with
        hfirst | ⟨hnone, hsettled⟩ | ⟨error, herror, message, hdrove, hle⟩
      · exact .inl hfirst
      · exact .inr (.inl ⟨hnone, hsettled.mono hsecond.grows.subset⟩)
      · exact .inr (.inr ⟨error, herror, message, hsecond.grows.subset hdrove, hle⟩)
    · exact .inr hchanged

theorem continues_of_call {α : Type} {answer : Except Text α × W}
    {entry : Except Text α → OffboardCall} {result : Except Text α}
    (h : session.call answer entry = (result, after))
    (hjustified : Justified session.calls (entry result)) :
    Continues session after ∧ entry result ∈ after.calls := by
  cases h
  refine ⟨⟨List.prefix_append _ _, fun hcalls => ?_, fun _ => .inl rfl⟩, ?_⟩
  · exact eachAllowed_append_singleton.mpr ⟨hcalls, hjustified⟩
  · exact List.mem_append_right _ (List.mem_singleton_self _)

theorem continues_call {α : Type} {answer : Except Text α × W}
    {entry : Except Text α → OffboardCall} (hjustified : Justified session.calls (entry answer.1)) :
    Continues session (session.call answer entry).2 :=
  (continues_of_call rfl hjustified).1

theorem continues_forget {id : Text} (h : Settled session.calls id) :
    Continues session (session.forgetOffboardDriveError id) where
  grows := List.prefix_refl _
  justified := fun hcalls => hcalls
  errors other := by
    by_cases hother : other = id
    · rw [hother]
      exact .inr (.inl ⟨if_pos rfl, h⟩)
    · exact .inl (if_neg hother)

theorem continues_remember {id error : Text} (h : Reports session.calls id error) :
    Continues session (session.rememberOffboardDriveError id error) where
  grows := List.prefix_refl _
  justified := fun hcalls => hcalls
  errors other := by
    by_cases hother : other = id
    · rw [hother]
      exact .inr (.inr ⟨error, if_pos rfl, h⟩)
    · exact .inl (if_neg hother)

variable (bark : BarkWallet W)

theorem continues_recordNamedVtxosAsSpent {spentIds : List Text}
    (hnamed : ∀ id ∈ spentIds, NamedAsSpent session.calls id) :
    Continues session (recordNamedVtxosAsSpent bark spentIds session).2 := by
  unfold recordNamedVtxosAsSpent
  split
  · rename_i hread
    exact (continues_of_call hread trivial).1
  · rename_i vtxos middle hread
    obtain ⟨hcontinues, hmem⟩ := continues_of_call hread trivial
    dsimp only
    split
    · exact hcontinues
    · have hjustified : Justified middle.calls
          (.markedSpent (vtxos.filter fun vtxo => spentIds.contains vtxo.id)) := by
        refine ⟨vtxos, hmem, fun vtxo hvtxo => ?_⟩
        obtain ⟨hvtxo, hid⟩ := List.mem_filter.mp hvtxo
        exact ⟨hvtxo, (hnamed _ (List.contains_iff_mem.mp hid)).mono hcontinues.grows.subset⟩
      exact hcontinues.trans (continues_call hjustified)

theorem continues_stopEachThatNames {spentIds : List Text} (offboards : List Offboard)
    (session : OffboardSession W) (hnamed : ∀ id ∈ spentIds, NamedAsSpent session.calls id) :
    Continues session (stopEachThatNames bark spentIds offboards session).2 := by
  induction offboards generalizing session with
  | nil => exact .refl session
  | cons offboard rest ih =>
    rw [stopEachThatNames]
    split
    · rename_i hnames
      obtain ⟨id, hid, hspent⟩ := List.any_eq_true.mp hnames
      have hjustified : Justified session.calls (.stopped offboard) :=
        .inl ⟨id, hid, hnamed id (List.contains_iff_mem.mp hspent)⟩
      split
      · rename_i hstop
        exact (continues_of_call hstop hjustified).1
      · rename_i hstop
        have hcontinues := (continues_of_call hstop hjustified).1
        exact hcontinues.trans
          (ih _ fun id hid => (hnamed id hid).mono hcontinues.grows.subset)
    · exact ih session hnamed

theorem continues_retireOffboardIfServerSpentAnInput {id message : Text}
    (hdrove : .drove id (.error message) ∈ session.calls) :
    Continues session (retireOffboardIfServerSpentAnInput bark message session).2 ∧
      ((retireOffboardIfServerSpentAnInput bark message session).1 = .ok true →
        spentVtxoIdsNamedByServer message ≠ []) := by
  have hnamed : ∀ spentId ∈ spentVtxoIdsNamedByServer message,
      NamedAsSpent session.calls spentId := fun _ hid => ⟨id, message, hdrove, hid⟩
  have hrecord := continues_recordNamedVtxosAsSpent bark hnamed
  unfold retireOffboardIfServerSpentAnInput
  dsimp only
  split
  · exact ⟨.refl session, fun h => by cases h⟩
  · rename_i hspent
    have hne : spentVtxoIdsNamedByServer message ≠ [] := by simpa using hspent
    split
    · rename_i hrecorded
      rw [hrecorded] at hrecord
      exact ⟨hrecord, fun _ => hne⟩
    · rename_i middle hrecorded
      rw [hrecorded] at hrecord
      have hstop : Continues middle
          (stopOffboardsThatName bark (spentVtxoIdsNamedByServer message) middle).2 := by
        unfold stopOffboardsThatName
        split
        · rename_i hread
          exact (continues_of_call hread trivial).1
        · rename_i hread
          have hcontinues := (continues_of_call hread trivial).1
          refine hcontinues.trans (continues_stopEachThatNames bark _ _ fun spentId hid => ?_)
          exact (hnamed spentId hid).mono (hrecord.trans hcontinues).grows.subset
      split
      all_goals
        rename_i hstopped
        rw [hstopped] at hstop
        exact ⟨hrecord.trans hstop, fun _ => hne⟩

theorem continues_rememberOrRetireOffboardDriveError {id message : Text}
    (hdrove : .drove id (.error message) ∈ session.calls) :
    Continues session (rememberOrRetireOffboardDriveError bark id message session) := by
  obtain ⟨hretire, hspent⟩ := continues_retireOffboardIfServerSpentAnInput bark hdrove
  unfold rememberOrRetireOffboardDriveError
  split
  all_goals
    rename_i hresult
    rw [hresult] at hretire hspent
    have hdrove := hretire.grows.subset hdrove
  · exact hretire.trans (continues_forget (.inr (.inr ⟨message, hdrove, hspent rfl⟩)))
  · exact hretire.trans (continues_remember ⟨message, hdrove, List.prefix_refl message⟩)
  · refine hretire.trans (continues_remember ⟨message, hdrove, ?_⟩)
    simp only [List.append_assoc]
    exact List.prefix_append _ _

theorem continues_stopOffboardWhoseInputsAreAlreadyConsumed (offboard : Offboard)
    (session : OffboardSession W) :
    Continues session (stopOffboardWhoseInputsAreAlreadyConsumed bark offboard session).2 ∧
      ((stopOffboardWhoseInputsAreAlreadyConsumed bark offboard session).1 = .ok true →
        .stopped offboard ∈
          (stopOffboardWhoseInputsAreAlreadyConsumed bark offboard session).2.calls) := by
  unfold stopOffboardWhoseInputsAreAlreadyConsumed
  split
  · exact ⟨.refl session, fun h => by cases h⟩
  · rename_i hsplit
    split
    · rename_i hread
      exact ⟨(continues_of_call hread trivial).1, fun h => by cases h⟩
    · rename_i vtxos middle hread
      obtain ⟨hcontinues, hmem⟩ := continues_of_call hread trivial
      split
      · rename_i hconsumed
        obtain ⟨vtxo, hvtxo, hinput⟩ := List.any_eq_true.mp hconsumed
        rw [Bool.and_eq_true, List.contains_iff_mem] at hinput
        have hjustified : Justified middle.calls (.stopped offboard) :=
          .inr ⟨by simpa using hsplit, vtxos, hmem, vtxo, hvtxo, hinput⟩
        split
        all_goals
          rename_i hstop
          obtain ⟨hstops, hstopped⟩ := continues_of_call hstop hjustified
          exact ⟨hcontinues.trans hstops, fun _ => hstopped⟩
      · exact ⟨hcontinues, fun h => by cases h⟩

theorem continues_driveOffboardUntilItsResultIsVisible (id : Text) (attempts : Nat)
    (action : Offboard) (session : OffboardSession W) :
    Continues session
      (driveOffboardUntilItsResultIsVisible bark id attempts action session) := by
  induction attempts generalizing action session with
  | zero => exact .refl session
  | succ attempts ih =>
    rw [driveOffboardUntilItsResultIsVisible]
    split
    · rename_i hdrive
      obtain ⟨hcontinues, hdrove⟩ := continues_of_call hdrive trivial
      exact hcontinues.trans (continues_rememberOrRetireOffboardDriveError bark hdrove)
    · rename_i hdrive
      have hcontinues := (continues_of_call hdrive trivial).1
      split
      all_goals
        rename_i hcheckpoint
        obtain ⟨hreads, hmem⟩ := continues_of_call hcheckpoint trivial
        refine hcontinues.trans (hreads.trans ?_)
      · exact ih _ _
      · exact continues_forget (.inr (.inl ⟨none, hmem, fun _ h => by cases h⟩))
      · rename_i fresh _
        split
        · rename_i hwaits
          refine continues_forget (.inr (.inl ⟨some fresh, hmem, fun other h => ?_⟩))
          cases h
          exact hwaits
        · exact ih _ _

theorem continues_continueEach (actions : List Offboard) (session : OffboardSession W) :
    Continues session (continueEach bark actions session) := by
  induction actions generalizing session with
  | nil => exact .refl session
  | cons action rest ih =>
    obtain ⟨hstops, hstopped⟩ :=
      continues_stopOffboardWhoseInputsAreAlreadyConsumed bark action session
    rw [continueEach]
    split
    · rename_i hresult
      rw [hresult] at hstops hstopped
      have hforget := @continues_forget _ _ action.id (.inl ⟨action, hstopped rfl, rfl⟩)
      exact hstops.trans (hforget.trans (ih _))
    · rename_i hresult
      rw [hresult] at hstops
      exact hstops.trans
        ((continues_driveOffboardUntilItsResultIsVisible bark _ _ _ _).trans (ih _))

end Continues

/-- A drive of the pending offboards marks and stops only what it is justified to. It leaves the
error of a checkpoint as it was, forgets it for a reason, or replaces it by that of a drive; and
of what is not pending, it keeps no error. -/
theorem continue_pending_offboards_contract {W : Type u} (bark : BarkWallet W) (wallet : W)
    (offboardDriveErrors : Text → Option Text) :
    let after := continuePendingOffboards bark ⟨wallet, offboardDriveErrors, []⟩
    EachAllowed Justified after.calls ∧
      match (bark.pendingOffboards wallet).1 with
      | .error _ => after.offboardDriveErrors = offboardDriveErrors
      | .ok pending => ∀ id,
        if id ∈ pending.map Offboard.id then
          after.offboardDriveErrors id = offboardDriveErrors id ∨
            after.offboardDriveErrors id = none ∧ Settled after.calls id ∨
            ∃ error, after.offboardDriveErrors id = some error ∧ Reports after.calls id error
        else after.offboardDriveErrors id = none := by
  have hread : Continues (W := W) ⟨wallet, offboardDriveErrors, []⟩
      (OffboardSession.call ⟨wallet, offboardDriveErrors, []⟩ (bark.pendingOffboards wallet)
        .readPending).2 :=
    @continues_call _ _ _ _ .readPending trivial
  dsimp only
  cases hpending : (bark.pendingOffboards wallet).1 with
  | error error =>
    have hafter : continuePendingOffboards bark ⟨wallet, offboardDriveErrors, []⟩ =
        (OffboardSession.call ⟨wallet, offboardDriveErrors, []⟩ (bark.pendingOffboards wallet)
          .readPending).2 := by
      simp only [continuePendingOffboards, OffboardSession.call, hpending]
    rw [hafter]
    exact ⟨hread.justified (eachAllowed_nil _), rfl⟩
  | ok pending =>
    have hcontinues := hread.trans (continues_continueEach bark pending _)
    have hafter : continuePendingOffboards bark ⟨wallet, offboardDriveErrors, []⟩ =
        let after := continueEach bark pending
          (OffboardSession.call ⟨wallet, offboardDriveErrors, []⟩ (bark.pendingOffboards wallet)
            .readPending).2
        { after with
          offboardDriveErrors := fun id =>
            if id ∈ pending.map Offboard.id then after.offboardDriveErrors id else none } := by
      simp only [continuePendingOffboards, OffboardSession.call, hpending]
    rw [hafter]
    refine ⟨hcontinues.justified (eachAllowed_nil _), fun id => ?_⟩
    split
    · rename_i hid
      simp only [hid, if_true]
      exact hcontinues.errors id
    · rename_i hid
      simp only [hid, if_false]

end Bitboard.Bark
