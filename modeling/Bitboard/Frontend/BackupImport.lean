/-
# The import of a backup

An import closes the wallet database, removes its log, its shared memory file and its main
file one after another, and writes the imported main file in their place. Every step may fail
or be the last one of the page, a removal that finds the file locked is tried again, and other
tasks may open the database at any time. A run ends where the import fails or the page dies.
-/

import Bitboard.Lib.Run

namespace Bitboard.Frontend

open Bitboard.Lib

/-- The databases that a file can belong to; a task that finds none makes a fresh one. -/
inductive DatabaseName
  | old
  | imported
  | fresh
  deriving DecidableEq

/-- The main file. A database that is not whole needs its log; one that has lost a log which it
needed is not a complete database any more. -/
inductive MainFile
  | database (name : DatabaseName) (whole : Bool)
  | withoutLog (name : DatabaseName)
  | empty
  | partlyWritten
  deriving DecidableEq

/-- The files of the wallet database in OPFS. The log is kept by the database it was written
for. -/
structure OpfsStorage where
  main : Option MainFile
  log : Option DatabaseName
  shm : Bool

inductive OpfsFile
  | log
  | shm
  | main
  deriving DecidableEq

def MainFile.loseLog : MainFile → MainFile
  | .database name false => .withoutLog name
  | other => other

namespace OpfsStorage

variable (storage : OpfsStorage)

def removeEntry : OpfsFile → OpfsStorage
  | .log =>
    match storage.log with
    | none => storage
    | some _ => { storage with main := storage.main.map MainFile.loseLog, log := none }
  | .shm => { storage with shm := false }
  | .main => { storage with main := none }

/-- A task opens the database and perhaps writes. A write goes to the log. -/
def access (writes : Bool) : OpfsStorage :=
  match storage.main with
  | none | some .empty =>
    { main := some (.database .fresh (!writes))
      log := if writes then some .fresh else storage.log
      shm := true }
  | some (.database name _) =>
    if writes = true ∧ (storage.log = none ∨ storage.log = some name) then
      { main := some (.database name false), log := some name, shm := true }
    else { storage with shm := true }
  | some (.withoutLog name) =>
    { storage with log := if writes then some name else storage.log, shm := true }
  | some .partlyWritten => storage

/-- SQLite moves the log into the main file. It removes the log too where it closes the last
connection. -/
def checkpoint (lastConnection : Bool) : OpfsStorage :=
  let left := if lastConnection then none else storage.log
  match storage.main, storage.log with
  | some (.database name _), some logged =>
    if name = logged then { storage with main := some (.database name true), log := left }
    else storage
  | some (.withoutLog _), some _ => { storage with log := left }
  | _, _ => storage

def Holds (name : DatabaseName) : Prop :=
  ∃ whole, storage.main = some (.database name whole) ∧
    (storage.log = some name ∨ storage.log = none ∧ whole = true)

/-- The complete old database or the complete imported one. -/
def Complete : Prop :=
  storage.Holds .old ∨ storage.Holds .imported

end OpfsStorage

/-- The step of `replaceOpfsSqliteAfterDestroy` that is next. The written swap file is whole if
the write has succeeded; it takes the place of the file when it is closed. -/
inductive ReplacePosition
  | cancelling
  | destroying
  | removing (file : OpfsFile) (attempt : Nat)
  | openingHandle
  | openingWritable
  | writing
  | closing (whole : Bool)
  | migrating
  | finished

/-- An import, with the record of whether it has removed a log that the main file needed, and
whether there was a log when it put the imported main file in place. -/
structure ReplaceSystem where
  storage : OpfsStorage
  position : ReplacePosition
  failed : Bool
  neededLogRemoved : Bool
  logLeftAtClose : Bool

def initialReplaceSystem (logged whole shm : Bool) : ReplaceSystem where
  storage :=
    { main := some (.database .old (!logged || whole))
      log := if logged then some .old else none
      shm := shm }
  position := .cancelling
  failed := false
  neededLogRemoved := false
  logLeftAtClose := false

inductive CallOutcome
  | ok
  | locked
  | error

def OPFS_REMOVE_RETRY_DEFAULT_MAX_ATTEMPTS : Nat := 8

def OpfsFile.next : OpfsFile → ReplacePosition
  | .log => .removing .shm 1
  | .shm => .removing .main 1
  | .main => .openingHandle

namespace ReplaceSystem

variable (system : ReplaceSystem)

def goTo (position : ReplacePosition) : ReplaceSystem :=
  { system with position := position }

def fail : ReplaceSystem :=
  { system with failed := true }

def remove (file : OpfsFile) (attempt : Nat) : CallOutcome → ReplaceSystem
  | .ok =>
    { system.goTo file.next with
      storage := system.storage.removeEntry file
      neededLogRemoved := system.neededLogRemoved ||
        decide (file = .log ∧ system.storage.log ≠ none ∧
          system.storage.main = some (.database .old false)) }
  | .locked =>
    if attempt = OPFS_REMOVE_RETRY_DEFAULT_MAX_ATTEMPTS then system.fail
    else system.goTo (.removing file (attempt + 1))
  | .error => system.fail

/-- The swap file takes the place of the main file, also after a write that has failed. -/
def close (whole : Bool) : CallOutcome → ReplaceSystem
  | .ok =>
    { system with
      storage :=
        { system.storage with
          main := some (if whole then .database .imported true else .partlyWritten) }
      position := if whole then .migrating else .closing false
      failed := !whole
      logLeftAtClose := system.storage.log.isSome }
  | .locked | .error => system.fail

def advance (outcome : CallOutcome) : ReplaceSystem :=
  match system.position, outcome with
  | .cancelling, .ok => system.goTo .destroying
  | .destroying, .ok => system.goTo (.removing .log 1)
  | .removing file attempt, outcome => system.remove file attempt outcome
  | .openingHandle, .ok =>
    { system.goTo .openingWritable with
      storage :=
        { system.storage with main := some (system.storage.main.getD .empty) } }
  | .openingWritable, .ok => system.goTo .writing
  | .writing, .ok => system.goTo (.closing true)
  | .writing, _ => system.goTo (.closing false)
  | .closing whole, outcome => system.close whole outcome
  | .migrating, .ok => system.goTo .finished
  | .finished, _ => system
  | _, _ => system.fail

end ReplaceSystem

/-- The destruction of the import's own connection is a step of the import; what SQLite does to
the files then is a checkpoint. -/
inductive ReplaceOp
  | advance (outcome : CallOutcome)
  /-- Another task, or the import's own migrations, opens the database. -/
  | access (writes : Bool)
  | checkpoint (lastConnection : Bool)

def replaceStep (system : ReplaceSystem) : ReplaceOp → ReplaceSystem
  | .advance outcome => if system.failed then system else system.advance outcome
  | .access writes => { system with storage := system.storage.access writes }
  | .checkpoint lastConnection =>
    { system with storage := system.storage.checkpoint lastConnection }

/-- Where the import has stopped, the files are complete: before the first removal, after that of
a log that was not needed, or once the imported file is in place without a log beside it. -/
def ReplaceSystem.StoppedSafely (system : ReplaceSystem) : Prop :=
  match system.position with
  | .cancelling | .destroying | .removing .log _ => True
  | .removing .shm _ | .removing .main _ => system.neededLogRemoved = false
  | .openingHandle | .openingWritable | .writing | .closing _ => False
  | .migrating | .finished => system.logLeftAtClose = false

namespace OpfsStorage

variable {storage : OpfsStorage} {name : DatabaseName}

/-- The old main file has lost a log that it needed. -/
def Stripped (storage : OpfsStorage) : Prop :=
  storage.main = some (.withoutLog .old) ∧ storage.log ≠ some .imported

/-- The old main file is gone, and the imported one is not there. -/
def Removed (storage : OpfsStorage) : Prop :=
  (match storage.main with
    | none | some .empty | some .partlyWritten | some (.database .fresh _) => True
    | some (.withoutLog _) | some (.database .old _) | some (.database .imported _) => False) ∧
    storage.log ≠ some .imported

/-- The imported main file stands beside the log of another database. -/
def Mismatched (storage : OpfsStorage) : Prop :=
  storage.main = some (.database .imported true) ∧
    ∃ name, name ≠ .imported ∧ storage.log = some name

theorem Holds.access (h : storage.Holds name) (writes : Bool) :
    (storage.access writes).Holds name := by
  obtain ⟨whole, hmain, hlog⟩ := h
  unfold OpfsStorage.access
  rw [hmain]
  dsimp only
  split
  · exact ⟨false, rfl, Or.inl rfl⟩
  · exact ⟨whole, rfl, hlog⟩

theorem Holds.checkpoint (h : storage.Holds name) (lastConnection : Bool) :
    (storage.checkpoint lastConnection).Holds name := by
  obtain ⟨whole, hmain, hlog⟩ := h
  unfold OpfsStorage.checkpoint
  rw [hmain]
  rcases hlog with hlog | ⟨hlog, hwhole⟩
  · rw [hlog]
    dsimp only
    rw [if_pos rfl]
    cases lastConnection with
    | true => exact ⟨true, rfl, Or.inr ⟨rfl, rfl⟩⟩
    | false => exact ⟨true, rfl, Or.inl rfl⟩
  · rw [hlog]
    exact ⟨whole, hmain, Or.inr ⟨hlog, hwhole⟩⟩

theorem Stripped.access (h : storage.Stripped) (writes : Bool) :
    (storage.access writes).Stripped := by
  obtain ⟨hmain, hlog⟩ := h
  unfold OpfsStorage.access
  rw [hmain]
  refine ⟨rfl, ?_⟩
  dsimp only
  split
  · simp
  · exact hlog

theorem Stripped.checkpoint (h : storage.Stripped) (lastConnection : Bool) :
    (storage.checkpoint lastConnection).Stripped := by
  obtain ⟨main, log, shm⟩ := storage
  obtain ⟨hmain, hlog⟩ := h
  dsimp only at hmain hlog
  cases hmain
  cases log with
  | none => exact ⟨rfl, hlog⟩
  | some name =>
    cases lastConnection with
    | true => exact ⟨rfl, by simp [OpfsStorage.checkpoint]⟩
    | false => exact ⟨rfl, hlog⟩

theorem Removed.access (h : storage.Removed) (writes : Bool) : (storage.access writes).Removed := by
  obtain ⟨main, log, shm⟩ := storage
  obtain ⟨hmain, hlog⟩ := h
  have hwritten : (if writes then some DatabaseName.fresh else log) ≠ some .imported := by
    split
    · simp
    · exact hlog
  match main with
  | none => exact ⟨trivial, hwritten⟩
  | some .empty => exact ⟨trivial, hwritten⟩
  | some .partlyWritten => exact ⟨trivial, hlog⟩
  | some (.database .fresh whole) =>
    simp only [OpfsStorage.access]
    split
    · exact ⟨trivial, by simp⟩
    · exact ⟨trivial, hlog⟩

theorem Removed.checkpoint (h : storage.Removed) (lastConnection : Bool) :
    (storage.checkpoint lastConnection).Removed := by
  obtain ⟨main, log, shm⟩ := storage
  obtain ⟨hmain, hlog⟩ := h
  match main, log with
  | none, _ => exact ⟨trivial, hlog⟩
  | some .empty, _ => exact ⟨trivial, hlog⟩
  | some .partlyWritten, _ => exact ⟨trivial, hlog⟩
  | some (.database .fresh whole), none => exact ⟨trivial, hlog⟩
  | some (.database .fresh whole), some name =>
    simp only [OpfsStorage.checkpoint]
    split
    · cases lastConnection with
      | true => exact ⟨trivial, by simp⟩
      | false => exact ⟨trivial, hlog⟩
    · exact ⟨trivial, hlog⟩

theorem Mismatched.access (h : storage.Mismatched) (writes : Bool) :
    (storage.access writes).Mismatched := by
  obtain ⟨hmain, name, hname, hlog⟩ := h
  have hother : ¬ (writes = true ∧ (storage.log = none ∨ storage.log = some .imported)) := by
    simp [hlog, hname]
  unfold OpfsStorage.access
  rw [hmain]
  dsimp only
  rw [if_neg hother]
  exact ⟨rfl, name, hname, hlog⟩

theorem Mismatched.checkpoint (h : storage.Mismatched) (lastConnection : Bool) :
    (storage.checkpoint lastConnection).Mismatched := by
  obtain ⟨hmain, name, hname, hlog⟩ := h
  unfold OpfsStorage.checkpoint
  rw [hmain, hlog]
  dsimp only
  rw [if_neg hname.symm]
  exact ⟨hmain, name, hname, hlog⟩

/-! ## What is complete -/

theorem Stripped.not_complete (h : storage.Stripped) : ¬ storage.Complete := by
  rintro (⟨whole, hmain, -⟩ | ⟨whole, hmain, -⟩)
  · cases h.1.symm.trans hmain
  · cases h.1.symm.trans hmain

theorem Removed.not_complete (h : storage.Removed) : ¬ storage.Complete := by
  obtain ⟨hmain, -⟩ := h
  rintro (⟨whole, hfound, -⟩ | ⟨whole, hfound, -⟩)
  · rw [hfound] at hmain
    exact hmain
  · rw [hfound] at hmain
    exact hmain

theorem Mismatched.not_complete (h : storage.Mismatched) : ¬ storage.Complete := by
  obtain ⟨hmain, name, hname, hlog⟩ := h
  rintro (⟨whole, hfound, -⟩ | ⟨whole, -, hwith⟩)
  · cases hmain.symm.trans hfound
  · rcases hwith with hsome | ⟨hnone, -⟩
    · cases hlog.symm.trans hsome
      exact hname rfl
    · cases hlog.symm.trans hnone

end OpfsStorage

def ReplaceInv (system : ReplaceSystem) : Prop :=
  match system.position with
  | .cancelling | .destroying | .removing .log _ =>
    system.storage.Holds .old ∧ system.neededLogRemoved = false
  | .removing .shm _ | .removing .main _ =>
    if system.neededLogRemoved then system.storage.Stripped else system.storage.Holds .old
  | .openingHandle | .openingWritable | .writing | .closing _ => system.storage.Removed
  | .migrating | .finished =>
    if system.logLeftAtClose then system.storage.Mismatched else system.storage.Holds .imported

variable {system : ReplaceSystem}

theorem replaceInv_initial (logged whole shm : Bool) :
    ReplaceInv (initialReplaceSystem logged whole shm) := by
  cases logged with
  | true => exact ⟨⟨whole, rfl, Or.inl rfl⟩, rfl⟩
  | false => exact ⟨⟨true, rfl, Or.inr ⟨rfl, rfl⟩⟩, rfl⟩

/-- The files are complete where the import has stopped safely, and nowhere else. -/
theorem ReplaceInv.complete_iff (h : ReplaceInv system) :
    system.storage.Complete ↔ system.StoppedSafely := by
  have hflag {flag : Bool} {broken intact : Prop} (hfiles : if flag then broken else intact)
      (hbroken : broken → ¬ system.storage.Complete) (hintact : intact → system.storage.Complete) :
      system.storage.Complete ↔ flag = false := by
    cases flag with
    | true => exact iff_of_false (hbroken hfiles) Bool.noConfusion
    | false => exact iff_of_true (hintact hfiles) rfl
  unfold ReplaceInv at h
  unfold ReplaceSystem.StoppedSafely
  cases hposition : system.position with
  | cancelling | destroying =>
    rw [hposition] at h
    exact iff_of_true (Or.inl h.1) trivial
  | removing file attempt =>
    rw [hposition] at h
    cases file with
    | log => exact iff_of_true (Or.inl h.1) trivial
    | shm | main => exact hflag h OpfsStorage.Stripped.not_complete Or.inl
  | openingHandle | openingWritable | writing | closing whole =>
    rw [hposition] at h
    exact iff_of_false (OpfsStorage.Removed.not_complete h) not_false
  | migrating | finished =>
    rw [hposition] at h
    exact hflag h OpfsStorage.Mismatched.not_complete Or.inr

/-- A change of the files that leaves them as complete, or as incomplete, as they were. -/
theorem ReplaceInv.setStorage (h : ReplaceInv system) {storage : OpfsStorage}
    (hholds : ∀ name, system.storage.Holds name → storage.Holds name)
    (hstripped : system.storage.Stripped → storage.Stripped)
    (hremoved : system.storage.Removed → storage.Removed)
    (hmismatched : system.storage.Mismatched → storage.Mismatched) :
    ReplaceInv { system with storage := storage } := by
  unfold ReplaceInv at h ⊢
  dsimp only
  cases hposition : system.position with
  | cancelling | destroying =>
    rw [hposition] at h
    exact ⟨hholds .old h.1, h.2⟩
  | removing file attempt =>
    rw [hposition] at h
    cases file with
    | log => exact ⟨hholds .old h.1, h.2⟩
    | shm | main =>
      dsimp only at h ⊢
      split
      · rename_i hneeded
        rw [if_pos hneeded] at h
        exact hstripped h
      · rename_i hspare
        rw [if_neg hspare] at h
        exact hholds .old h
  | openingHandle | openingWritable | writing | closing whole =>
    rw [hposition] at h
    exact hremoved h
  | migrating | finished =>
    rw [hposition] at h
    dsimp only at h ⊢
    split
    · rename_i hleft
      rw [if_pos hleft] at h
      exact hmismatched h
    · rename_i hclean
      rw [if_neg hclean] at h
      exact hholds .imported h

/-- The log of the old database is removed; it may have been needed. -/
theorem ReplaceInv.removeLog (h : system.storage.Holds .old)
    (hneeded : system.neededLogRemoved = false) (attempt : Nat) (outcome : CallOutcome)
    (hposition : system.position = .removing .log attempt) :
    ReplaceInv (system.remove .log attempt outcome) := by
  have hstays : ReplaceInv system := by
    unfold ReplaceInv
    rw [hposition]
    exact ⟨h, hneeded⟩
  cases outcome with
  | ok =>
    obtain ⟨whole, hmain, hlog⟩ := h
    unfold ReplaceInv
    simp only [ReplaceSystem.remove, ReplaceSystem.goTo, OpfsFile.next, hneeded]
    rcases hlog with hlog | ⟨hlog, hwhole⟩
    · cases whole with
      | true =>
        simp only [OpfsStorage.removeEntry, hlog, hmain]
        exact ⟨true, rfl, Or.inr ⟨rfl, rfl⟩⟩
      | false =>
        simp only [OpfsStorage.removeEntry, hlog, hmain]
        exact ⟨rfl, by simp⟩
    · simp only [OpfsStorage.removeEntry, hlog, hmain]
      exact ⟨whole, hmain, Or.inr ⟨hlog, hwhole⟩⟩
  | locked =>
    unfold ReplaceSystem.remove
    dsimp only
    split
    · exact hstays
    · exact ⟨h, hneeded⟩
  | error => exact hstays

/-- The shared memory file is removed; the other files are as before. -/
theorem ReplaceInv.removeShm (h : ReplaceInv system) {attempt : Nat} (outcome : CallOutcome)
    (hposition : system.position = .removing .shm attempt) :
    ReplaceInv (system.remove .shm attempt outcome) := by
  have hfiles :
      if system.neededLogRemoved then system.storage.Stripped else system.storage.Holds .old := by
    unfold ReplaceInv at h
    rw [hposition] at h
    exact h
  cases outcome with
  | ok =>
    unfold ReplaceInv
    simp only [ReplaceSystem.remove, ReplaceSystem.goTo, OpfsFile.next,
      OpfsStorage.removeEntry, reduceCtorEq, false_and, decide_false, Bool.or_false]
    exact hfiles
  | locked =>
    unfold ReplaceSystem.remove
    dsimp only
    split
    · exact h
    · exact hfiles
  | error => exact h

/-- The main file is removed. No log of the imported database is left beside it. -/
theorem ReplaceInv.removeMain (h : ReplaceInv system) {attempt : Nat} (outcome : CallOutcome)
    (hposition : system.position = .removing .main attempt) :
    ReplaceInv (system.remove .main attempt outcome) := by
  have hfiles :
      if system.neededLogRemoved then system.storage.Stripped else system.storage.Holds .old := by
    unfold ReplaceInv at h
    rw [hposition] at h
    exact h
  cases outcome with
  | ok =>
    have hlog : system.storage.log ≠ some .imported := by
      split at hfiles
      · exact hfiles.2
      · obtain ⟨whole, hmain, hlog | ⟨hlog, hwhole⟩⟩ := hfiles
        · simp [hlog]
        · simp [hlog]
    exact ⟨trivial, hlog⟩
  | locked =>
    unfold ReplaceSystem.remove
    dsimp only
    split
    · exact h
    · exact hfiles
  | error => exact h

theorem ReplaceInv.openHandle (h : system.storage.Removed) :
    OpfsStorage.Removed
      { system.storage with main := some (system.storage.main.getD .empty) } := by
  obtain ⟨hmain, hlog⟩ := h
  apply And.intro _ hlog
  cases hfound : system.storage.main with
  | none => trivial
  | some main =>
    rw [hfound] at hmain
    exact hmain

/-- The imported file is complete unless it was put beside the log of another database. -/
theorem ReplaceInv.close (h : system.storage.Removed) {whole : Bool} (outcome : CallOutcome)
    (hposition : system.position = .closing whole) :
    ReplaceInv (system.close whole outcome) := by
  have hstays : ReplaceInv system := by
    unfold ReplaceInv
    rw [hposition]
    exact h
  cases outcome with
  | ok =>
    cases whole with
    | false => exact ⟨trivial, h.2⟩
    | true =>
      unfold ReplaceInv
      simp only [ReplaceSystem.close]
      cases hlog : system.storage.log with
      | none => exact ⟨true, rfl, Or.inr ⟨rfl, rfl⟩⟩
      | some name =>
        have hname : name ≠ .imported := by
          intro hsame
          rw [hsame] at hlog
          exact h.2 hlog
        exact ⟨rfl, name, hname, rfl⟩
  | locked | error => exact hstays

/-- A step of the import keeps the invariant. -/
theorem ReplaceInv.advance (h : ReplaceInv system) (outcome : CallOutcome) :
    ReplaceInv (system.advance outcome) := by
  have hwhere := h
  unfold ReplaceInv at hwhere
  unfold ReplaceSystem.advance
  cases hposition : system.position with
  | cancelling | destroying | openingWritable | migrating =>
    rw [hposition] at hwhere
    cases outcome with
    | ok => exact hwhere
    | locked | error => exact h
  | removing file attempt =>
    rw [hposition] at hwhere
    cases file with
    | log => exact ReplaceInv.removeLog hwhere.1 hwhere.2 attempt outcome hposition
    | shm => exact h.removeShm outcome hposition
    | main => exact h.removeMain outcome hposition
  | openingHandle =>
    rw [hposition] at hwhere
    cases outcome with
    | ok => exact ReplaceInv.openHandle hwhere
    | locked | error => exact h
  | writing =>
    rw [hposition] at hwhere
    cases outcome with
    | ok | locked | error => exact hwhere
  | closing whole =>
    rw [hposition] at hwhere
    exact ReplaceInv.close hwhere outcome hposition
  | finished => exact h

theorem replaceInv_step (h : ReplaceInv system) (op : ReplaceOp) :
    ReplaceInv (replaceStep system op) := by
  cases op with
  | advance outcome =>
    unfold replaceStep
    dsimp only
    split
    · exact h
    · exact h.advance outcome
  | access writes =>
    apply h.setStorage
    · intro name hholds
      exact hholds.access writes
    · intro hstripped
      exact hstripped.access writes
    · intro hremoved
      exact hremoved.access writes
    · intro hmismatched
      exact hmismatched.access writes
  | checkpoint lastConnection =>
    apply h.setStorage
    · intro name hholds
      exact hholds.checkpoint lastConnection
    · intro hstripped
      exact hstripped.checkpoint lastConnection
    · intro hremoved
      exact hremoved.checkpoint lastConnection
    · intro hmismatched
      exact hmismatched.checkpoint lastConnection

/-- After an import that other tasks interrupt as they like, and that may fail or stop anywhere,
the files are a complete database exactly if it has stopped safely. -/
theorem replacement_is_complete_iff (logged whole shm : Bool) (ops : List ReplaceOp) :
    (run replaceStep (initialReplaceSystem logged whole shm) ops).storage.Complete ↔
      (run replaceStep (initialReplaceSystem logged whole shm) ops).StoppedSafely := by
  have hinv : ReplaceInv (run replaceStep (initialReplaceSystem logged whole shm) ops) :=
    run_invariant ReplaceInv (fun _ op h => replaceInv_step h op)
      (replaceInv_initial logged whole shm) ops
  exact hinv.complete_iff

def storageAfterRemoval : OpfsStorage :=
  (run replaceStep (initialReplaceSystem true false true)
    (List.replicate 5 (.advance .ok))).storage

/-- There is no wallet database any more, neither the old one nor the imported one. -/
theorem no_database_after_removal :
    storageAfterRemoval.main = none ∧ ¬ storageAfterRemoval.Complete := by
  have hgone : storageAfterRemoval.main = none := by decide +kernel
  apply And.intro hgone
  rintro (⟨whole, hmain, -⟩ | ⟨whole, hmain, -⟩)
  · cases hgone.symm.trans hmain
  · cases hgone.symm.trans hmain

end Bitboard.Frontend
