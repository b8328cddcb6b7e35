/-
# What the watch over the chain tip does in every run

Whatever the calls answer and whenever the signal is aborted, a progress starts only before
the abort and under an open gate. Once a progress has succeeded, the next one starts in the
first poll that reads another tip than the last one acted upon or remembered, and not before.

The three are said of the log. Each entry is allowed by the entries before it, so that the
invariant of the machine only has to say which entry may come next. A poll that is due to start
progress and ends the log so far has not been decided yet: the loop is still at it.
-/

import Bitboard.Frontend.TipWatch
import Bitboard.Lib.History
import Mathlib.Data.List.Induction

namespace Bitboard.Frontend

open Bitboard.Lib

def Progressed (log : List WatchRecord) : Prop :=
  ∃ observedTip, WatchRecord.succeeded observedTip ∈ log

def WatchRecord.tipOf : WatchRecord → Option BarkEmergencyExitTip
  | .succeeded observedTip => observedTip
  | .remembered nextTip => some nextTip
  | _ => none

/-- The last tip that a progress succeeded for or that was remembered. -/
def lastTip (log : List WatchRecord) : Option BarkEmergencyExitTip :=
  log.foldl (fun last record => record.tipOf.or last) none

theorem lastTip_append_singleton (log : List WatchRecord) (record : WatchRecord) :
    lastTip (log ++ [record]) = record.tipOf.or (lastTip log) := by
  rw [lastTip, List.foldl_append]
  rfl

variable {tip : BarkEmergencyExitTip}
variable {before : List WatchRecord}

/-- The last tip changes only by an entry that names the new one. -/
theorem exists_tipOf_of_lastTip_ne {middle : List WatchRecord} (hbefore : lastTip before = some tip)
    (hne : lastTip (before ++ middle) ≠ some tip) :
    ∃ other, other ≠ tip ∧ ∃ record ∈ middle, record.tipOf = some other := by
  induction middle using List.reverseRec with
  | nil =>
    rw [List.append_nil] at hne
    exact absurd hbefore hne
  | append_singleton middle record ih =>
    rw [← List.append_assoc, lastTip_append_singleton] at hne
    cases htip : record.tipOf with
    | none =>
      rw [htip, Option.none_or] at hne
      obtain ⟨other, hother, found, hmem, hfound⟩ := ih hne
      exact ⟨other, hother, found, List.mem_append_left _ hmem, hfound⟩
    | some other =>
      rw [htip, Option.some_or] at hne
      have hother : other ≠ tip := by
        intro heq
        rw [heq] at hne
        exact hne rfl
      exact ⟨other, hother, record, List.mem_append_right _ List.mem_cons_self, htip⟩

/-- The log ends with a poll that has to start progress: it lists an exit and reads another
tip than the last one, after some progress has succeeded. -/
def ProgressDue (log : List WatchRecord) (tip : BarkEmergencyExitTip) : Prop :=
  ∃ before count last, log = before ++ [.polled (some tip) count] ∧ Progressed before ∧
    1 ≤ count ∧ lastTip before = some last ∧ last ≠ tip

structure WatchAllowed (log : List WatchRecord) (record : WatchRecord) : Prop where
  running : ∀ tip, record = .started tip → .aborted ∉ log ∧ .gateClosed ∉ log
  once : ∀ tip, record = .started (some tip) → Progressed log → lastTip log ≠ some tip
  moves : ∀ tip, ProgressDue log tip → record = .started (some tip) ∨ record = .aborted

/-- What the log of a watch keeps to. -/
structure LogKept (log : List WatchRecord) : Prop where
  /-- No progress starts after the abort or after a reading of a closed gate. -/
  stops : ∀ before after tip, log = before ++ .started tip :: after →
    .aborted ∉ before ∧ .gateClosed ∉ before
  /-- Between a progress that succeeded for a tip and one that starts for the same tip,
  another tip was acted upon or remembered. -/
  once : ∀ before middle after tip,
    log = before ++ .succeeded (some tip) :: middle ++ .started (some tip) :: after →
    ∃ other, other ≠ tip ∧
      (.succeeded (some other) ∈ middle ∨ .remembered other ∈ middle)
  /-- After the first progress that succeeded, a poll that lists an exit and reads another tip
  than the last one acted upon or remembered starts progress, unless the signal is aborted
  first. -/
  moves : ∀ before after tip count next last,
    log = before ++ .polled (some tip) count :: next :: after → Progressed before →
    1 ≤ count → lastTip before = some last → last ≠ tip →
    next = .started (some tip) ∨ next = .aborted

/-- A watch keeps its log to the rules, and it neither returns nor waits at a poll that is due to
start progress: while such a poll ends the log, the loop still refreshes the lists in it, which it
does before it decides, and the signal is not aborted. -/
structure WatchKept (state : WatchState) : Prop where
  log : LogKept state.log
  undecided : ∀ tip, ProgressDue state.log tip →
    (∃ session count, state.phase = .onListed session (some tip) count) ∧ state.aborted = false

variable {record : WatchRecord}

theorem WatchRecord.eq_of_tipOf (h : record.tipOf = some tip) :
    record = .succeeded (some tip) ∨ record = .remembered tip := by
  cases record with
  | succeeded observedTip =>
    left
    rw [WatchRecord.tipOf] at h
    rw [h]
  | remembered nextTip =>
    right
    rw [Option.some.inj h]
  | aborted | gateClosed | polled | started | failed => cases h

variable {log : List WatchRecord}

/-- Where each entry is allowed, the log keeps to its rules. -/
theorem logKept_of_eachAllowed (h : EachAllowed WatchAllowed log) : LogKept log where
  stops := by
    intro before after tip hlog
    exact (h before _ after hlog).running tip rfl
  once := by
    intro before middle after tip hlog
    have hallowed := h (before ++ .succeeded (some tip) :: middle) _ after hlog
    have hprogressed : Progressed (before ++ .succeeded (some tip) :: middle) :=
      ⟨some tip, List.mem_append_right _ List.mem_cons_self⟩
    have hne := hallowed.once tip rfl hprogressed
    have hfirst : lastTip (before ++ [.succeeded (some tip)]) = some tip := by
      rw [lastTip_append_singleton]
      rfl
    rw [List.append_cons] at hne
    obtain ⟨other, hother, record, hmem, htip⟩ := exists_tipOf_of_lastTip_ne hfirst hne
    apply Exists.intro other
    apply And.intro hother
    cases WatchRecord.eq_of_tipOf htip with
    | inl hsucceeded =>
      left
      rwa [hsucceeded] at hmem
    | inr hremembered =>
      right
      rwa [hremembered] at hmem
  moves := by
    intro before after tip count next last hlog hprogressed hcount hlast hne
    rw [List.append_cons] at hlog
    exact (h _ next after hlog).moves tip
      ⟨before, count, last, rfl, hprogressed, hcount, hlast, hne⟩

variable {previousTip : Option BarkEmergencyExitTip}

theorem barkEmergencyExitTipChanged_iff {nextTip : BarkEmergencyExitTip} :
    barkEmergencyExitTipChanged previousTip nextTip = true ↔ previousTip ≠ some nextTip := by
  cases previousTip with
  | none => simp [barkEmergencyExitTipChanged]
  | some previousTip =>
    cases previousTip
    cases nextTip
    rw [barkEmergencyExitTipChanged, Bool.or_eq_true, bne_iff_ne, bne_iff_ne, ← not_and_or]
    apply not_congr
    rw [Option.some.injEq, BarkEmergencyExitTip.mk.injEq]

variable {session : BarkEmergencyExitAutomationSessionGate}
variable {exitCount : Nat}

/-- Under an open gate a poll progresses exactly if it lists an exit, and the watch has just
begun or the tip has changed. -/
theorem shouldProgress_iff (hopen : sessionStillAllowsAutomation session = true)
    {nextTip : Option BarkEmergencyExitTip} {justBecameActive : Bool} :
    shouldProgressBarkEmergencyExitOnTip session exitCount previousTip nextTip
        justBecameActive = true ↔
      1 ≤ exitCount ∧
        (justBecameActive = true ∨ ∃ tip, nextTip = some tip ∧ previousTip ≠ some tip) := by
  simp only [sessionStillAllowsAutomation, Bool.and_eq_true] at hopen
  obtain ⟨⟨⟨⟨hproceed, hunlocked⟩, hwallet⟩, hnetwork⟩, hloaded⟩ := hopen
  unfold shouldProgressBarkEmergencyExitOnTip
  rw [hproceed, hunlocked, hwallet, hnetwork, hloaded]
  simp only [Bool.not_true, Bool.false_eq_true, if_false]
  by_cases hcount : exitCount < 1
  · rw [if_pos hcount]
    constructor
    · intro h
      cases h
    · intro h
      omega
  · rw [if_neg hcount]
    have hlisted : 1 ≤ exitCount := by omega
    cases justBecameActive with
    | true => simp [hlisted]
    | false =>
      cases nextTip with
      | none => simp
      | some tip => simp [hlisted, barkEmergencyExitTipChanged_iff]

def NothingDue (log : List WatchRecord) : Prop := ∀ tip, ¬ ProgressDue log tip

theorem nothingDue_nil : NothingDue [] := by
  intro tip hdue
  obtain ⟨before, count, last, hlog, _⟩ := hdue
  have hlength := congrArg List.length hlog
  simp at hlength

theorem nothingDue_append
    (h : ∀ nextTip count, record ≠ .polled nextTip count) : NothingDue (log ++ [record]) := by
  intro tip hdue
  obtain ⟨before, count, last, hlog, _⟩ := hdue
  have hparts := List.append_inj' hlog rfl
  exact h (some tip) count (List.cons.inj hparts.2).1

theorem watchAllowed_of_nothingDue
    (hdue : NothingDue log) (hrecord : ∀ tip, record ≠ .started tip) :
    WatchAllowed log record where
  running := by
    intro tip heq
    exact absurd heq (hrecord tip)
  once := by
    intro tip heq
    exact absurd heq (hrecord (some tip))
  moves := by
    intro tip h
    exact absurd h (hdue tip)

/-- What a phase of the loop says about the log and the variables. -/
def WatchPhase.Sound (state : WatchState) : WatchPhase → Prop
  | .returned => NothingDue state.log
  | .readGate | .afterProgress | .wait => NothingDue state.log ∧ .gateClosed ∉ state.log
  | .fetchTip session | .listExitCount session _ =>
    NothingDue state.log ∧ .gateClosed ∉ state.log ∧
      sessionStillAllowsAutomation session = true
  | .onListed session nextTip exitCount =>
    (state.aborted = true → NothingDue state.log) ∧
      (state.aborted = false →
        ∃ before, state.log = before ++ [.polled nextTip exitCount]) ∧
      .gateClosed ∉ state.log ∧ sessionStillAllowsAutomation session = true
  | .progress observedTip =>
    NothingDue state.log ∧ .gateClosed ∉ state.log ∧
      (observedTip = none → state.justBecameActive = true) ∧
      (observedTip ≠ none → state.rememberNextTipWithoutProgress = false)

/-- What the variables of the loop say about the log. -/
structure WatchCore (state : WatchState) : Prop where
  allowed : EachAllowed WatchAllowed state.log
  aborted : .aborted ∈ state.log → state.aborted = true
  last : state.previousTip = lastTip state.log
  active : state.justBecameActive = true → ¬ Progressed state.log
  fresh : state.justBecameActive = true →
    state.previousTip = none ∧ state.rememberNextTipWithoutProgress = false
  /-- A tip is to be remembered only if none is known. -/
  remembers : state.rememberNextTipWithoutProgress = true → state.previousTip = none

structure WatchInv (state : WatchState) : Prop extends WatchCore state where
  phase : state.phase.Sound state

variable {state : WatchState}

/-- An entry about no tip keeps what the variables say. -/
theorem WatchCore.write (h : WatchCore state)
    (hallowed : WatchAllowed state.log record) (htip : record.tipOf = none)
    (hsucceeded : ∀ tip, record ≠ .succeeded tip)
    (haborted : record = .aborted → state.aborted = true) : WatchCore (state.write record) where
  allowed := eachAllowed_append_singleton.mpr ⟨h.allowed, hallowed⟩
  aborted := by
    intro hmem
    cases List.mem_append.mp hmem with
    | inl hold => exact h.aborted hold
    | inr hnew => exact haborted (List.mem_singleton.mp hnew).symm
  last := by
    show state.previousTip = lastTip (state.log ++ [record])
    rw [lastTip_append_singleton, htip, Option.none_or]
    exact h.last
  active := by
    intro hactive hprogressed
    obtain ⟨tip, hmem⟩ := hprogressed
    cases List.mem_append.mp hmem with
    | inl hold => exact h.active hactive ⟨tip, hold⟩
    | inr hnew => exact hsucceeded tip (List.mem_singleton.mp hnew).symm
  fresh := h.fresh
  remembers := h.remembers

theorem WatchCore.withPhase (h : WatchCore state) (phase : WatchPhase) :
    WatchCore { state with phase := phase } where
  allowed := h.allowed
  aborted := h.aborted
  last := h.last
  active := h.active
  fresh := h.fresh
  remembers := h.remembers

theorem WatchInv.unlessAborted (h : WatchCore state) {phase : WatchPhase}
    (hdue : NothingDue state.log) (hphase : phase.Sound (state.unlessAborted phase)) :
    WatchInv (state.unlessAborted phase) where
  toWatchCore := h.withPhase _
  phase := by
    by_cases haborted : state.aborted = true
    · have hreturned : (state.unlessAborted phase).phase = .returned := if_pos haborted
      rw [hreturned]
      exact hdue
    · have hnext : (state.unlessAborted phase).phase = phase := if_neg haborted
      rw [hnext]
      exact hphase

variable {nextTip : Option BarkEmergencyExitTip}

theorem progressDue_polled (h : ProgressDue (before ++ [.polled nextTip exitCount]) tip) :
    nextTip = some tip ∧ 1 ≤ exitCount ∧
      Progressed (before ++ [.polled nextTip exitCount]) ∧
      ∃ last, lastTip (before ++ [.polled nextTip exitCount]) = some last ∧ last ≠ tip := by
  obtain ⟨prior, count, last, hlog, hprogressed, hcount, hlast, hne⟩ := h
  have hparts := List.append_inj' hlog rfl
  have hpolled := WatchRecord.polled.inj (List.cons.inj hparts.2).1
  obtain ⟨observed, hmem⟩ := hprogressed
  rw [← hparts.1] at hmem hlast
  rw [hpolled.2]
  apply And.intro hpolled.1
  apply And.intro hcount
  apply And.intro ⟨observed, List.mem_append_left _ hmem⟩
  apply Exists.intro last
  apply And.intro _ hne
  rw [lastTip_append_singleton]
  exact hlast

theorem decidePoll_of_remember (h : state.rememberNextTipWithoutProgress = true)
    (session : BarkEmergencyExitAutomationSessionGate) (tip : BarkEmergencyExitTip)
    (exitCount : Nat) :
    state.decidePoll session (some tip) exitCount =
      { state.write (.remembered tip) with
        previousTip := some tip
        rememberNextTipWithoutProgress := false
        phase := .wait } := by
  unfold WatchState.decidePoll
  rw [h]

theorem decidePoll_of_not_remember
    (h : ¬ (state.rememberNextTipWithoutProgress = true ∧ ∃ tip, nextTip = some tip))
    (session : BarkEmergencyExitAutomationSessionGate) (exitCount : Nat) :
    state.decidePoll session nextTip exitCount =
      if shouldProgressBarkEmergencyExitOnTip session exitCount state.previousTip nextTip
          state.justBecameActive then
        { state.write (.started nextTip) with phase := .progress nextTip }
      else { state with phase := .wait } := by
  unfold WatchState.decidePoll
  cases hremember : state.rememberNextTipWithoutProgress with
  | false => rfl
  | true =>
    cases nextTip with
    | none => rfl
    | some tip => exact absurd ⟨hremember, tip, rfl⟩ h

/-- The decision of a poll starts what is due. -/
theorem WatchInv.decidePoll (h : WatchCore state) (haborted : state.aborted = false)
    (hgate : .gateClosed ∉ state.log) (hopen : sessionStillAllowsAutomation session = true)
    (hlog : state.log = before ++ [.polled nextTip exitCount]) :
    WatchInv (state.decidePoll session nextTip exitCount) := by
  have hrunning : .aborted ∉ state.log := by
    intro hmem
    rw [h.aborted hmem] at haborted
    cases haborted
  have hinactive : Progressed state.log → state.justBecameActive = false := by
    intro hprogressed
    cases hactive : state.justBecameActive with
    | false => rfl
    | true => exact absurd hprogressed (h.active hactive)
  have hdue : ∀ tip, ProgressDue state.log tip → nextTip = some tip ∧ 1 ≤ exitCount ∧
      state.justBecameActive = false ∧ state.previousTip ≠ none ∧
      state.previousTip ≠ some tip := by
    intro tip hdue
    rw [hlog] at hdue
    obtain ⟨hnext, hcount, hprogressed, last, hlast, hne⟩ := progressDue_polled hdue
    rw [← hlog] at hprogressed hlast
    rw [h.last, hlast]
    exact ⟨hnext, hcount, hinactive hprogressed, Option.some_ne_none last,
      fun heq => hne (Option.some.inj heq)⟩
  by_cases hremembers : state.rememberNextTipWithoutProgress = true ∧ ∃ tip, nextTip = some tip
  · obtain ⟨hremember, tip, htip⟩ := hremembers
    rw [htip, decidePoll_of_remember hremember]
    have hnothing : NothingDue state.log := by
      intro other hother
      exact (hdue other hother).2.2.2.1 (h.remembers hremember)
    have hallowed : WatchAllowed state.log (.remembered tip) :=
      watchAllowed_of_nothingDue hnothing fun _ heq => by cases heq
    exact {
      allowed := eachAllowed_append_singleton.mpr ⟨h.allowed, hallowed⟩
      aborted := by
        intro hmem
        cases List.mem_append.mp hmem with
        | inl hold => exact h.aborted hold
        | inr hnew => cases List.mem_singleton.mp hnew
      last := by
        show some tip = lastTip (state.log ++ [.remembered tip])
        rw [lastTip_append_singleton]
        rfl
      active := by
        intro hactive
        have hfresh := (h.fresh hactive).2
        rw [hremember] at hfresh
        cases hfresh
      fresh := by
        intro hactive
        have hfresh := (h.fresh hactive).2
        rw [hremember] at hfresh
        cases hfresh
      remembers := by
        intro hcleared
        cases hcleared
      phase := by
        constructor
        · exact nothingDue_append fun _ _ heq => by cases heq
        · intro hmem
          cases List.mem_append.mp hmem with
          | inl hold => exact hgate hold
          | inr hnew => cases List.mem_singleton.mp hnew }
  · rw [decidePoll_of_not_remember hremembers]
    split
    · rename_i hshould
      obtain ⟨hcount, hreason⟩ := (shouldProgress_iff hopen).mp hshould
      have hallowed : WatchAllowed state.log (.started nextTip) := {
        running := by
          intro _ _
          exact ⟨hrunning, hgate⟩
        once := by
          intro tip heq hprogressed
          cases heq
          rw [← h.last]
          cases hreason with
          | inl hactive =>
            rw [hinactive hprogressed] at hactive
            cases hactive
          | inr hchanged =>
            obtain ⟨other, hother, hne⟩ := hchanged
            rwa [Option.some.inj hother]
        moves := by
          intro tip htip
          rw [(hdue tip htip).1]
          exact .inl rfl }
      have hcore := h.write hallowed rfl (fun _ heq => by cases heq) (fun heq => by cases heq)
      exact {
        toWatchCore := hcore.withPhase _
        phase := by
          apply And.intro (nothingDue_append fun _ _ heq => by cases heq)
          constructor
          · intro hmem
            cases List.mem_append.mp hmem with
            | inl hold => exact hgate hold
            | inr hnew => cases List.mem_singleton.mp hnew
          · constructor
            · intro hnone
              cases hreason with
              | inl hactive => exact hactive
              | inr hchanged =>
                obtain ⟨tip, htip, _⟩ := hchanged
                rw [hnone] at htip
                cases htip
            · intro hsome
              by_contra hremember
              exact hremembers
                ⟨Bool.not_eq_false _ ▸ hremember, Option.ne_none_iff_exists'.mp hsome⟩ }
    · rename_i hshould
      exact {
        toWatchCore := h.withPhase _
        phase := by
          constructor
          · intro tip htip
            obtain ⟨hnext, hcount, _, _, hne⟩ := hdue tip htip
            exact hshould ((shouldProgress_iff hopen).mpr ⟨hcount, .inr ⟨tip, hnext, hne⟩⟩)
          · exact hgate }

/-! ## Steps and runs -/

theorem gateClosed_notMem_append (hlog : .gateClosed ∉ log) (hrecord : record ≠ .gateClosed) :
    .gateClosed ∉ log ++ [record] := by
  intro hmem
  cases List.mem_append.mp hmem with
  | inl hold => exact hlog hold
  | inr hnew => exact hrecord (List.mem_singleton.mp hnew).symm

/-- A progress that succeeded makes its tip the last one, or none yet. -/
theorem WatchCore.afterSuccess (h : WatchCore state)
    (hdue : NothingDue state.log) {observedTip : Option BarkEmergencyExitTip}
    (hnone : observedTip = none → state.justBecameActive = true)
    (hsome : observedTip ≠ none → state.rememberNextTipWithoutProgress = false) :
    WatchCore (state.afterSuccess observedTip) := by
  have hallowed : WatchAllowed state.log (.succeeded observedTip) :=
    watchAllowed_of_nothingDue hdue fun _ heq => by cases heq
  have hlogged := eachAllowed_append_singleton.mpr ⟨h.allowed, hallowed⟩
  have hmem : .aborted ∈ state.log ++ [.succeeded observedTip] → state.aborted = true := by
    intro hmem
    cases List.mem_append.mp hmem with
    | inl hold => exact h.aborted hold
    | inr hnew => cases List.mem_singleton.mp hnew
  cases observedTip with
  | some tip =>
    exact {
      allowed := hlogged
      aborted := hmem
      last := by
        show some tip = lastTip (state.log ++ [.succeeded (some tip)])
        rw [lastTip_append_singleton]
        rfl
      active := by
        intro hactive
        cases hactive
      fresh := by
        intro hactive
        cases hactive
      remembers := by
        intro hremember
        have hcleared := hsome (Option.some_ne_none tip)
        rw [show (state.afterSuccess (some tip)).rememberNextTipWithoutProgress =
          state.rememberNextTipWithoutProgress from rfl, hcleared] at hremember
        cases hremember }
  | none =>
    have hfresh := h.fresh (hnone rfl)
    exact {
      allowed := hlogged
      aborted := hmem
      last := by
        show state.previousTip = lastTip (state.log ++ [.succeeded none])
        rw [lastTip_append_singleton]
        exact h.last
      active := by
        intro hactive
        cases hactive
      fresh := by
        intro hactive
        cases hactive
      remembers := by
        intro _
        exact hfresh.1 }

theorem log_afterSuccess (state : WatchState) (observedTip : Option BarkEmergencyExitTip) :
    (state.afterSuccess observedTip).log = state.log ++ [.succeeded observedTip] := by
  cases observedTip with
  | none | some => rfl

theorem WatchCore.writeQuiet (h : WatchCore state)
    (hdue : NothingDue state.log) (record : WatchRecord) (htip : record.tipOf = none)
    (hstarted : ∀ tip, record ≠ .started tip) (hsucceeded : ∀ tip, record ≠ .succeeded tip)
    (haborted : record = .aborted → state.aborted = true) : WatchCore (state.write record) :=
  h.write (watchAllowed_of_nothingDue hdue hstarted) htip hsucceeded haborted

/-- The abort of the signal. What is due when it comes is no longer started. -/
theorem WatchInv.abort (h : WatchInv state) :
    WatchInv (if state.aborted then state else
      { state.write .aborted with aborted := true }) := by
  by_cases haborted : state.aborted = true
  · rw [if_pos haborted]
    exact h
  · rw [if_neg haborted]
    have hnotDue : NothingDue (state.log ++ [.aborted]) :=
      nothingDue_append fun _ _ heq => by cases heq
    have hallowed : WatchAllowed state.log .aborted := {
      running := by
        intro _ heq
        cases heq
      once := by
        intro _ heq
        cases heq
      moves := by
        intro _ _
        exact .inr rfl }
    have hgate : .gateClosed ∉ state.log → .gateClosed ∉ state.log ++ [.aborted] :=
      fun hlog => gateClosed_notMem_append hlog fun heq => by cases heq
    have hphase := h.phase
    exact {
      allowed := eachAllowed_append_singleton.mpr ⟨h.allowed, hallowed⟩
      aborted := by
        intro _
        rfl
      last := by
        show state.previousTip = lastTip (state.log ++ [.aborted])
        rw [lastTip_append_singleton]
        exact h.last
      active := by
        intro hactive hprogressed
        obtain ⟨tip, hmem⟩ := hprogressed
        cases List.mem_append.mp hmem with
        | inl hold => exact h.active hactive ⟨tip, hold⟩
        | inr hnew => cases List.mem_singleton.mp hnew
      fresh := h.fresh
      remembers := h.remembers
      phase := by
        show state.phase.Sound _
        cases heq : state.phase with
        | returned => exact hnotDue
        | readGate | afterProgress | wait =>
          rw [heq] at hphase
          exact ⟨hnotDue, hgate hphase.2⟩
        | fetchTip | listExitCount =>
          rw [heq] at hphase
          exact ⟨hnotDue, hgate hphase.2.1, hphase.2.2⟩
        | onListed session nextTip exitCount =>
          rw [heq] at hphase
          exact ⟨fun _ => hnotDue, (fun hrunning => by cases hrunning), hgate hphase.2.2.1,
            hphase.2.2.2⟩
        | progress observedTip =>
          rw [heq] at hphase
          exact ⟨hnotDue, hgate hphase.2.1, hphase.2.2⟩ }

/-- One event keeps the invariant. -/
theorem WatchInv.step (h : WatchInv state) (deps : WatchDeps)
    (event : WatchEvent) : WatchInv (watchStep deps state event) := by
  have hphase := h.phase
  unfold watchStep
  split
  · exact h.abort
  · rename_i heq
    rw [heq] at hphase
    exact WatchInv.unlessAborted h.toWatchCore hphase.1 hphase
  · rename_i session heq
    rw [heq] at hphase
    split
    · rename_i hopen
      exact WatchInv.unlessAborted h.toWatchCore hphase.1 ⟨hphase.1, hphase.2, hopen⟩
    · have hcore := h.toWatchCore.writeQuiet hphase.1 .gateClosed rfl
        (fun _ heq => by cases heq) (fun _ heq => by cases heq) (fun heq => by cases heq)
      exact {
        toWatchCore := hcore.withPhase _
        phase := nothingDue_append fun _ _ heq => by cases heq }
  · rename_i session nextTip heq
    rw [heq] at hphase
    exact WatchInv.unlessAborted h.toWatchCore hphase.1 hphase
  · rename_i session nextTip heq
    rw [heq] at hphase
    exact WatchInv.unlessAborted h.toWatchCore hphase.1 ⟨hphase.1, hphase.2.1⟩
  · rename_i session nextTip count heq
    rw [heq] at hphase
    split
    · exact { toWatchCore := h.toWatchCore.withPhase _, phase := hphase.1 }
    · rename_i hrunning
      have hcore := h.toWatchCore.writeQuiet hphase.1 (.polled nextTip count) rfl
        (fun _ heq => by cases heq) (fun _ heq => by cases heq) (fun heq => by cases heq)
      have hgate : .gateClosed ∉ state.log ++ [.polled nextTip count] :=
        gateClosed_notMem_append hphase.2.1 fun heq => by cases heq
      simp only
      split
      · exact {
          toWatchCore := hcore.withPhase _
          phase := ⟨fun haborted => absurd haborted hrunning, fun _ => ⟨state.log, rfl⟩, hgate,
            hphase.2.2⟩ }
      · exact WatchInv.decidePoll hcore (Bool.not_eq_true _ ▸ hrunning) hgate hphase.2.2 rfl
  · rename_i session nextTip count heq
    rw [heq] at hphase
    obtain ⟨haborted, hpolled, hgate, hopen⟩ := hphase
    split
    · rename_i hdone
      exact { toWatchCore := h.toWatchCore.withPhase _, phase := haborted hdone }
    · rename_i hrunning
      have hfalse : state.aborted = false := Bool.not_eq_true _ ▸ hrunning
      obtain ⟨before, hlog⟩ := hpolled hfalse
      exact WatchInv.decidePoll h.toWatchCore hfalse hgate hopen hlog
  · rename_i observedTip heq
    rw [heq] at hphase
    obtain ⟨hdue, hgate, hnone, hsome⟩ := hphase
    have hcore := h.toWatchCore.afterSuccess hdue hnone hsome
    have hlog := log_afterSuccess state observedTip
    have hnotDue : NothingDue (state.afterSuccess observedTip).log := by
      rw [hlog]
      exact nothingDue_append fun _ _ heq => by cases heq
    have hopen : .gateClosed ∉ (state.afterSuccess observedTip).log := by
      rw [hlog]
      exact gateClosed_notMem_append hgate fun heq => by cases heq
    simp only
    split
    · exact { toWatchCore := hcore.withPhase _, phase := ⟨hnotDue, hopen⟩ }
    · exact WatchInv.unlessAborted hcore hnotDue ⟨hnotDue, hopen⟩
  · rename_i observedTip heq
    rw [heq] at hphase
    have hcore := h.toWatchCore.writeQuiet hphase.1 (.failed observedTip) rfl
      (fun _ heq => by cases heq) (fun _ heq => by cases heq) (fun heq => by cases heq)
    have hnotDue : NothingDue (state.log ++ [.failed observedTip]) :=
      nothingDue_append fun _ _ heq => by cases heq
    exact WatchInv.unlessAborted hcore hnotDue
      ⟨hnotDue, gateClosed_notMem_append hphase.2.1 fun heq => by cases heq⟩
  · rename_i heq
    rw [heq] at hphase
    exact WatchInv.unlessAborted h.toWatchCore hphase.1 hphase
  · rename_i heq
    rw [heq] at hphase
    exact WatchInv.unlessAborted h.toWatchCore hphase.1 hphase
  · rename_i heq
    rw [heq] at hphase
    exact { toWatchCore := h.toWatchCore.withPhase _, phase := hphase.1 }
  · exact h

theorem watchInv_start (aborted : Bool) : WatchInv (startWatch aborted) := by
  cases aborted with
  | true =>
    have hnotDue : NothingDue ([] ++ [.aborted]) :=
      nothingDue_append fun _ _ heq => by cases heq
    have hallowed : WatchAllowed [] .aborted :=
      watchAllowed_of_nothingDue nothingDue_nil fun _ heq => by cases heq
    exact {
      allowed := eachAllowed_append_singleton.mpr ⟨eachAllowed_nil _, hallowed⟩
      aborted := by
        intro _
        rfl
      last := rfl
      active := by
        intro _ hprogressed
        obtain ⟨tip, hmem⟩ := hprogressed
        cases List.mem_singleton.mp hmem
      fresh := by
        intro _
        exact ⟨rfl, rfl⟩
      remembers := by
        intro hremember
        cases hremember
      phase := hnotDue }
  | false =>
    exact {
      allowed := eachAllowed_nil _
      aborted := by
        intro hmem
        cases hmem
      last := rfl
      active := by
        intro _ hprogressed
        obtain ⟨tip, hmem⟩ := hprogressed
        cases hmem
      fresh := by
        intro _
        exact ⟨rfl, rfl⟩
      remembers := by
        intro hremember
        cases hremember
      phase := by
        constructor
        · exact nothingDue_nil
        · intro hmem
          cases hmem }

/-- Only the refresh of the lists stands between a due poll and its progress. -/
theorem WatchInv.undecided (h : WatchInv state) (hdue : ProgressDue state.log tip) :
    (∃ session count, state.phase = .onListed session (some tip) count) ∧
      state.aborted = false := by
  have hphase := h.phase
  cases heq : state.phase with
  | returned =>
    rw [heq] at hphase
    exact absurd hdue (hphase tip)
  | readGate | afterProgress | wait | fetchTip | listExitCount | progress =>
    rw [heq] at hphase
    exact absurd hdue (hphase.1 tip)
  | onListed session nextTip exitCount =>
    rw [heq] at hphase
    obtain ⟨haborted, hpolled, -⟩ := hphase
    have hrunning : state.aborted = false := by
      rw [← Bool.not_eq_true]
      intro hdone
      exact haborted hdone tip hdue
    obtain ⟨before, hlog⟩ := hpolled hrunning
    rw [hlog] at hdue
    rw [(progressDue_polled hdue).1]
    exact ⟨⟨session, exitCount, rfl⟩, hrunning⟩

/-- Whatever the calls answer and whenever the signal is aborted, a watch keeps to its rules. -/
theorem tip_watch_kept (deps : WatchDeps) (aborted : Bool) (events : List WatchEvent) :
    WatchKept (run (watchStep deps) (startWatch aborted) events) := by
  have hinv : WatchInv (run (watchStep deps) (startWatch aborted) events) :=
    run_invariant WatchInv (fun _ event h => h.step deps event) (watchInv_start aborted) events
  exact {
    log := logKept_of_eachAllowed hinv.allowed
    undecided := fun _ hdue => hinv.undecided hdue }

def firstTip : BarkEmergencyExitTip where
  height := 100
  hash := "aa"

def reorgTip : BarkEmergencyExitTip where
  height := 100
  hash := "bb"

def openGate : BarkEmergencyExitAutomationSessionGate where
  proceedAutomatically := true
  walletUnlocked := true
  sameWallet := true
  sameNetwork := true
  sessionLoaded := true

def progressingPoll (tip : BarkEmergencyExitTip) : List WatchEvent :=
  [.gate (some openGate), .tip (some tip), .exitCount (some 1), .progressed true, .waited true]

def returningTip : List WatchEvent :=
  progressingPoll firstTip ++ progressingPoll reorgTip ++ progressingPoll firstTip

/-- Progress succeeds for a tip, and starts again for the same tip when the chain is back. -/
theorem tip_watch_progresses_again_for_returning_tip :
    ∃ before middle after,
      watchLog { hasOnListed := false, hasAfterProgress := false } false returningTip =
        before ++ .succeeded (some firstTip) :: middle ++ .started (some firstTip) :: after :=
  ⟨[.polled (some firstTip) 1, .started (some firstTip)],
    [.polled (some reorgTip) 1, .started (some reorgTip), .succeeded (some reorgTip),
      .polled (some firstTip) 1],
    [.succeeded (some firstTip)], rfl⟩

end Bitboard.Frontend
