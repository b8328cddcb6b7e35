/-
# The watch over the chain tip

While emergency exits proceed by themselves, `watchBarkEmergencyExitTips` polls the chain tip
and progresses the exits when the tip has moved. Each poll reads the session gate, the tip
and the number of exits, one after the other; each of these calls can fail, and the signal
can be aborted between any two of them.

This module models the loop of `bark-emergency-exit-automation.ts` as a machine: a state says
which call the loop waits for, and an event is that call's answer, or the abort. What the
loop does is written to a log. The callbacks that publish its activity are left out.
-/

import Bitboard.Lib.Run

namespace Bitboard.Frontend

open Bitboard.Lib

structure BarkEmergencyExitTip where
  height : Nat
  hash : String

structure BarkEmergencyExitAutomationSessionGate where
  proceedAutomatically : Bool
  walletUnlocked : Bool
  sameWallet : Bool
  sameNetwork : Bool
  sessionLoaded : Bool

/-- `barkEmergencyExitTipChanged`: a missing previous tip counts as a change, and a reorg at
the same height changes the hash. -/
def barkEmergencyExitTipChanged (previousTip : Option BarkEmergencyExitTip)
    (nextTip : BarkEmergencyExitTip) : Bool :=
  match previousTip with
  | none => true
  | some previousTip =>
    previousTip.height != nextTip.height || previousTip.hash != nextTip.hash

variable (session : BarkEmergencyExitAutomationSessionGate)

def sessionStillAllowsAutomation : Bool :=
  session.proceedAutomatically && session.walletUnlocked && session.sameWallet &&
    session.sameNetwork && session.sessionLoaded

def shouldProgressBarkEmergencyExitOnTip (exitCount : Nat)
    (previousTip nextTip : Option BarkEmergencyExitTip) (justBecameActive : Bool) : Bool :=
  if !session.proceedAutomatically then false
  else if !session.walletUnlocked then false
  else if !session.sameWallet then false
  else if !session.sameNetwork then false
  else if !session.sessionLoaded then false
  else if exitCount < 1 then false
  else if justBecameActive then true
  else
    match nextTip with
    | none => false
    | some nextTip => barkEmergencyExitTipChanged previousTip nextTip

inductive WatchPhase where
  | readGate
  | fetchTip (session : BarkEmergencyExitAutomationSessionGate)
  | listExitCount (session : BarkEmergencyExitAutomationSessionGate)
      (nextTip : Option BarkEmergencyExitTip)
  | onListed (session : BarkEmergencyExitAutomationSessionGate)
      (nextTip : Option BarkEmergencyExitTip) (exitCount : Nat)
  | progress (observedTip : Option BarkEmergencyExitTip)
  | afterProgress
  | wait
  | returned

inductive WatchRecord where
  | aborted
  /-- The gate was read and is closed. -/
  | gateClosed
  /-- A poll has read the tip, or failed to, and the number of exits. -/
  | polled (nextTip : Option BarkEmergencyExitTip) (exitCount : Nat)
  | started (observedTip : Option BarkEmergencyExitTip)
  | succeeded (observedTip : Option BarkEmergencyExitTip)
  | failed (observedTip : Option BarkEmergencyExitTip)
  /-- The tip was taken for the previous one without progress. -/
  | remembered (nextTip : BarkEmergencyExitTip)

structure WatchState where
  previousTip : Option BarkEmergencyExitTip
  justBecameActive : Bool
  rememberNextTipWithoutProgress : Bool
  aborted : Bool
  phase : WatchPhase
  log : List WatchRecord

structure WatchDeps where
  hasOnListed : Bool
  hasAfterProgress : Bool

/-- The answer to the call the loop waits for, or the abort of its signal. -/
inductive WatchEvent where
  | abort
  /-- The gate, or nothing where reading it failed. -/
  | gate (session : Option BarkEmergencyExitAutomationSessionGate)
  | tip (nextTip : Option BarkEmergencyExitTip)
  | exitCount (count : Option Nat)
  /-- The lists are refreshed, or refreshing them failed, which the loop ignores. -/
  | listed
  | progressed (success : Bool)
  | refreshed
  | waited (success : Bool)

variable (state : WatchState)

namespace WatchState

def loopHead : WatchState :=
  { state with phase := if state.aborted then .returned else .readGate }

/-- A move to the next call, unless the signal is aborted. -/
def unlessAborted (phase : WatchPhase) : WatchState :=
  { state with phase := if state.aborted then .returned else phase }

def write (record : WatchRecord) : WatchState :=
  { state with log := state.log ++ [record] }

/-- The decision of a poll: to remember the tip, to progress, or to wait. -/
def decidePoll (session : BarkEmergencyExitAutomationSessionGate)
    (nextTip : Option BarkEmergencyExitTip) (exitCount : Nat) : WatchState :=
  match state.rememberNextTipWithoutProgress, nextTip with
  | true, some tip =>
    { state.write (.remembered tip) with
      previousTip := some tip
      rememberNextTipWithoutProgress := false
      phase := .wait }
  | _, _ =>
    if shouldProgressBarkEmergencyExitOnTip session exitCount state.previousTip nextTip
        state.justBecameActive then
      { state.write (.started nextTip) with phase := .progress nextTip }
    else { state with phase := .wait }

def afterSuccess (observedTip : Option BarkEmergencyExitTip) : WatchState :=
  match observedTip with
  | some tip =>
    { state.write (.succeeded observedTip) with
      justBecameActive := false
      previousTip := some tip }
  | none =>
    { state.write (.succeeded observedTip) with
      justBecameActive := false
      rememberNextTipWithoutProgress := true }

end WatchState

/-- `watchBarkEmergencyExitTips` before its first call. -/
def startWatch (aborted : Bool) : WatchState :=
  WatchState.loopHead
    { previousTip := none
      justBecameActive := true
      rememberNextTipWithoutProgress := false
      aborted := aborted
      phase := .readGate
      log := if aborted then [.aborted] else [] }

/-- One event of `watchBarkEmergencyExitTips`; an answer to another call changes nothing. -/
def watchStep (deps : WatchDeps) (state : WatchState) (event : WatchEvent) : WatchState :=
  match state.phase, event with
  | _, .abort => if state.aborted then state else { state.write .aborted with aborted := true }
  | .readGate, .gate none => state.unlessAborted .wait
  | .readGate, .gate (some session) =>
    if sessionStillAllowsAutomation session then state.unlessAborted (.fetchTip session)
    else { state.write .gateClosed with phase := .returned }
  | .fetchTip session, .tip nextTip => state.unlessAborted (.listExitCount session nextTip)
  | .listExitCount _ _, .exitCount none => state.unlessAborted .wait
  | .listExitCount session nextTip, .exitCount (some count) =>
    if state.aborted then { state with phase := .returned }
    else
      let polled := state.write (.polled nextTip count)
      if deps.hasOnListed then { polled with phase := .onListed session nextTip count }
      else polled.decidePoll session nextTip count
  | .onListed session nextTip count, .listed =>
    if state.aborted then { state with phase := .returned }
    else state.decidePoll session nextTip count
  | .progress observedTip, .progressed true =>
    let done := state.afterSuccess observedTip
    if deps.hasAfterProgress then { done with phase := .afterProgress }
    else done.unlessAborted .wait
  | .progress observedTip, .progressed false =>
    (state.write (.failed observedTip)).unlessAborted .wait
  | .afterProgress, .refreshed => state.unlessAborted .wait
  | .wait, .waited true => state.loopHead
  | .wait, .waited false => { state with phase := .returned }
  | _, _ => state

def watchLog (deps : WatchDeps) (aborted : Bool) (events : List WatchEvent) : List WatchRecord :=
  (run (watchStep deps) (startWatch aborted) events).log

end Bitboard.Frontend
