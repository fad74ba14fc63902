import PetlibroRelay.Pump.ReplayRates

namespace PetlibroRelay
namespace Pump

open Foundations
open Queue

/-!
# Whose turn it is

The targets of a pass are rotated by one position per pass, and a pass without
a free budget is a pass too.  After a delivering pass the next one follows at
once and only turns the rotation, then the thread sleeps until the budget
reopens.  Who is first at that moment is therefore an accident of the rates and
of the number of targets: with two targets and equal rates it is always the
same device.

What the rotation does not provide, the deadlines would.  A device that was
served last has the latest deadline, so while the gate lets a row pass only
when the other device was not due earlier, neither device gets ahead by more
than one row.
-/

/-- The clock of the device-to-cloud pump and the devices whose backlog rows
were published, newest first. -/
structure PassLog where
  clock : Rat
  served : List String := []

namespace PassLog

/-- Every reading is the time of the pass and every publish is confirmed. -/
def allows (log : PassLog) : CoreAction -> Bool
  | .pump .localToUpstream (.checkExpiry now) => decide (now = log.clock)
  | .pump .localToUpstream (.askReplay now) => decide (now = log.clock)
  | .pump .localToUpstream (.record now _ _) => decide (now = log.clock)
  | .pump .localToUpstream (.publish outcome) => decide (outcome = .confirmed)
  | _ => true

/-- A pass that delivered nothing is followed by the wait of `_run`, every
other step takes no time. -/
def observe (config : PumpConfig) (log : PassLog) (thread : PumpThread) : PumpStep -> PassLog
  | .publish .confirmed =>
      match thread.phase with
      | .publishing visit message =>
          if message.isLive then log
          else { log with served := visit.target.deviceId :: log.served }
      | _ => log
  | .endPass =>
      if thread.delivered then log
      else { log with clock := log.clock + thread.scheduler.nextWaitSeconds config log.clock }
  | _ => log

/-- The backlog rows of the device published so far. -/
def published (log : PassLog) (deviceId : String) : Nat :=
  log.served.count deviceId

/-- The backlog rows of the device published since an earlier moment. -/
def publishedSince (log earlier : PassLog) (deviceId : String) : Int :=
  log.published deviceId - earlier.published deviceId

/-- How many more rows of one device than of the other were published. -/
def lead (log : PassLog) (ahead behind : String) : Int :=
  log.published ahead - log.published behind

end PassLog

/-- What an action adds to the log. -/
def observePasses (settings : ReplaySettings) (log : PassLog) (core : Core) :
    CoreAction -> PassLog
  | .pump .localToUpstream taken =>
      log.observe (settings.pumpConfig .localToUpstream) core.localToUpstreamPump taken
  | _ => log

/-- Queue and pumps with the passes scheduled as `_run` does. -/
def passMachine (settings : ReplaySettings) : Machine (Core × PassLog) CoreAction :=
  ((coreMachine settings).watched (observePasses settings)).guarded
    (fun state action => state.2.allows action)

/-! ## Devices that always have something to replay -/

/-- Past its start delay, with a backlog and without live rows. -/
def replaying (deviceId : String) (state : Core × PassLog) : Bool :=
  (state.1.localToUpstreamPump.readyAt? deviceId).any (fun ready => decide (ready ≤ state.2.clock)) &&
    decide (0 < state.1.queue.backlogCount deviceId LOCAL_TO_UPSTREAM) &&
    (state.1.queue.pendingMessages.select
      (MessageQueue.isLiveIn deviceId LOCAL_TO_UPSTREAM)).isEmpty

/-- The action finds the device connected and ready for replay. -/
def findsReady (deviceId : String) (thread : PumpThread) : CoreAction -> Bool
  | .pump .localToUpstream (.beginPass targets) =>
      targets.any (fun target => decide (target.deviceId = deviceId)) &&
        targets.all (fun target => decide (target.deviceId = deviceId -> target.replayReady = true))
  | .pump .localToUpstream (.checkConnected connected) =>
      match thread.phase with
      | .visiting (target :: _) => connected || decide (target.deviceId ≠ deviceId)
      | _ => true
  | .restart => false
  | _ => true

/-- The device is replaying before the action and stays connected and ready. -/
def staysReplaying (deviceId : String) (state : Core × PassLog) (action : CoreAction) : Prop :=
  replaying deviceId state = true ∧
    findsReady deviceId state.1.localToUpstreamPump action = true

instance (deviceId : String) (state : Core × PassLog) (action : CoreAction) :
    Decidable (staysReplaying deviceId state action) :=
  inferInstanceAs (Decidable (_ ∧ _))

/-- When the next backlog row of the device is due.  A device without a
deadline is due at time zero, as in the gate. -/
def PumpThread.due (thread : PumpThread) (deviceId : String) : Rat :=
  (thread.deadline? deviceId).getD 0

/-- The gate is about to let a row of the one device pass although the other
one was due earlier. -/
def outOfTurn (settings : ReplaySettings) (deviceId other : String) (state : Core × PassLog) :
    CoreAction -> Bool
  | .pump .localToUpstream (.askReplay now) =>
      match state.1.localToUpstreamPump.phase with
      | .admitting visit _ =>
          decide (visit.target.deviceId = deviceId) &&
            (state.1.localToUpstreamPump.scheduler.canSendReplay
              (settings.pumpConfig .localToUpstream) visit.target now).1 &&
            decide (state.1.localToUpstreamPump.due other <
              state.1.localToUpstreamPump.due deviceId)
      | _ => false
  | _ => false

/-! ## What a step adds to the log -/

section Observing

variable {config : PumpConfig} {log : PassLog} {thread : PumpThread} {taken : PumpStep}

/-- Only the end of a pass moves the clock. -/
theorem PassLog.observe_clock (config : PumpConfig) (log : PassLog) (thread : PumpThread)
    (moving : taken ≠ .endPass) : (log.observe config thread taken).clock = log.clock := by
  cases taken with
  | publish outcome =>
      cases outcome with
      | confirmed =>
          simp only [observe]
          split
          · split <;> rfl
          · rfl
      | _ => rfl
  | endPass => exact absurd rfl moving
  | _ => rfl

/-- Only a confirmed publish serves a device. -/
theorem PassLog.observe_served (config : PumpConfig) (log : PassLog) (thread : PumpThread)
    (untimed : taken.untimed = true) : (log.observe config thread taken).served = log.served := by
  cases taken with
  | publish outcome => cases outcome <;> first | rfl | cases untimed
  | endPass =>
      simp only [observe]
      split <;> rfl
  | _ => rfl

theorem PassLog.lead_of_served {log after : PassLog} (same : after.served = log.served)
    (ahead behind : String) : after.lead ahead behind = log.lead ahead behind := by
  rw [lead, published, published, same, lead, published, published]

/-- A published row counts for its device and for nobody else. -/
theorem PassLog.lead_cons (log : PassLog) (deviceId ahead behind : String) :
    { log with served := deviceId :: log.served }.lead ahead behind =
      log.lead ahead behind + (if deviceId = ahead then 1 else 0) -
        (if deviceId = behind then 1 else 0) := by
  simp only [lead, published, List.count_cons, beq_iff_eq]
  split <;> split <;> push_cast <;> omega

end Observing

/-! ## Both budgets -/

/-- A backlog row has passed the gate and has not been recorded. -/
def Phase.beyondGate : Phase -> Bool
  | .publishing _ message => !message.isLive
  | .removing _ message => !message.isLive
  | .recording _ => true
  | _ => false

theorem beyondGate_of_quiet {phase : Phase} (still : phase.unrecorded = false)
    (live : forall visit message, phase = .publishing visit message -> message.isLive = true) :
    phase.beyondGate = false := by
  cases phase with
  | publishing visit message => rw [Phase.beyondGate, live visit message rfl, Bool.not_true]
  | removing visit message => exact still
  | recording visit => cases still
  | _ => rfl

/-- Without jitter a deadline was set together with the global one or before
it, so no device is due later than a device that would be served now. -/
structure BudgetsOrdered (perDevice global clock : Rat) (thread : PumpThread) : Prop where
  started : 0 ≤ thread.scheduler.nextGlobalSendAt
  within : forall deviceId deadline, thread.deadline? deviceId = some deadline ->
    deadline + 1 / global ≤ thread.scheduler.nextGlobalSendAt + 1 / perDevice
  passed : thread.phase.beyondGate = true -> thread.scheduler.nextGlobalSendAt ≤ clock

theorem budgetsOrdered_initial (perDevice global clock : Rat) :
    BudgetsOrdered perDevice global clock {} where
  started := le_refl 0
  within := fun _ _ absent => nomatch absent
  passed := fun impossible => nomatch impossible

section Steps

variable {config : PumpConfig} {perDevice global : Rat} {thread after : PumpThread}
  {log : PassLog} {taken : PumpStep} {ahead behind : String} {base : Int}

theorem interval_of_noJitter (noJitter : config.replayJitter = 0) (rate random : Rat) :
    Scheduler.jitteredInterval config rate random = 1 / rate := by
  rw [Scheduler.jitteredInterval, if_pos noJitter]

/-- A device that is served now becomes due after every other device. -/
theorem BudgetsOrdered.due_lt {clock : Rat} (ordered : BudgetsOrdered perDevice global clock thread)
    (perDevice_pos : 0 < perDevice) (global_pos : 0 < global)
    (beyond : thread.phase.beyondGate = true) (deviceId : String) :
    thread.due deviceId < clock + 1 / perDevice := by
  have interval := one_div_pos.mpr perDevice_pos
  have gap := one_div_pos.mpr global_pos
  have reached := ordered.passed beyond
  rw [PumpThread.due]
  cases found : thread.deadline? deviceId with
  | none =>
      rw [Option.getD_none]
      linarith [ordered.started]
  | some deadline =>
      rw [Option.getD_some]
      linarith [ordered.within deviceId deadline found]

/-- Asking the gate keeps the order of the budgets. -/
theorem BudgetsOrdered.asked {clock : Rat} (ordered : BudgetsOrdered perDevice global clock thread)
    {target : PumpTarget} {now : Rat}
    (changed : after.scheduler = (thread.scheduler.canSendReplay config target now).2)
    (gate : after.phase.beyondGate = true -> thread.scheduler.nextGlobalSendAt ≤ clock) :
    BudgetsOrdered perDevice global clock after := by
  rcases asked_timing changed with ⟨same, deadlines, _⟩
  refine ⟨?_, ?_, ?_⟩
  · rw [same]
    exact ordered.started
  · intro deviceId deadline found
    rw [deadlines] at found
    rw [same]
    exact ordered.within deviceId deadline found
  · rw [same]
    exact gate

theorem BudgetsOrdered.of_scheduler {clock : Rat}
    (ordered : BudgetsOrdered perDevice global clock thread)
    (unchanged : after.scheduler = thread.scheduler)
    (gate : after.phase.beyondGate = true -> thread.phase.beyondGate = true) :
    BudgetsOrdered perDevice global clock after := by
  refine ⟨?_, ?_, ?_⟩
  · rw [unchanged]
    exact ordered.started
  · intro deviceId deadline found
    rw [PumpThread.deadline?, unchanged] at found
    rw [unchanged]
    exact ordered.within deviceId deadline found
  · intro beyond
    rw [unchanged]
    exact ordered.passed (gate beyond)

/-- Recording sets the deadline of the device and the global one from the same
reading. -/
theorem BudgetsOrdered.recorded {clock : Rat}
    (ordered : BudgetsOrdered perDevice global clock thread) {visit : Visit}
    {deviceRandom globalRandom : Rat} (global_pos : 0 < global)
    (perDeviceRate : config.replayRatePerDevice = some perDevice)
    (globalRate : config.replayRateGlobal = some global) (noJitter : config.replayJitter = 0)
    (place : thread.phase = .recording visit)
    (changed : thread.scheduler.recordReplaySent config visit.target clock deviceRandom
      globalRandom = some after.scheduler)
    (arrived : after.phase = .completing visit) :
    BudgetsOrdered perDevice global clock after := by
  rcases recorded_timing perDeviceRate globalRate changed with ⟨next, deadlines, _⟩
  have reached := ordered.passed (by rw [place]; rfl)
  have gap := one_div_pos.mpr global_pos
  rw [interval_of_noJitter noJitter] at next
  refine ⟨?_, ?_, ?_⟩
  · rw [next]
    linarith [ordered.started]
  · intro deviceId deadline found
    rw [deadlines, interval_of_noJitter noJitter] at found
    rw [next]
    split at found
    · have same := Option.some.inj found
      linarith
    · linarith [ordered.within deviceId deadline found]
  · intro impossible
    rw [arrived] at impossible
    cases impossible

theorem BudgetsOrdered.step (ordered : BudgetsOrdered perDevice global log.clock thread)
    (global_pos : 0 < global) (perDeviceRate : config.replayRatePerDevice = some perDevice)
    (globalRate : config.replayRateGlobal = some global) (noJitter : config.replayJitter = 0)
    (timing : Timing config thread after taken)
    (allowed : log.allows (.pump .localToUpstream taken) = true) :
    BudgetsOrdered perDevice global (log.observe config thread taken).clock after := by
  cases timing with
  | admitted visit message now place passes arrived changed =>
      have reading : now = log.clock := of_decide_eq_true allowed
      refine ordered.asked changed (fun _ => ?_)
      rw [← reading]
      exact (admitted_timing passes changed).1
  | refused visit message now place fails arrived changed =>
      refine ordered.asked changed (fun impossible => ?_)
      rw [arrived] at impossible
      cases impossible
  | confirmed visit message place arrived unchanged =>
      have clock : (log.observe config thread (.publish .confirmed)).clock = log.clock :=
        log.observe_clock config thread nofun
      rw [clock]
      refine ordered.of_scheduler unchanged (fun beyond => ?_)
      rw [place]
      rw [arrived] at beyond
      exact beyond
  | removed visit message place backlog arrived unchanged =>
      refine ordered.of_scheduler unchanged (fun _ => ?_)
      rw [place, Phase.beyondGate, backlog, Bool.not_false]
  | recorded visit now deviceRandom globalRandom place changed arrived =>
      have reading : now = log.clock := of_decide_eq_true allowed
      rw [reading] at changed
      exact ordered.recorded global_pos perDeviceRate globalRate noJitter place changed arrived
  | raised visit now deviceRandom globalRandom place fails arrived unchanged =>
      refine ordered.of_scheduler unchanged (fun impossible => ?_)
      rw [arrived] at impossible
      cases impossible
  | other taken untimed before running still live same devices =>
      refine ⟨?_, ?_, ?_⟩
      · rw [same]
        exact ordered.started
      · intro deviceId deadline found
        rw [same]
        refine ordered.within deviceId deadline ?_
        rcases devices deviceId with kept | dropped
        · rw [← kept.1]
          exact found
        · rw [dropped.1] at found
          cases found
      · intro beyond
        rw [beyondGate_of_quiet still live] at beyond
        cases beyond

/-! ## The lead of one device -/

/-- A backlog row of the device was published and is not yet recorded. -/
def Phase.owes (phase : Phase) (deviceId : String) : Bool :=
  phase.unrecorded && decide (phase.device? = some deviceId)

/-- Both devices have an open replay window. -/
def PumpThread.BothOpen (thread : PumpThread) (ahead behind : String) : Prop :=
  thread.readyAt? ahead ≠ none ∧ thread.readyAt? behind ≠ none

/-- One device is at most a row ahead of the other, and when it is ahead the
other one is due before it. -/
structure AtMostOneAhead (ahead behind : String) (base : Int) (thread : PumpThread)
    (log : PassLog) : Prop where
  bounded : log.lead ahead behind ≤ base + 1
  passed : forall visit message, thread.BothOpen ahead behind ->
    thread.phase = .publishing visit message -> message.isLive = false ->
    visit.target.deviceId = ahead -> thread.due ahead ≤ thread.due behind
  earlier : thread.BothOpen ahead behind -> base < log.lead ahead behind ->
    thread.phase.owes ahead = false -> thread.due behind < thread.due ahead
  caughtUp : thread.phase.owes behind = true -> log.lead ahead behind ≤ base

theorem atMostOneAhead_idle (idle : thread.phase = .idle) (log : PassLog)
    (ahead behind : String) :
    AtMostOneAhead ahead behind (log.lead ahead behind) thread log where
  bounded := by omega
  passed := by
    intro visit message _ impossible
    rw [idle] at impossible
    cases impossible
  earlier := fun _ impossible => absurd impossible (lt_irrefl _)
  caughtUp := fun _ => le_refl _

theorem due_of_deadline {deviceId : String}
    (same : after.deadline? deviceId = thread.deadline? deviceId) :
    after.due deviceId = thread.due deviceId := by
  rw [PumpThread.due, same, PumpThread.due]

/-- What a device is due is kept as long as its window is open. -/
theorem due_of_keptOrDropped {deviceId : String} (kept : KeptOrDropped thread after deviceId)
    (stillOpen : after.readyAt? deviceId ≠ none) :
    after.due deviceId = thread.due deviceId := by
  rcases kept with kept | dropped
  · exact due_of_deadline kept.1
  · exact absurd dropped.2 stillOpen

/-- A step that publishes nothing and keeps what both devices are due keeps the
lead. -/
theorem AtMostOneAhead.of_same (turn : AtMostOneAhead ahead behind base thread log)
    {later : PassLog} (served : later.served = log.served)
    (opened : thread.BothOpen ahead behind)
    (due : after.BothOpen ahead behind ->
      after.due ahead = thread.due ahead ∧ after.due behind = thread.due behind)
    (gate : forall visit message, after.phase = .publishing visit message ->
      message.isLive = false -> visit.target.deviceId = ahead ->
      thread.due ahead ≤ thread.due behind)
    (owed : thread.phase.owes ahead = true ->
      after.phase.owes ahead = true ∨ log.lead ahead behind ≤ base)
    (owes : after.phase.owes behind = true -> thread.phase.owes behind = true) :
    AtMostOneAhead ahead behind base after later := by
  have same := PassLog.lead_of_served served ahead behind
  refine ⟨?_, ?_, ?_, ?_⟩
  · rw [same]
    exact turn.bounded
  · intro visit message stillOpen arrived backlog device
    rw [(due stillOpen).1, (due stillOpen).2]
    exact gate visit message arrived backlog device
  · intro stillOpen leads free
    rw [same] at leads
    rw [(due stillOpen).1, (due stillOpen).2]
    refine turn.earlier opened leads (Bool.eq_false_iff.mpr (fun owing => ?_))
    rcases owed owing with impossible | level
    · rw [free] at impossible
      cases impossible
    · omega
  · intro owing
    rw [same]
    exact turn.caughtUp (owes owing)

theorem owes_of_recorded {phase : Phase} (still : phase.unrecorded = false) (deviceId : String) :
    phase.owes deviceId = false := by
  rw [Phase.owes, still, Bool.false_and]

/-- A published row of the one device finds it level or behind, a published row
of the other one closes the lead. -/
theorem AtMostOneAhead.confirmed (turn : AtMostOneAhead ahead behind base thread log)
    (different : ahead ≠ behind) (opened : thread.BothOpen ahead behind) {visit : Visit}
    {message : QueuedMessage} (place : thread.phase = .publishing visit message)
    (arrived : after.phase = .removing visit message)
    (unchanged : after.scheduler = thread.scheduler) :
    AtMostOneAhead ahead behind base after
      (log.observe config thread (.publish .confirmed)) := by
  have free : thread.phase.owes ahead = false := owes_of_recorded (by rw [place]; rfl) ahead
  have due : forall deviceId, after.due deviceId = thread.due deviceId :=
    fun deviceId => due_of_deadline (by rw [PumpThread.deadline?, unchanged, PumpThread.deadline?])
  have noGate : forall other held, after.phase ≠ .publishing other held := by
    intro other held
    rw [arrived]
    rintro ⟨⟩
  simp only [PassLog.observe, place]
  split
  · next live =>
      refine turn.of_same rfl opened (fun _ => ⟨due ahead, due behind⟩)
        (fun other held impossible => absurd impossible (noGate other held)) ?_ ?_
      · intro impossible
        rw [free] at impossible
        cases impossible
      · intro impossible
        rw [arrived, Phase.owes, Phase.unrecorded, live] at impossible
        cases impossible
  · next backlog =>
      have backlog : message.isLive = false := Bool.eq_false_iff.mpr backlog
      have owes : forall deviceId,
          after.phase.owes deviceId = decide (visit.target.deviceId = deviceId) := by
        intro deviceId
        simp only [arrived, Phase.owes, Phase.unrecorded, backlog, Bool.not_false, Bool.true_and,
          Phase.device?, Option.some.injEq]
      have bounded := turn.bounded
      refine ⟨?_, ?_, ?_, ?_⟩
      · rw [PassLog.lead_cons]
        by_cases own : visit.target.deviceId = ahead
        · have level : log.lead ahead behind ≤ base := by
            refine le_of_not_gt (fun leads => ?_)
            exact absurd (turn.passed visit message opened place backlog own)
              (not_le_of_gt (turn.earlier opened leads free))
          split <;> split <;> omega
        · rw [if_neg own]
          split <;> omega
      · intro other held _ impossible
        exact absurd impossible (noGate other held)
      · intro _ leads notOwed
        rw [owes, decide_eq_false_iff_not] at notOwed
        rw [PassLog.lead_cons, if_neg notOwed] at leads
        rw [due, due]
        refine turn.earlier opened ?_ free
        split at leads <;> omega
      · intro owing
        rw [owes, decide_eq_true_eq] at owing
        rw [PassLog.lead_cons, if_pos owing, if_neg (fun same => different (same.symm.trans owing))]
        omega

/-- Recording makes the device due after the other one. -/
theorem AtMostOneAhead.recorded (turn : AtMostOneAhead ahead behind base thread log)
    (ordered : BudgetsOrdered perDevice global log.clock thread)
    (perDevice_pos : 0 < perDevice) (global_pos : 0 < global)
    (perDeviceRate : config.replayRatePerDevice = some perDevice)
    (globalRate : config.replayRateGlobal = some global) (noJitter : config.replayJitter = 0)
    (different : ahead ≠ behind) (opened : thread.BothOpen ahead behind) {visit : Visit}
    {deviceRandom globalRandom : Rat} (place : thread.phase = .recording visit)
    (changed : thread.scheduler.recordReplaySent config visit.target log.clock deviceRandom
      globalRandom = some after.scheduler)
    (arrived : after.phase = .completing visit) :
    AtMostOneAhead ahead behind base after log := by
  have deadlines := (recorded_timing perDeviceRate globalRate changed).2.1
  have owes : forall deviceId,
      thread.phase.owes deviceId = decide (visit.target.deviceId = deviceId) := by
    intro deviceId
    simp only [place, Phase.owes, Phase.unrecorded, Bool.true_and, Phase.device?,
      Option.some.injEq]
  have kept : forall deviceId, visit.target.deviceId ≠ deviceId ->
      after.due deviceId = thread.due deviceId := by
    intro deviceId foreign
    refine due_of_deadline ?_
    rw [deadlines, if_neg foreign]
  refine ⟨turn.bounded, ?_, ?_, ?_⟩
  · intro other held _ impossible
    rw [arrived] at impossible
    cases impossible
  · intro _ leads _
    by_cases own : visit.target.deviceId = ahead
    · have latest : after.due ahead = log.clock + 1 / perDevice := by
        rw [PumpThread.due, deadlines, if_pos own, interval_of_noJitter noJitter, Option.getD_some]
      rw [kept behind (own ▸ different), latest]
      exact ordered.due_lt perDevice_pos global_pos (by rw [place]; rfl) behind
    · by_cases other : visit.target.deviceId = behind
      · have level := turn.caughtUp (by rw [owes, other, decide_eq_true rfl])
        omega
      · rw [kept ahead own, kept behind other]
        refine turn.earlier opened leads ?_
        rw [owes, decide_eq_false own]
  · intro impossible
    rw [arrived] at impossible
    cases impossible

/-- Recording does not raise for a device with an open window. -/
theorem recordReplaySent_isSome {target : PumpTarget} {now deviceRandom globalRandom : Rat}
    (perDeviceRate : config.replayRatePerDevice = some perDevice)
    (globalRate : config.replayRateGlobal = some global)
    (opened : thread.readyAt? target.deviceId ≠ none) :
    thread.scheduler.recordReplaySent config target now deviceRandom globalRandom ≠ none := by
  intro fails
  rw [PumpThread.readyAt?] at opened
  simp only [Scheduler.recordReplaySent, perDeviceRate, globalRate, Option.bind_eq_bind,
    Option.bind_some] at fails
  cases found : Dict.get? thread.scheduler.replayProgress target.deviceId with
  | none => exact opened (by rw [found, Option.map_none])
  | some progress =>
      rw [found] at fails
      cases fails

/-- One step of the pump keeps the lead, unless the gate lets a row pass out of
turn. -/
theorem AtMostOneAhead.step (turn : AtMostOneAhead ahead behind base thread log)
    (ordered : BudgetsOrdered perDevice global log.clock thread)
    (perDevice_pos : 0 < perDevice) (global_pos : 0 < global)
    (perDeviceRate : config.replayRatePerDevice = some perDevice)
    (globalRate : config.replayRateGlobal = some global) (noJitter : config.replayJitter = 0)
    (different : ahead ≠ behind) (opened : thread.BothOpen ahead behind)
    (timing : Timing config thread after taken)
    (allowed : log.allows (.pump .localToUpstream taken) = true)
    (inTurn : forall visit message now, taken = .askReplay now ->
      thread.phase = .admitting visit message -> visit.target.deviceId = ahead ->
      (thread.scheduler.canSendReplay config visit.target now).1 = true ->
      thread.due ahead ≤ thread.due behind) :
    AtMostOneAhead ahead behind base after (log.observe config thread taken) := by
  cases timing with
  | admitted visit message now place passes arrived changed =>
      have deadlines := (asked_timing changed).2.1
      refine turn.of_same rfl opened
        (fun _ => ⟨due_of_deadline (deadlines ahead), due_of_deadline (deadlines behind)⟩) ?_ ?_ ?_
      · intro other held there _ own
        rw [arrived] at there
        cases there
        exact inTurn visit message now rfl place own passes
      · intro impossible
        rw [place] at impossible
        cases impossible
      · intro impossible
        rw [arrived] at impossible
        cases impossible
  | refused visit message now place fails arrived changed =>
      have deadlines := (asked_timing changed).2.1
      refine turn.of_same rfl opened
        (fun _ => ⟨due_of_deadline (deadlines ahead), due_of_deadline (deadlines behind)⟩) ?_ ?_ ?_
      · intro other held impossible
        rw [arrived] at impossible
        cases impossible
      · intro impossible
        rw [place] at impossible
        cases impossible
      · intro impossible
        rw [arrived] at impossible
        cases impossible
  | confirmed visit message place arrived unchanged =>
      exact turn.confirmed different opened place arrived unchanged
  | removed visit message place backlog arrived unchanged =>
      have due : forall deviceId, after.due deviceId = thread.due deviceId := fun deviceId =>
        due_of_deadline (by rw [PumpThread.deadline?, unchanged, PumpThread.deadline?])
      have owes : after.phase.owes = thread.phase.owes := by
        funext deviceId
        simp only [place, arrived, Phase.owes, Phase.unrecorded, backlog, Bool.not_false,
          Phase.device?]
      refine turn.of_same rfl opened (fun _ => ⟨due ahead, due behind⟩) ?_ ?_ ?_
      · intro other held impossible
        rw [arrived] at impossible
        cases impossible
      · intro owing
        rw [owes]
        exact Or.inl owing
      · intro owing
        rw [← owes]
        exact owing
  | recorded visit now deviceRandom globalRandom place changed arrived =>
      have reading : now = log.clock := of_decide_eq_true allowed
      rw [reading] at changed
      exact turn.recorded ordered perDevice_pos global_pos perDeviceRate globalRate noJitter
        different opened place changed arrived
  | raised visit now deviceRandom globalRandom place fails arrived unchanged =>
      have due : forall deviceId, after.due deviceId = thread.due deviceId := fun deviceId =>
        due_of_deadline (by rw [PumpThread.deadline?, unchanged, PumpThread.deadline?])
      refine turn.of_same rfl opened (fun _ => ⟨due ahead, due behind⟩) ?_ ?_ ?_
      · intro other held impossible
        rw [arrived] at impossible
        cases impossible
      · intro owing
        simp only [place, Phase.owes, Phase.unrecorded, Bool.true_and, Phase.device?,
          Option.some.injEq, decide_eq_true_eq] at owing
        exact absurd fails
          (recordReplaySent_isSome perDeviceRate globalRate (owing ▸ opened.1))
      · intro impossible
        rw [arrived] at impossible
        cases impossible
  | other taken untimed before running still live same devices =>
      refine turn.of_same (log.observe_served config thread untimed) opened ?_ ?_ ?_ ?_
      · intro stillOpen
        exact ⟨due_of_keptOrDropped (devices ahead) stillOpen.1,
          due_of_keptOrDropped (devices behind) stillOpen.2⟩
      · intro visit message arrived backlog
        rw [live visit message arrived] at backlog
        cases backlog
      · intro impossible
        rw [owes_of_recorded before ahead] at impossible
        cases impossible
      · intro impossible
        rw [owes_of_recorded still behind] at impossible
        cases impossible

end Steps

/-! ## Whole runs -/

/-- An action is a step of the device-to-cloud pump at the time of the pass, or
it leaves that pump and the log alone, or it starts a new pump. -/
theorem passMachine_cases {settings : ReplaySettings} {state after : Core × PassLog}
    {action : CoreAction} (moved : (passMachine settings).step state action = some after) :
    (exists taken left, action = .pump .localToUpstream taken ∧
      state.2.allows (.pump .localToUpstream taken) = true ∧
      step (settings.pumpConfig .localToUpstream) state.1.localToUpstreamPump state.1.queue
        taken = some (after.1.localToUpstreamPump, left) ∧
      after.2 = state.2.observe (settings.pumpConfig .localToUpstream)
        state.1.localToUpstreamPump taken) ∨
    (after.1.localToUpstreamPump = state.1.localToUpstreamPump ∧ after.2 = state.2) ∨
    (after.1.localToUpstreamPump = {} ∧ after.2 = state.2 ∧ action = .restart) := by
  rcases Machine.guarded_step moved with ⟨allowed, watched⟩
  rcases Machine.watched_step watched with ⟨stepped, noted⟩
  rcases coreMachine_localToUpstream stepped with ⟨taken, left, rfl, pumped⟩ |
    ⟨still, other⟩ | ⟨fresh, rfl⟩
  · exact Or.inl ⟨taken, left, rfl, allowed, pumped, noted⟩
  · refine Or.inr (Or.inl ⟨still, ?_⟩)
    rcases other with ⟨call, now, rfl⟩ | ⟨taken, rfl⟩ <;> exact noted
  · exact Or.inr (Or.inr ⟨fresh, noted, rfl⟩)

/-- The budgets of the device-to-cloud pump of a state are ordered. -/
def BudgetsKept (settings : ReplaySettings) (state : Core × PassLog) : Prop :=
  BudgetsOrdered settings.replayRatePerDevice settings.replayRateGlobal state.2.clock
    state.1.localToUpstreamPump

theorem budgetsKept_step {settings : ReplaySettings} {state after : Core × PassLog}
    {action : CoreAction} (noJitter : settings.replayJitter = 0)
    (kept : BudgetsKept settings state)
    (moved : (passMachine settings).step state action = some after) :
    BudgetsKept settings after := by
  rw [BudgetsKept]
  rcases passMachine_cases moved with ⟨taken, left, rfl, allowed, pumped, noted⟩ |
    ⟨thread, noted⟩ | ⟨thread, noted, _⟩
  · rw [noted]
    exact kept.step settings.global_pos rfl rfl noJitter (step_timing rfl pumped) allowed
  · rw [thread, noted]
    exact kept
  · rw [thread]
    exact budgetsOrdered_initial _ _ _

/-- The gate lets neither device pass out of turn. -/
def keepsTurns (settings : ReplaySettings) (first second : String) (state : Core × PassLog)
    (action : CoreAction) : Prop :=
  outOfTurn settings first second state action = false ∧
    outOfTurn settings second first state action = false

instance (settings : ReplaySettings) (first second : String) (state : Core × PassLog)
    (action : CoreAction) : Decidable (keepsTurns settings first second state action) :=
  inferInstanceAs (Decidable (_ ∧ _))

/-- The state's device-to-cloud pump keeps the lead of the one device. -/
def LeadKept (ahead behind : String) (base : Int) (state : Core × PassLog) : Prop :=
  AtMostOneAhead ahead behind base state.1.localToUpstreamPump state.2

theorem readyAt_of_staysReplaying {deviceId : String} {state : Core × PassLog}
    {action : CoreAction} (stays : staysReplaying deviceId state action) :
    state.1.localToUpstreamPump.readyAt? deviceId ≠ none := by
  intro closed
  have replays := stays.1
  rw [replaying, closed, Option.any_none, Bool.false_and, Bool.false_and] at replays
  cases replays

theorem leadKept_step {settings : ReplaySettings} {state after : Core × PassLog}
    {action : CoreAction} {ahead behind : String} {base : Int}
    (noJitter : settings.replayJitter = 0) (different : ahead ≠ behind)
    (budgets : BudgetsKept settings state) (kept : LeadKept ahead behind base state)
    (staysAhead : staysReplaying ahead state action)
    (staysBehind : staysReplaying behind state action)
    (inTurn : outOfTurn settings ahead behind state action = false)
    (moved : (passMachine settings).step state action = some after) :
    LeadKept ahead behind base after := by
  have opened : state.1.localToUpstreamPump.BothOpen ahead behind :=
    ⟨readyAt_of_staysReplaying staysAhead, readyAt_of_staysReplaying staysBehind⟩
  rw [LeadKept]
  rcases passMachine_cases moved with ⟨taken, left, rfl, allowed, pumped, noted⟩ |
    ⟨thread, noted⟩ | ⟨_, _, rfl⟩
  · rw [noted]
    refine kept.step budgets settings.perDevice_pos settings.global_pos rfl rfl noJitter
      different opened (step_timing rfl pumped) allowed ?_
    intro visit message now asked place own passes
    subst asked
    simp only [outOfTurn, place, own, passes, decide_true, Bool.true_and,
      decide_eq_false_iff_not] at inTurn
    exact le_of_not_gt inTurn
  · rw [thread, noted]
    exact kept
  · cases staysAhead.2

/-- What both leads say together about any later moment. -/
structure Shared (settings : ReplaySettings) (first second : String) (earlier : PassLog)
    (state : Core × PassLog) : Prop where
  budgets : BudgetsKept settings state
  firstLead : LeadKept first second (earlier.lead first second) state
  secondLead : LeadKept second first (earlier.lead second first) state

theorem shared_run {settings : ReplaySettings} {start : Core × PassLog} {first second : String}
    {actions : List CoreAction} (noJitter : settings.replayJitter = 0)
    (different : first ≠ second) (budgets : BudgetsKept settings start)
    (idle : start.1.localToUpstreamPump.phase = .idle)
    (continuous : (passMachine settings).Meets (fun state action =>
      staysReplaying first state action ∧ staysReplaying second state action) start actions)
    (inTurn : (passMachine settings).Meets (keepsTurns settings first second) start actions) :
    Shared settings first second start.2 ((passMachine settings).run start actions) := by
  refine Machine.run_invariant_of_meets _ (fun state action =>
    (staysReplaying first state action ∧ staysReplaying second state action) ∧
      keepsTurns settings first second state action) _ ?_ start actions
    ⟨budgets, atMostOneAhead_idle idle _ _ _, atMostOneAhead_idle idle _ _ _⟩
    (Machine.meets_and continuous inTurn)
  intro state action after shared condition moved
  rcases condition with ⟨⟨staysFirst, staysSecond⟩, firstTurn, secondTurn⟩
  refine ⟨budgetsKept_step noJitter shared.budgets moved, ?_, ?_⟩
  · exact leadKept_step noJitter different shared.budgets shared.firstLead staysFirst
      staysSecond firstTurn moved
  · exact leadKept_step noJitter different.symm shared.budgets shared.secondLead staysSecond
      staysFirst secondTurn moved

/-- In every run without jitter that is scheduled as `_run` does, take any pass
and any two devices that from its beginning on stay connected and ready, past
their start delay and with backlog rows only.  As long as the gate lets a row of
the one pass only when the other one was not due earlier, the backlog rows
published for the two since that pass differ by no more than the number of
targets. -/
theorem replay_shared_in_turn (settings : ReplaySettings) (queue : MessageQueue) (clock : Rat)
    (before actions : List CoreAction) (targets : List PumpTarget) (first second : String)
    (noJitter : settings.replayJitter = 0)
    (idle : ((passMachine settings).run ({ queue := queue }, { clock := clock })
      before).1.localToUpstreamPump.phase = .idle)
    (continuous : (passMachine settings).Meets
      (fun state action => staysReplaying first state action ∧ staysReplaying second state action)
      ((passMachine settings).run ({ queue := queue }, { clock := clock }) before)
      (.pump .localToUpstream (.beginPass targets) :: actions))
    (inTurn : (passMachine settings).Meets (keepsTurns settings first second)
      ((passMachine settings).run ({ queue := queue }, { clock := clock }) before)
      (.pump .localToUpstream (.beginPass targets) :: actions)) :
    let earlier := (passMachine settings).run ({ queue := queue }, { clock := clock }) before
    let later := (passMachine settings).run earlier
      (.pump .localToUpstream (.beginPass targets) :: actions)
    |later.2.publishedSince earlier.2 first - later.2.publishedSince earlier.2 second| ≤
      (targets.length : Int) := by
  intro earlier later
  by_cases same : first = second
  · rw [same, sub_self, abs_zero]
    exact Int.natCast_nonneg _
  · have budgets : BudgetsKept settings earlier :=
      Machine.run_invariant _ (BudgetsKept settings)
        (fun _ _ _ kept moved => budgetsKept_step noJitter kept moved) _ before
        (budgetsOrdered_initial _ _ _)
    have shared : Shared settings first second earlier.2 later :=
      shared_run noJitter same budgets idle continuous inTurn
    have some_target : 0 < targets.length := by
      have found := (Bool.and_eq_true_iff.mp continuous.1.1.2).1
      rcases List.any_eq_true.mp found with ⟨target, member, _⟩
      exact List.length_pos_of_mem member
    have firstBound := shared.firstLead.bounded
    have secondBound := shared.secondLead.bounded
    simp only [PassLog.lead] at firstBound secondBound
    simp only [PassLog.publishedSince, abs_le]
    omega

/-! ## Two devices -/

def bothTargets : List PumpTarget :=
  [replayTarget, { deviceId := "B", client := 1 }]

/-- A visit that ends at the gate. -/
def refusedVisit (now : Rat) : List PumpStep :=
  [.checkConnected true, .peek, .checkExpiry now, .askReplay now]

/-- A visit that delivers its backlog row. -/
def servedVisit (now : Rat) : List PumpStep :=
  refusedVisit now ++ [.publish .confirmed, .removeDelivered, .record now 0 0, .complete]

/-- A pass over both targets. -/
def passOf (firstVisit secondVisit : List PumpStep) : List CoreAction :=
  (PumpStep.beginPass bothTargets :: firstVisit ++ secondVisit ++ [PumpStep.endPass]).map
    (CoreAction.pump .localToUpstream)

/-- Five rows of the first device and two of the second. -/
def backlogs : List CoreAction :=
  List.replicate 5 (.enqueue replayCall 0) ++
    List.replicate 2 (.enqueue { replayCall with deviceId := "B" } 0)

/-- The first pass serves the first device and opens both replay windows. -/
def firstPass : List CoreAction :=
  backlogs ++ passOf (servedVisit 0) (refusedVisit 0)

/-- The per-device limit is the tighter one, so the devices take turns. -/
def alternatingPasses : List CoreAction :=
  passOf (refusedVisit 0) (refusedVisit 0) ++
    passOf (refusedVisit (1 / 2)) (servedVisit (1 / 2)) ++
    passOf (refusedVisit (1 / 2)) (refusedVisit (1 / 2)) ++
    passOf (servedVisit 1) (refusedVisit 1)

theorem replay_shared_in_turn_alternating :
    let earlier := (passMachine instantSettings).run ({ queue := emptyQueue }, { clock := 0 })
      firstPass
    let later := (passMachine instantSettings).run earlier alternatingPasses
    later.2.served = ["A", "B", "A"] ∧
    |later.2.publishedSince earlier.2 "A" - later.2.publishedSince earlier.2 "B"| ≤ 2 := by
  refine ⟨by decide +kernel, ?_⟩
  exact replay_shared_in_turn instantSettings emptyQueue 0 firstPass alternatingPasses.tail
    bothTargets "A" "B" rfl (by decide +kernel) (by decide +kernel) (by decide +kernel)

/-- Equal limits for one device and for all of them. -/
def equalRates : ReplaySettings where
  replayRatePerDevice := 100
  replayRateGlobal := 100
  replayStartDelaySeconds := 0
  replayJitter := 0
  perDevice_pos := by decide
  global_pos := by decide
  delay_nonneg := noDelay_nonneg
  jitter_range := noJitter_range

/-- Every time the budget reopens, the rotation begins with the first device. -/
def sameDeviceAgain : List CoreAction :=
  passOf (refusedVisit 0) (refusedVisit 0) ++
    passOf (servedVisit (1 / 100)) (refusedVisit (1 / 100)) ++
    passOf (refusedVisit (1 / 100)) (refusedVisit (1 / 100)) ++
    passOf (servedVisit (2 / 100)) (refusedVisit (2 / 100)) ++
    passOf (refusedVisit (2 / 100)) (refusedVisit (2 / 100)) ++
    passOf (servedVisit (3 / 100)) (refusedVisit (3 / 100))

/-- With equal rates and two targets that both replay all the time, three rows
of the one device are published and none of the other. -/
theorem rotation_passes_over_device :
    let earlier := (passMachine equalRates).run ({ queue := emptyQueue }, { clock := 0 })
      firstPass
    let later := (passMachine equalRates).run earlier sameDeviceAgain
    equalRates.replayJitter = 0 ∧
    earlier.1.localToUpstreamPump.phase = .idle ∧
    sameDeviceAgain.head? = some (.pump .localToUpstream (.beginPass bothTargets)) ∧
    (passMachine equalRates).Meets (fun state action => staysReplaying "A" state action ∧
      staysReplaying "B" state action) earlier sameDeviceAgain ∧
    later.2.publishedSince earlier.2 "A" = 3 ∧ later.2.publishedSince earlier.2 "B" = 0 ∧
    ¬ |later.2.publishedSince earlier.2 "A" - later.2.publishedSince earlier.2 "B"| ≤
      (bothTargets.length : Int) := by
  refine ⟨rfl, by decide +kernel, rfl, by decide +kernel, by decide +kernel, by decide +kernel, ?_⟩
  decide +kernel

end Pump
end PetlibroRelay
