import Mathlib.Data.List.Chain
import PetlibroRelay.Pump.ReplayRates

namespace PetlibroRelay
namespace Pump

open Foundations
open Queue

/-!
# The replay rate of one device

The deadline of a device is dropped with its replay window whenever its backlog
is empty for a moment, its client looks disconnected or its target is missing.
What then keeps the device from sending at once is the settle delay of its next
window or the global deadline.  The rate of a device therefore holds exactly
when one of these two is at least as long as its own interval.
-/

/-! ## The invariant -/

/-- Recorded publishes of a device against its deadline or its window. -/
structure WithinDeviceRate (gap : Rat) (thread : PumpThread) (log : RateLog) : Prop where
  pairs : log.publishes.Pairwise (fun newer older =>
    newer.deviceId = older.deviceId -> Apart gap newer older)
  budget : forall publish recorded, publish ∈ log.publishes ->
    publish.recordedAt = some recorded ->
    (exists deadline, thread.deadline? publish.deviceId = some deadline ∧
      recorded + gap ≤ deadline) ∨
    (forall ready, thread.readyAt? publish.deviceId = some ready -> recorded + gap ≤ ready)
  admitted : forall visit message, thread.phase = .publishing visit message ->
    message.isLive = false -> forall publish, publish ∈ log.publishes ->
    visit.target.deviceId = publish.deviceId ->
    exists recorded, publish.recordedAt = some recorded ∧ recorded + gap ≤ log.admittedAt

theorem withinDeviceRate_initial (gap : Rat) : WithinDeviceRate gap {} {} where
  pairs := List.Pairwise.nil
  budget := fun _ _ absent => nomatch absent
  admitted := fun _ _ absent => nomatch absent

section DeviceSteps

variable {config : PumpConfig} {perDevice global gap : Rat} {thread after : PumpThread}
  {log : RateLog}

/-- What drops a window with its deadline or keeps both keeps the budgets. -/
theorem WithinDeviceRate.dropped (within : WithinDeviceRate gap thread log)
    (devices : forall deviceId, KeptOrDropped thread after deviceId)
    (publish : Replayed) (recorded : Rat) (member : publish ∈ log.publishes)
    (found : publish.recordedAt = some recorded) :
    (exists deadline, after.deadline? publish.deviceId = some deadline ∧
      recorded + gap ≤ deadline) ∨
    (forall ready, after.readyAt? publish.deviceId = some ready -> recorded + gap ≤ ready) := by
  rcases devices publish.deviceId with ⟨deadline, window⟩ | ⟨_, window⟩
  · rw [deadline, window]
    exact within.budget publish recorded member found
  · refine Or.inr ?_
    intro ready impossible
    rw [window] at impossible
    cases impossible

/-- The gate opens a window whose settle delay covers the gap. -/
theorem WithinDeviceRate.asked (within : WithinDeviceRate gap thread log)
    (clocked : WithinGlobalRate global thread log) {target : PumpTarget} {now : Rat}
    (covered : gap ≤ config.replayStartDelaySeconds) (forward : ClockForward log now)
    (changed : after.scheduler = (thread.scheduler.canSendReplay config target now).2)
    (publish : Replayed) (recorded : Rat) (member : publish ∈ log.publishes)
    (found : publish.recordedAt = some recorded) :
    (exists deadline, after.deadline? publish.deviceId = some deadline ∧
      recorded + gap ≤ deadline) ∨
    (forall ready, after.readyAt? publish.deviceId = some ready -> recorded + gap ≤ ready) := by
  rcases asked_timing changed with ⟨_, deadlines, windows⟩
  rw [deadlines publish.deviceId]
  rcases within.budget publish recorded member found with limited | settling
  · exact Or.inl limited
  · refine Or.inr ?_
    rcases windows publish.deviceId with same | ⟨_, opened⟩
    · rw [same]
      exact settling
    · intro ready there
      rw [opened] at there
      cases there
      have bound := ((clocked.clocked_ask forward member).2 recorded found).2
      linarith

/-- One step of the pump keeps the rate of every device, as long as the settle
delay covers the device interval. -/
theorem WithinDeviceRate.step (within : WithinDeviceRate (1 / perDevice) thread log)
    (clocked : WithinGlobalRate global thread log) {queue left : MessageQueue}
    {taken : PumpStep} (positive : 0 < perDevice)
    (perDeviceRate : config.replayRatePerDevice = some perDevice)
    (globalRate : config.replayRateGlobal = some global)
    (controlled : config.controlledReplayEnabled = true)
    (covered : 1 / perDevice ≤ config.replayStartDelaySeconds)
    (sound : SoundReadings log taken)
    (moved : step config thread queue taken = some (after, left)) :
    WithinDeviceRate (1 / perDevice) after (log.observe config thread taken) := by
  cases step_timing controlled moved with
  | admitted visit message now place passes arrived changed =>
      have budget := within.asked clocked covered sound changed
      refine ⟨within.pairs, budget, ?_⟩
      intro other held there _ publish member own
      rw [arrived] at there
      cases there
      rcases clocked.recorded (by rw [place]; rfl) (by rw [place]; exact nofun) member with
        ⟨recorded, found⟩
      refine ⟨recorded, found, ?_⟩
      rcases admitted_timing passes changed with ⟨_, passed, ready, opened, settled⟩
      rw [own] at passed opened
      rcases budget publish recorded member found with ⟨deadline, limit, bound⟩ | settling
      · rw [(asked_timing changed).2.1 publish.deviceId] at limit
        exact le_trans bound (passed deadline limit)
      · exact le_trans (settling ready opened) settled
  | refused visit message now place fails arrived changed =>
      refine ⟨within.pairs, within.asked clocked covered sound changed, ?_⟩
      intro other held impossible
      rw [arrived] at impossible
      cases impossible
  | confirmed visit message place arrived unchanged =>
      have same := fun deviceId => keptOrDropped_of_same (congrArg _ unchanged)
        (congrArg _ unchanged) deviceId
      have noPublish : forall other held, after.phase ≠ .publishing other held := by
        intro other held
        rw [arrived]
        exact nofun
      simp only [RateLog.observe, place]
      split
      · exact ⟨within.pairs, within.dropped same,
          fun other held impossible => absurd impossible (noPublish other held)⟩
      · next backlog =>
          refine ⟨List.pairwise_cons.mpr ⟨?_, within.pairs⟩, ?_,
            fun other held impossible => absurd impossible (noPublish other held)⟩
          · exact fun older member own => within.admitted visit message place
              (Bool.eq_false_iff.mpr backlog) older member own
          · intro publish recorded member found
            rcases List.mem_cons.mp member with itself | older
            · rw [itself] at found
              cases found
            · exact within.dropped same publish recorded older found
  | removed visit message place backlog arrived unchanged =>
      refine ⟨within.pairs, within.dropped (keptOrDropped_of_same (congrArg _ unchanged)
        (congrArg _ unchanged)), ?_⟩
      intro other held impossible
      rw [arrived] at impossible
      cases impossible
  | recorded visit now deviceRandom globalRandom place changed arrived =>
      rcases clocked.newest visit.target.deviceId (by rw [place]; rfl) (by rw [place]; rfl) with
        ⟨newest, older, publishes, own, _⟩
      rcases recorded_timing perDeviceRate globalRate changed with ⟨_, deadlines, windows⟩
      have interval := le_jitteredInterval config positive sound.2.1.1
      have pairs := within.pairs
      simp only [RateLog.observe, place, changed, publishes, List.modifyHead_cons]
      rw [publishes] at pairs
      have parts := List.pairwise_cons.mp pairs
      refine ⟨List.pairwise_cons.mpr ⟨fun publish member => parts.1 publish member, parts.2⟩,
        ?_, ?_⟩
      · intro publish recorded member found
        rw [deadlines publish.deviceId, windows publish.deviceId]
        rcases List.mem_cons.mp member with itself | earlier
        · rw [itself] at found ⊢
          cases found
          rw [if_pos own.symm]
          exact Or.inl ⟨_, rfl, by linarith⟩
        · have known : publish ∈ log.publishes := by
            rw [publishes]
            exact List.mem_cons_of_mem newest earlier
          split
          · have bound := ((clocked.clocked_ask sound.1 known).2 recorded found).2
            exact Or.inl ⟨_, rfl, by linarith⟩
          · exact within.budget publish recorded known found
      · intro other held impossible
        rw [arrived] at impossible
        cases impossible
  | raised visit now deviceRandom globalRandom place fails arrived unchanged =>
      simp only [RateLog.observe, place, fails]
      refine ⟨within.pairs, within.dropped (keptOrDropped_of_same (congrArg _ unchanged)
        (congrArg _ unchanged)), ?_⟩
      intro other held impossible
      rw [arrived] at impossible
      cases impossible
  | other taken untimed before running still live same devices =>
      rw [observe_untimed untimed]
      refine ⟨within.pairs, within.dropped devices, ?_⟩
      intro visit message arrived backlog
      rw [live visit message arrived] at backlog
      cases backlog

end DeviceSteps

/-! ## A run that sends early

One device and two backlog rows.  The second row arrives when the first has
been sent and its deadline dropped, so it waits for the settle delay and the
global deadline only. -/

/-- Timing without device deadlines. -/
def windowed (global : Rat) (window : Option ReplayProgress) : Scheduler where
  nextGlobalSendAt := global
  replayProgress := window.toList.map (fun progress => ("A", progress))

/-- The visit of the one target of a pass. -/
def replayVisit : Visit := ⟨replayTarget, 1, []⟩

/-- A state that is watched by a log, given by its queue and the one pump. -/
def watchedPump (queue : MessageQueue) (thread : PumpThread) (log : RateLog) : Core × RateLog :=
  ({ queue := queue, localToUpstreamPump := thread }, log)

/-- A step of the pump is a step of the machine. -/
theorem leads_pump {settings : ReplaySettings} {queue left : MessageQueue}
    {thread after : PumpThread} {log : RateLog} {taken : PumpStep}
    (sound : SoundReadings log taken)
    (moved : step (settings.pumpConfig .localToUpstream) thread queue taken =
      some (after, left)) :
    (rateMachine settings).Leads soundEnvironment (watchedPump queue thread log)
      [.pump .localToUpstream taken]
      (watchedPump left after
        (log.observe (settings.pumpConfig .localToUpstream) thread taken)) := by
  refine Machine.Leads.single sound ?_
  simp only [rateMachine, Machine.watched, coreMachine, watchedPump, Core.pump, moved,
    Option.map_some]
  rfl

theorem leads_enqueue (settings : ReplaySettings) (queue : MessageQueue) (thread : PumpThread)
    (log : RateLog) (call : EnqueueCall) (now : Rat) :
    (rateMachine settings).Leads soundEnvironment (watchedPump queue thread log)
      [.enqueue call now] (watchedPump (queue.enqueue call now).1 thread log) :=
  Machine.Leads.single trivial rfl

theorem leads_toGate (settings : ReplaySettings) {queue : MessageQueue} {global : Rat}
    {window : Option ReplayProgress} {delivered : Bool} {log : RateLog}
    {message : QueuedMessage}
    (found : queue.peekOldest "A" LOCAL_TO_UPSTREAM true = some message)
    (backlog : message.isLive = false) (fresh : message.maxAgeSeconds = none) :
    (rateMachine settings).Leads soundEnvironment
      (watchedPump queue ⟨windowed global window, .idle, delivered⟩ log) toGate
      (watchedPump queue ⟨windowed global window, .admitting replayVisit message, false⟩ log) := by
  have begun : step (settings.pumpConfig .localToUpstream)
      ⟨windowed global window, .idle, delivered⟩ queue (.beginPass [replayTarget]) =
      some (⟨windowed global window, .visiting [replayTarget], false⟩, queue) := by
    cases window <;>
      simp [step, windowed, Scheduler.rotatedTargets, Scheduler.forgetMissing, replayTarget,
        Dict.keys]
  have peeked : step (settings.pumpConfig .localToUpstream)
      ⟨windowed global window, .looping replayVisit, false⟩ queue .peek =
      some (⟨windowed global window, .examining replayVisit message, false⟩, queue) := by
    have there : queue.peekOldest replayVisit.target.deviceId
        (settings.pumpConfig .localToUpstream).direction
        (settings.pumpConfig .localToUpstream).controlledReplayEnabled = some message := found
    simp only [step, there]
  have examined : step (settings.pumpConfig .localToUpstream)
      ⟨windowed global window, .examining replayVisit message, false⟩ queue (.checkExpiry 0) =
      some (⟨windowed global window, .admitting replayVisit message, false⟩, queue) := by
    simp only [step, isExpired, fresh, backlog]
    rfl
  refine Machine.Leads.append (Machine.Leads.append (Machine.Leads.append
    (leads_pump trivial begun) (leads_pump trivial ?_)) (leads_pump trivial peeked))
    (leads_pump trivial examined)
  rfl

/-- The window that a question at the given time finds or opens. -/
def windowAt (settings : ReplaySettings) (window : Option ReplayProgress) (now : Rat) :
    ReplayProgress :=
  window.getD { scheduledAt := now, readyAt := now + settings.replayStartDelaySeconds }

theorem canSendReplay_windowed (settings : ReplaySettings) (global now : Rat)
    (window : Option ReplayProgress) :
    (windowed global window).canSendReplay (settings.pumpConfig .localToUpstream) replayTarget
        now =
      (decide ((windowAt settings window now).readyAt ≤ now ∧ 0 ≤ now ∧ global ≤ now),
        windowed global (some (windowAt settings window now))) := by
  have found : (Dict.get? (windowed global window).replayProgress replayTarget.deviceId).getD
      { scheduledAt := now, readyAt := now + settings.replayStartDelaySeconds } =
      windowAt settings window now := by
    cases window <;> rfl
  have stored : Dict.set (windowed global window).replayProgress replayTarget.deviceId
      (windowAt settings window now) = [("A", windowAt settings window now)] := by
    cases window <;> rfl
  refine Prod.ext ?_ ?_
  · refine Bool.eq_iff_iff.mpr ?_
    rw [Scheduler.canSendReplay_iff, decide_eq_true_eq]
    have settled := congrArg (fun progress : ReplayProgress => progress.readyAt ≤ now) found
    constructor
    · rintro ⟨_, ready, device, budget⟩
      exact ⟨settled.mp ready, device, budget⟩
    · rintro ⟨ready, device, budget⟩
      exact ⟨rfl, settled.mpr ready, device, budget⟩
  · have opened : { windowed global window with
        replayProgress := Dict.set (windowed global window).replayProgress replayTarget.deviceId
          ((Dict.get? (windowed global window).replayProgress replayTarget.deviceId).getD
            { scheduledAt := now, readyAt := now + settings.replayStartDelaySeconds }) } =
        windowed global (some (windowAt settings window now)) := by
      rw [found, stored]
      rfl
    have ready : replayTarget.replayReady = true := rfl
    rw [Scheduler.canSendReplay, if_pos ready]
    dsimp only
    split <;> exact opened

/-- The gate opens the window and refuses the row before its time. -/
theorem leads_refused (settings : ReplaySettings) (now : Rat) {queue : MessageQueue} {global : Rat}
    {window : Option ReplayProgress} {log : RateLog} {message : QueuedMessage}
    (forward : ClockForward log now)
    (early : ¬ ((windowAt settings window now).readyAt ≤ now ∧ 0 ≤ now ∧ global ≤ now)) :
    (rateMachine settings).Leads soundEnvironment
      (watchedPump queue ⟨windowed global window, .admitting replayVisit message, false⟩ log)
      ([.pump .localToUpstream (.askReplay now)] ++ [.pump .localToUpstream .endPass])
      (watchedPump queue ⟨windowed global (some (windowAt settings window now)), .idle, false⟩
        { log with latest := some now, admittedAt := now }) := by
  have asked : step (settings.pumpConfig .localToUpstream)
      ⟨windowed global window, .admitting replayVisit message, false⟩ queue (.askReplay now) =
      some (⟨windowed global (some (windowAt settings window now)), .visiting [], false⟩,
        queue) := by
    have answer := canSendReplay_windowed settings global now window
    rw [decide_eq_false early] at answer
    simp only [step, replayVisit, answer]
    rfl
  exact Machine.Leads.append (leads_pump forward asked) (leads_pump trivial rfl)

/-- The gate lets the row pass when it is time. -/
theorem leads_admitted (settings : ReplaySettings) (now : Rat) {queue : MessageQueue} {global : Rat}
    {window : Option ReplayProgress} {log : RateLog} {message : QueuedMessage}
    (forward : ClockForward log now)
    (passes : (windowAt settings window now).readyAt ≤ now ∧ 0 ≤ now ∧ global ≤ now) :
    (rateMachine settings).Leads soundEnvironment
      (watchedPump queue ⟨windowed global window, .admitting replayVisit message, false⟩ log)
      [.pump .localToUpstream (.askReplay now)]
      (watchedPump queue ⟨windowed global (some (windowAt settings window now)),
        .publishing replayVisit message, false⟩
        { log with latest := some now, admittedAt := now }) := by
  refine leads_pump forward ?_
  have answer := canSendReplay_windowed settings global now window
  rw [decide_eq_true passes] at answer
  simp only [step, replayVisit, answer]
  rfl

theorem jitteredInterval_zero (config : PumpConfig) (rate : Rat) :
    Scheduler.jitteredInterval config rate 0 = 1 / rate := by
  rw [Scheduler.jitteredInterval, zero_mul, add_zero, mul_one, ite_self]

theorem leads_confirmed (settings : ReplaySettings) {queue : MessageQueue} {global : Rat}
    {window : Option ReplayProgress} {log : RateLog} {message : QueuedMessage}
    (backlog : message.isLive = false) :
    (rateMachine settings).Leads soundEnvironment
      (watchedPump queue ⟨windowed global window, .publishing replayVisit message, false⟩ log)
      [.pump .localToUpstream (.publish .confirmed)]
      (watchedPump queue ⟨windowed global window, .removing replayVisit message, false⟩
        { log with publishes := ⟨"A", log.admittedAt, none⟩ :: log.publishes }) := by
  have noted : { log with publishes := ⟨"A", log.admittedAt, none⟩ :: log.publishes } =
      log.observe (settings.pumpConfig .localToUpstream)
        ⟨windowed global window, .publishing replayVisit message, false⟩
        (.publish .confirmed) := by
    simp only [RateLog.observe, backlog]
    rfl
  rw [noted]
  exact leads_pump trivial rfl

/-- The only backlog row is sent and recorded, which closes the window. -/
theorem leads_toRecord (settings : ReplaySettings) (now : Rat) {queue : MessageQueue} {global : Rat}
    {window : ReplayProgress} {log : RateLog} {message : QueuedMessage}
    (forward : ClockForward log now) (backlog : message.isLive = false)
    (last : (queue.remove message.id).backlogCount "A" LOCAL_TO_UPSTREAM = 0) :
    (rateMachine settings).Leads soundEnvironment
      (watchedPump queue ⟨windowed global (some window), .publishing replayVisit message, false⟩
        log)
      (toRecord now)
      (watchedPump (queue.remove message.id)
        ⟨windowed (now + 1 / settings.replayRateGlobal) none, .idle, true⟩
        { latest := some now
          admittedAt := log.admittedAt
          publishes := ⟨"A", log.admittedAt, some now⟩ :: log.publishes }) := by
  have recordedScheduler : (windowed global (some window)).recordReplaySent
      (settings.pumpConfig .localToUpstream) replayVisit.target now 0 0 =
      some { nextDeviceSendAt := [("A", now + 1 / settings.replayRatePerDevice)]
             nextGlobalSendAt := now + 1 / settings.replayRateGlobal
             replayProgress := [("A", { window with started := true, sent := window.sent + 1 })] } := by
    simp only [Scheduler.recordReplaySent, ReplaySettings.pumpConfig, jitteredInterval_zero]
    rfl
  have removed : step (settings.pumpConfig .localToUpstream)
      ⟨windowed global (some window), .removing replayVisit message, false⟩ queue
      .removeDelivered =
      some (⟨windowed global (some window), .recording replayVisit, true⟩,
        queue.remove message.id) := by
    simp only [step, backlog]
    rfl
  have recorded : step (settings.pumpConfig .localToUpstream)
      ⟨windowed global (some window), .recording replayVisit, true⟩ (queue.remove message.id)
      (.record now 0 0) = some
        (⟨{ nextDeviceSendAt := [("A", now + 1 / settings.replayRatePerDevice)]
            nextGlobalSendAt := now + 1 / settings.replayRateGlobal
            replayProgress := [("A", { window with started := true, sent := window.sent + 1 })] },
          .completing replayVisit, true⟩, queue.remove message.id) := by
    simp only [step, recordedScheduler]
  have completed : step (settings.pumpConfig .localToUpstream)
      ⟨{ nextDeviceSendAt := [("A", now + 1 / settings.replayRatePerDevice)]
         nextGlobalSendAt := now + 1 / settings.replayRateGlobal
         replayProgress := [("A", { window with started := true, sent := window.sent + 1 })] },
        .completing replayVisit, true⟩ (queue.remove message.id) .complete =
      some (⟨windowed (now + 1 / settings.replayRateGlobal) none, .visiting [], true⟩,
        queue.remove message.id) := by
    have empty : (queue.remove message.id).backlogCount replayVisit.target.deviceId
        (settings.pumpConfig .localToUpstream).direction = 0 := last
    simp only [step, Scheduler.completeReplayIfNeeded, empty]
    rfl
  have noted : (RateLog.observe (settings.pumpConfig .localToUpstream)
      { latest := log.latest, admittedAt := log.admittedAt,
        publishes := ⟨"A", log.admittedAt, none⟩ :: log.publishes }
      ⟨windowed global (some window), .recording replayVisit, true⟩ (.record now 0 0)) =
      { latest := some now, admittedAt := log.admittedAt,
        publishes := ⟨"A", log.admittedAt, some now⟩ :: log.publishes } := by
    simp only [RateLog.observe, recordedScheduler, List.modifyHead_cons]
  have sound : SoundReadings
      { latest := log.latest, admittedAt := log.admittedAt,
        publishes := ⟨"A", log.admittedAt, none⟩ :: log.publishes } (.record now 0 0) :=
    ⟨forward, ⟨le_refl _, zero_le_one⟩, le_refl _, zero_le_one⟩
  refine Machine.Leads.append (Machine.Leads.append (Machine.Leads.append (Machine.Leads.append
    (leads_confirmed settings backlog) (leads_pump trivial removed)) ?_)
    (leads_pump trivial completed)) (leads_pump trivial rfl)
  rw [← noted]
  exact leads_pump sound recorded

/-- The database after each of the two inserts. -/
def firstQueue : MessageQueue := (emptyQueue.enqueue replayCall 0).1

def secondQueue : MessageQueue := ((firstQueue.remove 1).enqueue replayCall 0).1

def replayRow (id : Nat) : QueuedMessage := queuedMessage (id, replayCall.row 0)

/-- The first row is admitted when the settle delay has passed. -/
theorem first_row_admitted (settings : ReplaySettings) :
    exists actions, (rateMachine settings).Leads soundEnvironment (watchedPump emptyQueue {} {})
      actions (watchedPump firstQueue
        ⟨windowed 0 (some { scheduledAt := 0, readyAt := settings.replayStartDelaySeconds }),
          .publishing replayVisit (replayRow 1), false⟩
        { latest := some settings.replayStartDelaySeconds
          admittedAt := settings.replayStartDelaySeconds }) := by
  have found : firstQueue.peekOldest "A" LOCAL_TO_UPSTREAM true = some (replayRow 1) := by
    decide +kernel
  have opened : windowAt settings none 0 =
      { scheduledAt := 0, readyAt := settings.replayStartDelaySeconds } := by
    rw [windowAt, Option.getD_none, zero_add]
  have arrived := (leads_enqueue settings emptyQueue ⟨windowed 0 none, .idle, false⟩ {} replayCall
    0).append (leads_toGate settings found rfl rfl)
  have nonneg := settings.delay_nonneg
  by_cases instant : settings.replayStartDelaySeconds = 0
  · have admitted := arrived.append (leads_admitted settings 0
      (fun _ impossible => nomatch impossible)
      ⟨by rw [opened]; exact le_of_eq instant, le_refl _, le_refl _⟩)
    rw [opened] at admitted
    rw [instant] at admitted ⊢
    exact ⟨_, admitted⟩
  · have early : ¬ ((windowAt settings none 0).readyAt ≤ 0 ∧ (0 : Rat) ≤ 0 ∧ (0 : Rat) ≤ 0) := by
      rw [opened]
      intro passes
      exact instant (le_antisymm passes.1 nonneg)
    have waited := (arrived.append (leads_refused settings 0
      (fun _ impossible => nomatch impossible) early)).append (leads_toGate settings found rfl rfl)
    have admitted := waited.append (leads_admitted settings settings.replayStartDelaySeconds
      (fun earlier same => Option.some.inj same ▸ nonneg)
      ⟨by rw [opened]; exact le_refl _, nonneg, nonneg⟩)
    rw [opened] at admitted
    exact ⟨_, admitted⟩

/-- The second row is confirmed after the longer of settle delay and global
interval. -/
theorem second_row_confirmed (settings : ReplaySettings) :
    exists actions state, (rateMachine settings).Leads soundEnvironment
      (watchedPump emptyQueue {} {}) actions state ∧
      state.2.publishes =
        [⟨"A", settings.replayStartDelaySeconds + max settings.replayStartDelaySeconds
            (1 / settings.replayRateGlobal), none⟩,
          ⟨"A", settings.replayStartDelaySeconds, some settings.replayStartDelaySeconds⟩] := by
  rcases first_row_admitted settings with ⟨actions, admitted⟩
  have nonneg := settings.delay_nonneg
  have interval : 0 < 1 / settings.replayRateGlobal := one_div_pos.mpr settings.global_pos
  have last : (firstQueue.remove (replayRow 1).id).backlogCount "A" LOCAL_TO_UPSTREAM = 0 := by
    decide +kernel
  have found : secondQueue.peekOldest "A" LOCAL_TO_UPSTREAM true = some (replayRow 2) := by
    decide +kernel
  have recorded := admitted.append (leads_toRecord settings settings.replayStartDelaySeconds
    (fun earlier same => le_of_eq (Option.some.inj same).symm) rfl last)
  have arrived := (recorded.append (leads_enqueue settings _ _ _ replayCall 0)).append
    (leads_toGate settings found rfl rfl)
  have early : ¬ ((windowAt settings none settings.replayStartDelaySeconds).readyAt ≤
      settings.replayStartDelaySeconds ∧ 0 ≤ settings.replayStartDelaySeconds ∧
      settings.replayStartDelaySeconds + 1 / settings.replayRateGlobal ≤
        settings.replayStartDelaySeconds) := by
    intro passes
    linarith [passes.2.2]
  have waited := (arrived.append (leads_refused settings settings.replayStartDelaySeconds
    (fun earlier same => le_of_eq (Option.some.inj same).symm) early)).append
    (leads_toGate settings found rfl rfl)
  have delayBound := le_max_left settings.replayStartDelaySeconds (1 / settings.replayRateGlobal)
  have globalBound := le_max_right settings.replayStartDelaySeconds
    (1 / settings.replayRateGlobal)
  have second := waited.append (leads_admitted settings
    (settings.replayStartDelaySeconds + max settings.replayStartDelaySeconds
      (1 / settings.replayRateGlobal)) ?_ ⟨?_, ?_, ?_⟩)
  · exact ⟨_, _, second.append (leads_confirmed settings rfl), rfl⟩
  · intro earlier same
    cases same
    linarith
  · exact add_le_add_right delayBound settings.replayStartDelaySeconds
  · linarith
  · linarith

/-! ## The exact condition -/

/-- Both rates of the device-to-cloud pump are kept. -/
def RatesKept (settings : ReplaySettings) (state : Core × RateLog) : Prop :=
  GlobalRateKept settings state ∧
    WithinDeviceRate (1 / settings.replayRatePerDevice) state.1.localToUpstreamPump state.2

theorem ratesKept_step {settings : ReplaySettings} {state after : Core × RateLog}
    {action : CoreAction}
    (covered : 1 / settings.replayRatePerDevice ≤ settings.replayStartDelaySeconds)
    (kept : RatesKept settings state) (sound : soundEnvironment state action)
    (moved : (rateMachine settings).step state action = some after) :
    RatesKept settings after := by
  refine ⟨globalRateKept_step kept.1 sound moved, ?_⟩
  rcases rateMachine_cases moved with ⟨taken, left, rfl, pumped, noted⟩ | ⟨thread, noted⟩ |
    ⟨thread, noted⟩
  · rw [noted]
    exact kept.2.step kept.1 settings.perDevice_pos rfl rfl rfl covered sound pumped
  · rw [thread, noted]
    exact kept.2
  · rw [thread, noted]
    exact withinDeviceRate_initial _

/-- The publishes of one device keep its interval, if every pair of publishes
of one device does. -/
theorem isChain_of_pairs {gap : Rat} {publishes : List Replayed}
    (pairs : publishes.Pairwise (fun newer older =>
      newer.deviceId = older.deviceId -> Apart gap newer older)) (deviceId : String) :
    (publishes.filter (fun publish => decide (publish.deviceId = deviceId))).IsChain
      (Apart gap) := by
  refine List.Pairwise.isChain ?_
  refine (pairs.filter _).imp_of_mem ?_
  intro newer older newerMember olderMember apart
  have newerOwn := of_decide_eq_true (List.mem_filter.mp newerMember).2
  have olderOwn := of_decide_eq_true (List.mem_filter.mp olderMember).2
  exact apart (newerOwn.trans olderOwn.symm)

/-- For a configuration, every run with a clock that does not go back and
random numbers of the unit interval keeps the interval of each device between
the record of one of its confirmed backlog publishes and the admission of the
next, if and only if that interval is at most the settle delay or at most the
global interval. -/
theorem device_replay_rate_iff (settings : ReplaySettings) :
    (forall (queue : MessageQueue) (actions : List CoreAction),
      (rateMachine settings).Meets soundEnvironment ({ queue := queue }, {}) actions ->
      forall deviceId,
        ((((rateMachine settings).run ({ queue := queue }, {}) actions).2.publishes).filter
          (fun publish => decide (publish.deviceId = deviceId))).IsChain
            (Apart (1 / settings.replayRatePerDevice))) ↔
    1 / settings.replayRatePerDevice ≤ settings.replayStartDelaySeconds ∨
      1 / settings.replayRatePerDevice ≤ 1 / settings.replayRateGlobal := by
  constructor
  · intro holds
    rcases second_row_confirmed settings with ⟨actions, state, leads, publishes⟩
    have chain := holds emptyQueue actions leads.1 "A"
    have reached : (rateMachine settings).run ({ queue := emptyQueue }, {}) actions = state :=
      leads.2
    rw [reached, publishes] at chain
    rcases List.isChain_pair.mp chain with ⟨recorded, same, bound⟩
    cases same
    rw [add_le_add_iff_left, le_max_iff] at bound
    exact bound
  · rintro (covered | dominated) queue actions sound deviceId
    · have kept : RatesKept settings
          ((rateMachine settings).run ({ queue := queue }, {}) actions) :=
        Machine.run_invariant_of_meets _ soundEnvironment (RatesKept settings)
          (fun _ _ _ kept sound moved => ratesKept_step covered kept sound moved) _ actions
          ⟨withinGlobalRate_initial _, withinDeviceRate_initial _⟩ sound
      exact isChain_of_pairs kept.2.pairs deviceId
    · have kept := globalRateKept_run sound
      refine isChain_of_pairs (kept.pairs.imp ?_) deviceId
      intro newer older apart _
      rcases apart with ⟨recorded, found, bound⟩
      exact ⟨recorded, found, by linarith⟩

/-- Without a settle delay the second row of the device is admitted half a
second after the record of the first, where its rate of one row per second asks
for a whole one. -/
theorem second_row_sent_early :
    (rateMachine instantSettings).Meets soundEnvironment ({ queue := emptyQueue }, {})
      twoRows ∧
    ¬ ((((rateMachine instantSettings).run ({ queue := emptyQueue }, {})
        twoRows).2.publishes).filter
          (fun publish => decide (publish.deviceId = "A"))).IsChain
            (Apart (1 / instantSettings.replayRatePerDevice)) := by
  refine ⟨by decide +kernel, ?_⟩
  have publishes : ((rateMachine instantSettings).run ({ queue := emptyQueue }, {})
      twoRows).2.publishes = [⟨"A", 1 / 2, none⟩, ⟨"A", 0, some 0⟩] := by
    decide +kernel
  rw [publishes]
  intro chain
  rcases List.isChain_pair.mp chain with ⟨recorded, same, bound⟩
  cases same
  exact absurd bound (by decide +kernel)

end Pump
end PetlibroRelay
