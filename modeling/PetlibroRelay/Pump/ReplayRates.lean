import PetlibroRelay.Foundations.Spacing
import PetlibroRelay.Pump.SharedQueue
import PetlibroRelay.Pump.Timing

namespace PetlibroRelay
namespace Pump

open Foundations
open Queue

/-!
# The global replay rate

A confirmed backlog publish is recorded after it was admitted, and recording it
moves the global deadline.  Sessions end, backlogs run empty and targets come
and go, and each of these resets the timing of a device, but none takes the
global deadline back.  So the global rate holds in every run.
-/

/-- One confirmed backlog publish: when its row passed the gate and when it was
recorded, if it already was. -/
structure Replayed where
  deviceId : String
  admittedAt : Rat
  recordedAt : Option Rat
  deriving DecidableEq, Repr

/-- The confirmed backlog publishes, newest first, with the last answered
question to the gate and the last clock reading. -/
structure RateLog where
  latest : Option Rat := none
  admittedAt : Rat := 0
  publishes : List Replayed := []

/-- What a step of the device-to-cloud pump adds to the log. -/
def RateLog.observe (config : PumpConfig) (log : RateLog) (thread : PumpThread) :
    PumpStep -> RateLog
  | .askReplay now => { log with latest := some now, admittedAt := now }
  | .publish .confirmed =>
      match thread.phase with
      | .publishing visit message =>
          if message.isLive then log
          else { log with publishes := ⟨visit.target.deviceId, log.admittedAt, none⟩ ::
            log.publishes }
      | _ => log
  | .record now deviceRandom globalRandom =>
      match thread.phase with
      | .recording visit =>
          match thread.scheduler.recordReplaySent config visit.target now deviceRandom
              globalRandom with
          | none => { log with latest := some now }
          | some _ =>
              { log with
                latest := some now
                publishes := log.publishes.modifyHead
                  (fun newest => { newest with recordedAt := some now }) }
      | _ => log
  | _ => log

/-- What an action adds to the log.  A restart begins a new pump. -/
def observeRates (settings : ReplaySettings) (log : RateLog) (core : Core) :
    CoreAction -> RateLog
  | .pump .localToUpstream taken =>
      log.observe (settings.pumpConfig .localToUpstream) core.localToUpstreamPump taken
  | .restart => {}
  | _ => log

/-- Queue and pumps, watched by the log of replay times. -/
def rateMachine (settings : ReplaySettings) : Machine (Core × RateLog) CoreAction :=
  (coreMachine settings).watched (observeRates settings)

/-- The clock of the gate and of the record never goes back. -/
def ClockForward (log : RateLog) (now : Rat) : Prop :=
  forall earlier, log.latest = some earlier -> earlier ≤ now

instance (log : RateLog) (now : Rat) : Decidable (ClockForward log now) :=
  decidable_of_iff (log.latest.all (fun earlier => decide (earlier ≤ now)) = true) (by
    rw [ClockForward]
    cases log.latest with
    | none => exact ⟨fun _ _ impossible => (nomatch impossible), fun _ => rfl⟩
    | some value =>
        rw [Option.all_some, decide_eq_true_eq]
        exact ⟨fun bound _ same => Option.some.inj same ▸ bound, fun bound => bound value rfl⟩)

/-- What the environment supplies to a step: a clock that does not go back and
random numbers of the unit interval. -/
def SoundReadings (log : RateLog) : PumpStep -> Prop
  | .askReplay now => ClockForward log now
  | .record now deviceRandom globalRandom =>
      ClockForward log now ∧ (0 ≤ deviceRandom ∧ deviceRandom ≤ 1) ∧
        (0 ≤ globalRandom ∧ globalRandom ≤ 1)
  | _ => True

/-- The same for the actions of the whole machine. -/
def soundEnvironment (state : Core × RateLog) : CoreAction -> Prop
  | .pump .localToUpstream taken => SoundReadings state.2 taken
  | _ => True

instance soundReadingsDecidable (log : RateLog) :
    (taken : PumpStep) -> Decidable (SoundReadings log taken)
  | .askReplay now => inferInstanceAs (Decidable (ClockForward log now))
  | .record now deviceRandom globalRandom =>
      inferInstanceAs (Decidable (ClockForward log now ∧ (0 ≤ deviceRandom ∧ deviceRandom ≤ 1) ∧
        (0 ≤ globalRandom ∧ globalRandom ≤ 1)))
  | .beginPass _ => isTrue trivial
  | .endPass => isTrue trivial
  | .checkConnected _ => isTrue trivial
  | .demote => isTrue trivial
  | .peek => isTrue trivial
  | .checkExpiry _ => isTrue trivial
  | .removeExpired => isTrue trivial
  | .publish _ => isTrue trivial
  | .removeDelivered => isTrue trivial
  | .complete => isTrue trivial
  | .stop => isTrue trivial

instance soundEnvironmentDecidable (state : Core × RateLog) :
    (action : CoreAction) -> Decidable (soundEnvironment state action)
  | .pump .localToUpstream taken => inferInstanceAs (Decidable (SoundReadings state.2 taken))
  | .pump .upstreamToLocal _ => isTrue trivial
  | .enqueue _ _ => isTrue trivial
  | .restart => isTrue trivial

/-- The older publish is recorded, and the newer one was admitted at least the
gap after that. -/
def Apart (gap : Rat) (newer older : Replayed) : Prop :=
  exists recorded, older.recordedAt = some recorded ∧ recorded + gap ≤ newer.admittedAt

/-! ## The global rate -/

/-- Recorded publishes, the row behind the gate and the global deadline. -/
structure WithinGlobalRate (global : Rat) (thread : PumpThread) (log : RateLog) : Prop where
  pairs : log.publishes.Pairwise (Apart (1 / global))
  budget : forall publish recorded, publish ∈ log.publishes ->
    publish.recordedAt = some recorded ->
    recorded + 1 / global ≤ thread.scheduler.nextGlobalSendAt
  settled : forall publish, publish ∈ log.publishes -> publish.recordedAt = none ->
    thread.phase.unrecorded = true ∨ thread.phase = .ended
  admitted : forall visit message, thread.phase = .publishing visit message ->
    message.isLive = false ->
    thread.scheduler.nextGlobalSendAt ≤ log.admittedAt ∧ log.latest = some log.admittedAt
  newest : forall deviceId, thread.phase.unrecorded = true ->
    thread.phase.device? = some deviceId ->
    exists publish rest, log.publishes = publish :: rest ∧ publish.deviceId = deviceId ∧
      publish.recordedAt = none
  clocked : forall publish, publish ∈ log.publishes -> exists latest,
    log.latest = some latest ∧ publish.admittedAt ≤ latest ∧
      forall recorded, publish.recordedAt = some recorded ->
        publish.admittedAt ≤ recorded ∧ recorded ≤ latest

theorem withinGlobalRate_initial (global : Rat) : WithinGlobalRate global {} {} where
  pairs := List.Pairwise.nil
  budget := fun _ _ absent => nomatch absent
  settled := fun _ absent => nomatch absent
  admitted := fun _ _ absent => nomatch absent
  newest := fun _ absent => nomatch absent
  clocked := fun _ absent => nomatch absent

theorem observe_untimed {config : PumpConfig} {log : RateLog} {thread : PumpThread}
    {taken : PumpStep} (untimed : taken.untimed = true) :
    log.observe config thread taken = log := by
  cases taken with
  | publish outcome => cases outcome <;> first | rfl | cases untimed
  | askReplay now => cases untimed
  | record now deviceRandom globalRandom => cases untimed
  | _ => rfl

section Steps

variable {config : PumpConfig} {perDevice global : Rat} {thread after : PumpThread}
  {log : RateLog}

/-- Every publish is recorded unless one is on its way. -/
theorem WithinGlobalRate.recorded (within : WithinGlobalRate global thread log)
    (before : thread.phase.unrecorded = false) (running : thread.phase ≠ .ended)
    {publish : Replayed} (member : publish ∈ log.publishes) :
    exists recorded, publish.recordedAt = some recorded := by
  cases found : publish.recordedAt with
  | some recorded => exact ⟨recorded, rfl⟩
  | none =>
      rcases within.settled publish member found with unrecorded | ended
      · rw [before] at unrecorded
        cases unrecorded
      · exact absurd ended running

/-- Asking the gate moves the clock and nothing else. -/
theorem WithinGlobalRate.clocked_ask (within : WithinGlobalRate global thread log) {now : Rat}
    (forward : ClockForward log now) {publish : Replayed} (member : publish ∈ log.publishes) :
    publish.admittedAt ≤ now ∧ forall recorded, publish.recordedAt = some recorded ->
      publish.admittedAt ≤ recorded ∧ recorded ≤ now := by
  rcases within.clocked publish member with ⟨latest, known, admitted, recorded⟩
  have bound := forward latest known
  exact ⟨le_trans admitted bound, fun time found =>
    ⟨(recorded time found).1, le_trans (recorded time found).2 bound⟩⟩

/-- Passing or failing at the gate keeps the global rate. -/
theorem WithinGlobalRate.asked (within : WithinGlobalRate global thread log) {visit : Visit}
    {message : QueuedMessage} {now : Rat} (forward : ClockForward log now)
    (place : thread.phase = .admitting visit message)
    (changed : after.scheduler = (thread.scheduler.canSendReplay config visit.target now).2)
    (quiet : after.phase.unrecorded = false)
    (gate : forall other held, after.phase = .publishing other held ->
      thread.scheduler.nextGlobalSendAt ≤ now) :
    WithinGlobalRate global after { log with latest := some now, admittedAt := now } := by
  have same := (asked_timing changed).1
  refine ⟨within.pairs, ?_, ?_, ?_, ?_, ?_⟩
  · rw [same]
    exact within.budget
  · intro publish member unrecorded
    rcases within.settled publish member unrecorded with impossible | impossible <;>
      rw [place] at impossible <;> cases impossible
  · intro other held arrived _
    rw [same]
    exact ⟨gate other held arrived, rfl⟩
  · intro deviceId impossible
    rw [quiet] at impossible
    cases impossible
  · intro publish member
    exact ⟨now, rfl, within.clocked_ask forward member⟩

/-- A confirmed backlog publish becomes the newest entry, past the budget of
every recorded one. -/
theorem WithinGlobalRate.confirmed (within : WithinGlobalRate global thread log) {visit : Visit}
    {message : QueuedMessage} (place : thread.phase = .publishing visit message)
    (arrived : after.phase = .removing visit message)
    (unchanged : after.scheduler = thread.scheduler) :
    WithinGlobalRate global after (log.observe config thread (.publish .confirmed)) := by
  have before : thread.phase.unrecorded = false := by rw [place]; rfl
  have running : thread.phase ≠ .ended := by rw [place]; exact nofun
  have noPublish : forall other held, after.phase ≠ .publishing other held := by
    intro other held
    rw [arrived]
    exact nofun
  simp only [RateLog.observe, place]
  split
  · next live =>
      refine ⟨within.pairs, ?_, ?_, ?_, ?_, within.clocked⟩
      · rw [unchanged]
        exact within.budget
      · intro publish member unrecorded
        rcases within.recorded before running member with ⟨recorded, found⟩
        rw [found] at unrecorded
        cases unrecorded
      · intro other held impossible
        exact absurd impossible (noPublish other held)
      · intro deviceId impossible
        rw [arrived, Phase.unrecorded, live] at impossible
        cases impossible
  · next backlog =>
      have backlog : message.isLive = false := Bool.eq_false_iff.mpr backlog
      rcases within.admitted visit message place backlog with ⟨gate, latest⟩
      refine ⟨?_, ?_, ?_, ?_, ?_, ?_⟩
      · refine List.pairwise_cons.mpr ⟨?_, within.pairs⟩
        intro older member
        rcases within.recorded before running member with ⟨recorded, found⟩
        exact ⟨recorded, found, le_trans (within.budget older recorded member found) gate⟩
      · intro publish recorded member found
        rw [unchanged]
        rcases List.mem_cons.mp member with itself | older
        · rw [itself] at found
          cases found
        · exact within.budget publish recorded older found
      · intro publish member unrecorded
        rw [arrived, Phase.unrecorded, backlog]
        exact Or.inl rfl
      · intro other held impossible
        exact absurd impossible (noPublish other held)
      · intro deviceId _ device
        rw [arrived] at device
        exact ⟨_, log.publishes, rfl, Option.some.inj device, rfl⟩
      · intro publish member
        rcases List.mem_cons.mp member with itself | older
        · rw [itself]
          exact ⟨log.admittedAt, latest, le_refl _, fun _ impossible => nomatch impossible⟩
        · exact within.clocked publish older

/-- Recording moves the global deadline past every recorded time. -/
theorem WithinGlobalRate.record (within : WithinGlobalRate global thread log) {visit : Visit}
    {now deviceRandom globalRandom : Rat} (positive : 0 < global)
    (perDeviceRate : config.replayRatePerDevice = some perDevice)
    (globalRate : config.replayRateGlobal = some global)
    (forward : ClockForward log now) (nonneg : 0 ≤ globalRandom)
    (place : thread.phase = .recording visit)
    (changed : thread.scheduler.recordReplaySent config visit.target now deviceRandom
      globalRandom = some after.scheduler)
    (arrived : after.phase = .completing visit) :
    WithinGlobalRate global after
      (log.observe config thread (.record now deviceRandom globalRandom)) := by
  rcases within.newest visit.target.deviceId (by rw [place]; rfl) (by rw [place]; rfl) with
    ⟨newest, older, publishes, _, unrecorded⟩
  have deadline := (recorded_timing perDeviceRate globalRate changed).1
  have interval := le_jitteredInterval config positive nonneg
  have pairs := within.pairs
  simp only [RateLog.observe, place, changed, publishes, List.modifyHead_cons]
  rw [publishes] at pairs
  have known : forall publish, publish ∈ older -> publish ∈ log.publishes := by
    intro publish member
    rw [publishes]
    exact List.mem_cons_of_mem newest member
  refine ⟨?_, ?_, ?_, ?_, ?_, ?_⟩
  · have parts := List.pairwise_cons.mp pairs
    exact List.pairwise_cons.mpr ⟨fun publish member => parts.1 publish member, parts.2⟩
  · intro publish recorded member found
    rw [deadline]
    rcases List.mem_cons.mp member with itself | earlier
    · rw [itself] at found
      cases found
      linarith
    · have bound := ((within.clocked_ask forward (known publish earlier)).2 recorded found).2
      linarith
  · intro publish member missing
    rcases List.mem_cons.mp member with itself | earlier
    · rw [itself] at missing
      cases missing
    · rcases (List.pairwise_cons.mp pairs).1 publish earlier with ⟨recorded, found, _⟩
      rw [missing] at found
      cases found
  · intro other held impossible
    rw [arrived] at impossible
    cases impossible
  · intro deviceId impossible
    rw [arrived] at impossible
    cases impossible
  · intro publish member
    rcases List.mem_cons.mp member with itself | earlier
    · have bound := (within.clocked_ask forward
        (publishes ▸ List.mem_cons_self : newest ∈ log.publishes)).1
      rw [itself]
      refine ⟨now, rfl, bound, ?_⟩
      intro recorded found
      cases found
      exact ⟨bound, le_refl _⟩
    · exact ⟨now, rfl, within.clocked_ask forward (known publish earlier)⟩

/-- One step of the pump keeps the global rate. -/
theorem WithinGlobalRate.step (within : WithinGlobalRate global thread log)
    {queue left : MessageQueue} {taken : PumpStep} (positive : 0 < global)
    (perDeviceRate : config.replayRatePerDevice = some perDevice)
    (globalRate : config.replayRateGlobal = some global)
    (controlled : config.controlledReplayEnabled = true) (sound : SoundReadings log taken)
    (moved : step config thread queue taken = some (after, left)) :
    WithinGlobalRate global after (log.observe config thread taken) := by
  cases step_timing controlled moved with
  | admitted visit message now place passes arrived changed =>
      refine within.asked sound place changed (by rw [arrived]; rfl) ?_
      intro _ _ _
      exact (admitted_timing passes changed).1
  | refused visit message now place fails arrived changed =>
      refine within.asked sound place changed (by rw [arrived]; rfl) ?_
      intro other held impossible
      rw [arrived] at impossible
      cases impossible
  | confirmed visit message place arrived unchanged =>
      exact within.confirmed place arrived unchanged
  | removed visit message place backlog arrived unchanged =>
      have way : thread.phase.unrecorded = true := by
        rw [place, Phase.unrecorded, backlog]
        rfl
      refine ⟨within.pairs, unchanged ▸ within.budget, ?_, ?_, ?_, within.clocked⟩
      · intro publish member missing
        rw [arrived]
        exact Or.inl rfl
      · intro other held impossible
        rw [arrived] at impossible
        cases impossible
      · intro deviceId _ device
        refine within.newest deviceId way ?_
        rw [place]
        rw [arrived] at device
        exact device
  | recorded visit now deviceRandom globalRandom place changed arrived =>
      exact within.record positive perDeviceRate globalRate sound.1 sound.2.2.1 place changed
        arrived
  | raised visit now deviceRandom globalRandom place fails arrived unchanged =>
      simp only [RateLog.observe, place, fails]
      refine ⟨within.pairs, unchanged ▸ within.budget, ?_, ?_, ?_, ?_⟩
      · intro publish member missing
        exact Or.inr arrived
      · intro other held impossible
        rw [arrived] at impossible
        cases impossible
      · intro deviceId impossible
        rw [arrived] at impossible
        cases impossible
      · intro publish member
        exact ⟨now, rfl, within.clocked_ask sound.1 member⟩
  | other taken untimed before running still live same devices =>
      rw [observe_untimed untimed]
      refine ⟨within.pairs, same ▸ within.budget, ?_, ?_, ?_, within.clocked⟩
      · intro publish member missing
        rcases within.recorded before running member with ⟨recorded, found⟩
        rw [missing] at found
        cases found
      · intro visit message arrived backlog
        rw [live visit message arrived] at backlog
        cases backlog
      · intro deviceId impossible
        rw [still] at impossible
        cases impossible

end Steps

/-- The device-to-cloud pump of a state keeps the global rate. -/
def GlobalRateKept (settings : ReplaySettings) (state : Core × RateLog) : Prop :=
  WithinGlobalRate settings.replayRateGlobal state.1.localToUpstreamPump state.2

/-- An action that is no step of the device-to-cloud pump leaves that pump and
its log alone, or is a restart. -/
theorem rateMachine_cases {settings : ReplaySettings} {state after : Core × RateLog}
    {action : CoreAction} (moved : (rateMachine settings).step state action = some after) :
    (exists taken left, action = .pump .localToUpstream taken ∧
      step (settings.pumpConfig .localToUpstream) state.1.localToUpstreamPump state.1.queue
        taken = some (after.1.localToUpstreamPump, left) ∧
      after.2 = state.2.observe (settings.pumpConfig .localToUpstream)
        state.1.localToUpstreamPump taken) ∨
    (after.1.localToUpstreamPump = state.1.localToUpstreamPump ∧ after.2 = state.2) ∨
    (after.1.localToUpstreamPump = {} ∧ after.2 = {}) := by
  rcases Machine.watched_step moved with ⟨stepped, noted⟩
  rcases coreMachine_localToUpstream stepped with ⟨taken, left, rfl, pumped⟩ |
    ⟨still, other⟩ | ⟨fresh, rfl⟩
  · exact Or.inl ⟨taken, left, rfl, pumped, noted⟩
  · refine Or.inr (Or.inl ⟨still, ?_⟩)
    rcases other with ⟨call, now, rfl⟩ | ⟨taken, rfl⟩ <;> exact noted
  · exact Or.inr (Or.inr ⟨fresh, noted⟩)

theorem globalRateKept_step {settings : ReplaySettings} {state after : Core × RateLog}
    {action : CoreAction} (kept : GlobalRateKept settings state)
    (sound : soundEnvironment state action)
    (moved : (rateMachine settings).step state action = some after) :
    GlobalRateKept settings after := by
  rw [GlobalRateKept]
  rcases rateMachine_cases moved with ⟨taken, left, rfl, pumped, noted⟩ | ⟨thread, noted⟩ |
    ⟨thread, noted⟩
  · rw [noted]
    exact kept.step settings.global_pos rfl rfl rfl sound pumped
  · rw [thread, noted]
    exact kept
  · rw [thread, noted]
    exact withinGlobalRate_initial _

theorem globalRateKept_run {settings : ReplaySettings} {queue : MessageQueue}
    {actions : List CoreAction}
    (sound : (rateMachine settings).Meets soundEnvironment ({ queue := queue }, {}) actions) :
    GlobalRateKept settings ((rateMachine settings).run ({ queue := queue }, {}) actions) :=
  Machine.run_invariant_of_meets _ soundEnvironment (GlobalRateKept settings)
    (fun _ _ _ kept sound moved => globalRateKept_step kept sound moved) _ actions
    (withinGlobalRate_initial _) sound

/-- In every run whose clock does not go back and whose random numbers lie in
the unit interval, any two confirmed backlog publishes of whatever devices keep
the global interval between the record of the older and the admission of the
newer, and a window of any length holds at most one admission more than the
rate allows for that length.  A publish that is rejected or times out is not
recorded and is not counted. -/
theorem global_replay_rate (settings : ReplaySettings) (queue : MessageQueue)
    (actions : List CoreAction)
    (sound : (rateMachine settings).Meets soundEnvironment ({ queue := queue }, {}) actions) :
    let publishes := ((rateMachine settings).run ({ queue := queue }, {}) actions).2.publishes
    publishes.Pairwise (Apart (1 / settings.replayRateGlobal)) ∧
    forall start span : Rat, 0 ≤ span ->
      ((publishes.filter (fun publish => decide (start ≤ publish.admittedAt ∧
        publish.admittedAt ≤ start + span))).length : Rat) ≤
          1 + span * settings.replayRateGlobal := by
  intro publishes
  have kept := globalRateKept_run sound
  have spaced : publishes.Pairwise (fun newer older =>
      older.admittedAt + 1 / settings.replayRateGlobal ≤ newer.admittedAt) := by
    refine kept.pairs.imp_of_mem ?_
    intro newer older _ member apart
    rcases apart with ⟨recorded, found, gap⟩
    rcases kept.clocked older member with ⟨latest, _, _, order⟩
    linarith [(order recorded found).1]
  refine ⟨kept.pairs, ?_⟩
  intro start span nonneg
  have times : Spaced (1 / settings.replayRateGlobal)
      ((publishes.filter (fun publish => decide (start ≤ publish.admittedAt ∧
        publish.admittedAt ≤ start + span))).map Replayed.admittedAt) := by
    rw [Spaced, List.pairwise_map]
    exact spaced.filter _
  have bound := times.length_le (one_div_pos.mpr settings.global_pos) nonneg
    (by
      intro time member
      rcases List.mem_map.mp member with ⟨publish, selected, rfl⟩
      exact of_decide_eq_true (List.mem_filter.mp selected).2)
  rw [List.length_map, div_div_eq_mul_div, div_one] at bound
  exact bound

def replayTarget : PumpTarget where
  deviceId := "A"
  client := 0

/-- A backlog row that never expires. -/
def replayCall : EnqueueCall where
  deviceId := "A"
  direction := LOCAL_TO_UPSTREAM
  topic := "dl/PLAF203/A/device/event/post"
  payload := []
  qos := 0

/-- The actions of a visit up to the gate. -/
def toGate : List CoreAction :=
  [.pump .localToUpstream (.beginPass [replayTarget])] ++
    [.pump .localToUpstream (.checkConnected true)] ++ [.pump .localToUpstream .peek] ++
    [.pump .localToUpstream (.checkExpiry 0)]

/-- The actions after a passed gate. -/
def toRecord (now : Rat) : List CoreAction :=
  [.pump .localToUpstream (.publish .confirmed)] ++
    [.pump .localToUpstream .removeDelivered] ++
    [.pump .localToUpstream (.record now 0 0)] ++
    [.pump .localToUpstream .complete] ++ [.pump .localToUpstream .endPass]

def emptyQueue : MessageQueue := .empty 10 0

/-- A configuration without settle delay and jitter. -/
def instantSettings : ReplaySettings where
  replayRatePerDevice := 1
  replayRateGlobal := 2
  replayStartDelaySeconds := 0
  replayJitter := 0
  perDevice_pos := by decide
  global_pos := by decide
  delay_nonneg := noDelay_nonneg
  jitter_range := noJitter_range

/-- A second backlog row arrives when the first one has been sent. -/
def twoRows : List CoreAction :=
  .enqueue replayCall 0 :: toGate ++ [.pump .localToUpstream (.askReplay 0)] ++ toRecord 0 ++
    .enqueue replayCall 0 :: toGate ++ [.pump .localToUpstream (.askReplay (1 / 2)),
      .pump .localToUpstream (.publish .confirmed)]

theorem global_replay_rate_two_rows :
    (rateMachine instantSettings).Meets soundEnvironment ({ queue := emptyQueue }, {})
      twoRows ∧
    ((rateMachine instantSettings).run ({ queue := emptyQueue }, {})
      twoRows).2.publishes.length = 2 ∧
    ((rateMachine instantSettings).run ({ queue := emptyQueue }, {})
      twoRows).2.publishes.Pairwise (Apart (1 / 2)) := by
  have sound : (rateMachine instantSettings).Meets soundEnvironment
      ({ queue := emptyQueue }, {}) twoRows := by
    decide +kernel
  refine ⟨sound, by decide +kernel, ?_⟩
  exact (global_replay_rate instantSettings emptyQueue twoRows sound).1

end Pump
end PetlibroRelay
