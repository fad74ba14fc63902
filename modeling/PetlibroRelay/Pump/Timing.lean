import PetlibroRelay.Pump.DeliveryPump

namespace PetlibroRelay
namespace Pump

open Foundations
open Queue

/-!
# What a step does to the replay timing

The timing of a pump is one global deadline and, for each device, a deadline
and a replay window.  Only a passed or refused gate opens a window, only a
recorded publish moves deadlines, and whatever else happens either leaves the
timing of a device alone or drops its window and its deadline together.  This
is stated once here, for the pump that controls replay.
-/

namespace PumpThread

/-- The earliest time of the device's next backlog row, if there is a limit. -/
def deadline? (thread : PumpThread) (deviceId : String) : Option Rat :=
  Dict.get? thread.scheduler.nextDeviceSendAt deviceId

/-- When the replay window of the device has settled, if it is open. -/
def readyAt? (thread : PumpThread) (deviceId : String) : Option Rat :=
  (Dict.get? thread.scheduler.replayProgress deviceId).map ReplayProgress.readyAt

end PumpThread

/-- A backlog publish has been confirmed and not yet been recorded. -/
def Phase.unrecorded : Phase -> Bool
  | .removing _ message => !message.isLive
  | .recording _ => true
  | _ => false

/-- The window and the deadline of the device are kept, or both are gone. -/
def KeptOrDropped (thread after : PumpThread) (deviceId : String) : Prop :=
  after.deadline? deviceId = thread.deadline? deviceId ∧
      after.readyAt? deviceId = thread.readyAt? deviceId ∨
    after.deadline? deviceId = none ∧ after.readyAt? deviceId = none

/-- Steps that neither ask the gate nor confirm nor record. -/
def PumpStep.untimed : PumpStep -> Bool
  | .askReplay _ => false
  | .publish outcome => decide (outcome ≠ .confirmed)
  | .record _ _ _ => false
  | _ => true

/-- What a step does to the timing and to a backlog row on its way. -/
inductive Timing (config : PumpConfig) (thread after : PumpThread) : PumpStep -> Prop where
  | admitted (visit : Visit) (message : QueuedMessage) (now : Rat)
      (place : thread.phase = .admitting visit message)
      (passes : (thread.scheduler.canSendReplay config visit.target now).1 = true)
      (arrived : after.phase = .publishing visit message)
      (changed : after.scheduler = (thread.scheduler.canSendReplay config visit.target now).2) :
      Timing config thread after (.askReplay now)
  | refused (visit : Visit) (message : QueuedMessage) (now : Rat)
      (place : thread.phase = .admitting visit message)
      (fails : (thread.scheduler.canSendReplay config visit.target now).1 = false)
      (arrived : after.phase = .visiting visit.rest)
      (changed : after.scheduler = (thread.scheduler.canSendReplay config visit.target now).2) :
      Timing config thread after (.askReplay now)
  | confirmed (visit : Visit) (message : QueuedMessage)
      (place : thread.phase = .publishing visit message)
      (arrived : after.phase = .removing visit message)
      (unchanged : after.scheduler = thread.scheduler) :
      Timing config thread after (.publish .confirmed)
  | removed (visit : Visit) (message : QueuedMessage)
      (place : thread.phase = .removing visit message) (backlog : message.isLive = false)
      (arrived : after.phase = .recording visit)
      (unchanged : after.scheduler = thread.scheduler) :
      Timing config thread after .removeDelivered
  | recorded (visit : Visit) (now deviceRandom globalRandom : Rat)
      (place : thread.phase = .recording visit)
      (changed : thread.scheduler.recordReplaySent config visit.target now deviceRandom
        globalRandom = some after.scheduler)
      (arrived : after.phase = .completing visit) :
      Timing config thread after (.record now deviceRandom globalRandom)
  | raised (visit : Visit) (now deviceRandom globalRandom : Rat)
      (place : thread.phase = .recording visit)
      (fails : thread.scheduler.recordReplaySent config visit.target now deviceRandom
        globalRandom = none)
      (arrived : after.phase = .ended) (unchanged : after.scheduler = thread.scheduler) :
      Timing config thread after (.record now deviceRandom globalRandom)
  | other (taken : PumpStep) (untimed : taken.untimed = true)
      (before : thread.phase.unrecorded = false) (running : thread.phase ≠ .ended)
      (still : after.phase.unrecorded = false)
      (live : forall visit message, after.phase = .publishing visit message ->
        message.isLive = true)
      (global : after.scheduler.nextGlobalSendAt = thread.scheduler.nextGlobalSendAt)
      (devices : forall deviceId, KeptOrDropped thread after deviceId) :
      Timing config thread after taken

/-! ## Spec lemmas of the scheduler -/

theorem keptOrDropped_of_same {thread after : PumpThread}
    (windows : after.scheduler.replayProgress = thread.scheduler.replayProgress)
    (deadlines : after.scheduler.nextDeviceSendAt = thread.scheduler.nextDeviceSendAt)
    (deviceId : String) : KeptOrDropped thread after deviceId := by
  refine Or.inl ⟨?_, ?_⟩
  · rw [PumpThread.deadline?, deadlines, PumpThread.deadline?]
  · rw [PumpThread.readyAt?, windows, PumpThread.readyAt?]

theorem keptOrDropped_pause {thread after : PumpThread} (paused : String)
    (windows : after.scheduler.replayProgress =
      Dict.erase thread.scheduler.replayProgress paused)
    (deadlines : after.scheduler.nextDeviceSendAt =
      Dict.erase thread.scheduler.nextDeviceSendAt paused)
    (deviceId : String) : KeptOrDropped thread after deviceId := by
  simp only [KeptOrDropped, PumpThread.deadline?, PumpThread.readyAt?, windows, deadlines,
    Dict.get?_erase]
  by_cases same : paused = deviceId
  · rw [if_pos same, if_pos same]
    exact Or.inr ⟨rfl, rfl⟩
  · rw [if_neg same, if_neg same]
    exact Or.inl ⟨rfl, rfl⟩

/-- Forgetting the devices without a target drops windows with deadlines. -/
theorem keptOrDropped_forget {thread after : PumpThread} {targets : List PumpTarget}
    {scheduler : Scheduler}
    (windows : scheduler.replayProgress = thread.scheduler.replayProgress)
    (deadlines : scheduler.nextDeviceSendAt = thread.scheduler.nextDeviceSendAt)
    (changed : after.scheduler = scheduler.forgetMissing targets)
    (deviceId : String) : KeptOrDropped thread after deviceId := by
  simp only [KeptOrDropped, PumpThread.deadline?, PumpThread.readyAt?, changed,
    Scheduler.forgetMissing, windows, deadlines]
  generalize (Dict.keys thread.scheduler.replayProgress).filter _ = forgotten
  have kept := fun {ν : Type} (dict : Dict String ν) =>
    Dict.get?_filter_keys dict (fun key => decide (key ∉ forgotten)) deviceId
  rw [kept, kept]
  split
  · exact Or.inl ⟨rfl, rfl⟩
  · exact Or.inr ⟨rfl, rfl⟩

theorem keptOrDropped_complete {thread after : PumpThread} {target : PumpTarget} {backlog : Nat}
    (changed : after.scheduler = thread.scheduler.completeReplayIfNeeded target backlog)
    (deviceId : String) : KeptOrDropped thread after deviceId := by
  rw [Scheduler.completeReplayIfNeeded] at changed
  split at changed
  · exact keptOrDropped_of_same (by rw [changed]) (by rw [changed]) deviceId
  · split at changed
    · exact keptOrDropped_pause target.deviceId (by rw [changed]; rfl)
        (by rw [changed]; rfl) deviceId
    · exact keptOrDropped_of_same (by rw [changed]) (by rw [changed]) deviceId

theorem keptOrDropped_expired {thread after : PumpThread} {target : PumpTarget}
    (changed : after.scheduler = thread.scheduler.recordExpiredReplay target)
    (deviceId : String) : KeptOrDropped thread after deviceId := by
  rw [Scheduler.recordExpiredReplay] at changed
  split at changed
  · exact keptOrDropped_of_same (by rw [changed]) (by rw [changed]) deviceId
  · next progress found =>
      refine Or.inl ⟨?_, ?_⟩
      · rw [PumpThread.deadline?, changed, PumpThread.deadline?]
      · simp only [PumpThread.readyAt?, changed, Dict.get?_set]
        split
        · next same => rw [← same, found]; rfl
        · rfl

theorem global_complete (scheduler : Scheduler) (target : PumpTarget) (backlog : Nat) :
    (scheduler.completeReplayIfNeeded target backlog).nextGlobalSendAt =
      scheduler.nextGlobalSendAt := by
  rw [Scheduler.completeReplayIfNeeded]
  split
  · rfl
  · split <;> rfl

theorem global_expired (scheduler : Scheduler) (target : PumpTarget) :
    (scheduler.recordExpiredReplay target).nextGlobalSendAt = scheduler.nextGlobalSendAt := by
  rw [Scheduler.recordExpiredReplay]
  split <;> rfl

theorem rotatedTargets_timing (scheduler : Scheduler) (targets : List PumpTarget) :
    (scheduler.rotatedTargets targets).2.replayProgress = scheduler.replayProgress ∧
      (scheduler.rotatedTargets targets).2.nextDeviceSendAt = scheduler.nextDeviceSendAt ∧
      (scheduler.rotatedTargets targets).2.nextGlobalSendAt = scheduler.nextGlobalSendAt := by
  cases targets <;> exact ⟨rfl, rfl, rfl⟩

/-- Continuing a visit is no step of a publish. -/
theorem continue_quiet (visit : Visit) :
    visit.continue.unrecorded = false ∧
      forall other message, visit.continue ≠ .publishing other message := by
  rw [Visit.continue]
  split <;> exact ⟨rfl, fun _ _ => (by rintro ⟨⟩)⟩

/-! ## The inversion -/

/-- Every step of a pump that controls replay is one of the listed ones. -/
theorem step_timing {config : PumpConfig} {thread after : PumpThread}
    {queue left : MessageQueue} {taken : PumpStep}
    (controlled : config.controlledReplayEnabled = true)
    (moved : step config thread queue taken = some (after, left)) :
    Timing config thread after taken := by
  cases pumpMove_of_step moved with
  | began targets place changed unchanged =>
      subst changed
      have same := rotatedTargets_timing thread.scheduler targets
      refine .other _ rfl (by rw [place]; rfl) (by rw [place]; exact nofun) rfl
        (fun _ _ impossible => nomatch impossible) same.2.2 ?_
      exact keptOrDropped_forget same.1 same.2.1 rfl
  | stillOffline target rest place known changed unchanged =>
      subst changed
      exact .other _ rfl (by rw [place]; rfl) (by rw [place]; exact nofun) rfl
        (fun _ _ impossible => nomatch impossible) rfl
        (keptOrDropped_pause target.deviceId rfl rfl)
  | wentOffline target rest place new changed demoted =>
      subst changed
      exact .other _ rfl (by rw [place]; rfl) (by rw [place]; exact nofun) rfl
        (fun _ _ impossible => nomatch impossible) rfl
        (keptOrDropped_pause target.deviceId rfl rfl)
  | pastGate visit message now place fresh ungated changed unchanged =>
      subst changed
      refine .other _ rfl (by rw [place]; rfl) (by rw [place]; exact nofun) rfl ?_ rfl
        (keptOrDropped_of_same rfl rfl)
      intro other held arrived
      cases arrived
      rw [controlled, Bool.true_and, Bool.not_eq_false'] at ungated
      exact ungated
  | discardedBacklog visit message place gated changed removed =>
      subst changed
      exact .other _ rfl (by rw [place]; rfl) (by rw [place]; exact nofun) rfl
        (fun _ _ impossible => nomatch impossible)
        (global_expired thread.scheduler visit.target) (keptOrDropped_expired rfl)
  | discarded visit message place ungated changed removed =>
      subst changed
      have quiet := continue_quiet visit
      exact .other _ rfl (by rw [place]; rfl) (by rw [place]; exact nofun) quiet.1
        (fun other held arrived => absurd arrived (quiet.2 other held)) rfl
        (keptOrDropped_of_same rfl rfl)
  | admitted visit message now place passes changed unchanged =>
      subst changed
      exact .admitted visit message now place passes rfl rfl
  | refused visit message now place fails changed unchanged =>
      subst changed
      exact .refused visit message now place fails rfl rfl
  | confirmed visit message place changed unchanged =>
      subst changed
      exact .confirmed visit message place rfl rfl
  | notPublished visit message outcome phase place failed next changed unchanged =>
      subst changed
      have untimed : (PumpStep.publish outcome).untimed = true := decide_eq_true failed
      rcases next with ⟨_, rfl⟩ | ⟨_, rfl⟩ <;>
        exact .other _ untimed (by rw [place]; rfl) (by rw [place]; exact nofun) rfl
          (fun _ _ impossible => nomatch impossible) rfl (keptOrDropped_of_same rfl rfl)
  | deliveredBacklog visit message place gated changed removed =>
      subst changed
      rw [controlled, Bool.true_and, Bool.not_eq_true'] at gated
      exact .removed visit message place gated rfl rfl
  | delivered visit message place ungated changed removed =>
      subst changed
      rw [controlled, Bool.true_and] at ungated
      have quiet := continue_quiet visit
      refine .other _ rfl ?_ (by rw [place]; exact nofun) quiet.1
        (fun other held arrived => absurd arrived (quiet.2 other held)) rfl
        (keptOrDropped_of_same rfl rfl)
      rw [place]
      exact ungated
  | recorded visit now deviceRandom globalRandom scheduler place moves changed unchanged =>
      subst changed
      exact .recorded visit now deviceRandom globalRandom place moves rfl
  | recordRaised visit now deviceRandom globalRandom place raises changed unchanged =>
      subst changed
      exact .raised visit now deviceRandom globalRandom place raises rfl rfl
  | completed visit place changed unchanged =>
      subst changed
      have quiet := continue_quiet visit
      exact .other _ rfl (by rw [place]; rfl) (by rw [place]; exact nofun) quiet.1
        (fun other held arrived => absurd arrived (quiet.2 other held))
        (global_complete _ _ _) (keptOrDropped_complete rfl)
  | stopped place changed unchanged =>
      subst changed
      rcases place with place | ⟨rest, place⟩ | ⟨visit, place⟩ <;>
        exact .other _ rfl (by rw [place]; rfl) (by rw [place]; exact nofun) rfl
          (fun _ _ impossible => nomatch impossible) rfl (keptOrDropped_of_same rfl rfl)
  | _ =>
      -- no other step touches the scheduler's timing
      subst after
      have place := ‹thread.phase = _›
      exact .other _ rfl (by rw [place]; rfl) (by rw [place]; exact nofun) rfl
        (fun _ _ impossible => nomatch impossible) rfl (keptOrDropped_of_same rfl rfl)

/-! ## Spec lemmas of the budgets -/

/-- Jitter only lengthens an interval. -/
theorem le_jitteredInterval (config : PumpConfig) {rate random : Rat} (positive : 0 < rate)
    (nonneg : 0 ≤ random) : 1 / rate ≤ Scheduler.jitteredInterval config rate random := by
  rw [Scheduler.jitteredInterval]
  split
  · exact le_refl _
  · have base : 0 < 1 / rate := one_div_pos.mpr positive
    have factor : 0 ≤ random * config.replayJitter := mul_nonneg nonneg config.jitter_range.1
    rw [mul_add, mul_one]
    exact le_add_of_nonneg_right (mul_nonneg base.le factor)

/-- Asking the gate changes no deadline and at most opens a window. -/
theorem asked_timing {config : PumpConfig} {thread after : PumpThread} {target : PumpTarget}
    {now : Rat} (changed : after.scheduler = (thread.scheduler.canSendReplay config target now).2) :
    after.scheduler.nextGlobalSendAt = thread.scheduler.nextGlobalSendAt ∧
    (forall deviceId, after.deadline? deviceId = thread.deadline? deviceId) ∧
    (forall deviceId, after.readyAt? deviceId = thread.readyAt? deviceId ∨
      (target.deviceId = deviceId ∧ target.replayReady = true) ∧
        after.readyAt? deviceId = some (now + config.replayStartDelaySeconds)) := by
  rw [Scheduler.canSendReplay] at changed
  split at changed
  · next ready =>
      have same : after.scheduler = { thread.scheduler with
          replayProgress := Dict.set thread.scheduler.replayProgress target.deviceId
            ((Dict.get? thread.scheduler.replayProgress target.deviceId).getD
              { scheduledAt := now, readyAt := now + config.replayStartDelaySeconds }) } := by
        dsimp only at changed
        split at changed <;> exact changed
      refine ⟨by rw [same], fun deviceId => by rw [PumpThread.deadline?, same]; rfl, ?_⟩
      intro deviceId
      simp only [PumpThread.readyAt?, same, Dict.get?_set]
      split
      · next own =>
          subst own
          cases Dict.get? thread.scheduler.replayProgress target.deviceId with
          | none => exact Or.inr ⟨⟨rfl, ready⟩, rfl⟩
          | some progress => exact Or.inl rfl
      · exact Or.inl rfl
  · refine ⟨by rw [changed], fun deviceId => by rw [PumpThread.deadline?, changed]; rfl, ?_⟩
    intro deviceId
    rw [PumpThread.readyAt?, changed]
    exact Or.inl rfl

/-- Behind the gate both deadlines have passed and the window has settled. -/
theorem admitted_timing {config : PumpConfig} {thread after : PumpThread} {target : PumpTarget}
    {now : Rat} (passes : (thread.scheduler.canSendReplay config target now).1 = true)
    (changed : after.scheduler = (thread.scheduler.canSendReplay config target now).2) :
    thread.scheduler.nextGlobalSendAt ≤ now ∧
    (forall deadline, thread.deadline? target.deviceId = some deadline -> deadline ≤ now) ∧
    (exists ready, after.readyAt? target.deviceId = some ready ∧ ready ≤ now) := by
  rcases (Scheduler.canSendReplay_iff _ _ _ _).mp passes with ⟨ready, settled, device, global⟩
  refine ⟨global, ?_, ?_⟩
  · intro deadline found
    rw [PumpThread.deadline?] at found
    rw [found] at device
    exact device
  · refine ⟨_, ?_, settled⟩
    rw [Scheduler.canSendReplay, if_pos ready] at changed
    dsimp only at changed
    rw [if_neg (not_lt_of_ge settled)] at changed
    rw [PumpThread.readyAt?, changed, Dict.get?_set_self, Option.map_some]

/-- Recording moves both deadlines and keeps every window. -/
theorem recorded_timing {config : PumpConfig} {thread after : PumpThread} {target : PumpTarget}
    {now deviceRandom globalRandom perDevice global : Rat}
    (perDeviceRate : config.replayRatePerDevice = some perDevice)
    (globalRate : config.replayRateGlobal = some global)
    (changed : thread.scheduler.recordReplaySent config target now deviceRandom globalRandom =
      some after.scheduler) :
    after.scheduler.nextGlobalSendAt =
      now + Scheduler.jitteredInterval config global globalRandom ∧
    (forall deviceId, after.deadline? deviceId = if target.deviceId = deviceId then
      some (now + Scheduler.jitteredInterval config perDevice deviceRandom)
        else thread.deadline? deviceId) ∧
    (forall deviceId, after.readyAt? deviceId = thread.readyAt? deviceId) := by
  simp only [Scheduler.recordReplaySent, perDeviceRate, globalRate, Option.bind_eq_bind,
    Option.bind_some, Option.bind_eq_some_iff] at changed
  rcases changed with ⟨progress, found, same⟩
  have reached := Option.some.inj same
  refine ⟨by rw [← reached], ?_, ?_⟩
  · intro deviceId
    simp only [PumpThread.deadline?, ← reached, Dict.get?_set]
  · intro deviceId
    simp only [PumpThread.readyAt?, ← reached, Dict.get?_set]
    split
    · next own => rw [← own, found]; rfl
    · rfl

end Pump
end PetlibroRelay
