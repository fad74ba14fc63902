import PetlibroRelay.Foundations.Dict
import PetlibroRelay.Queue.MessageQueue

namespace PetlibroRelay
namespace Pump

open Foundations
open Queue

/-!
# The delivery pump

A pump drains one queue direction for all bridged devices.  Its bookkeeping is
private to its thread, so each scheduling method is a function on a scheduler
record.  The queue is shared and every queue method is its own critical
section.  `_drain_device` is therefore not one function here but a program with
a phase for each place between two shared accesses: other threads may act
whenever the pump is at one of these places.

Clock readings, the connection flag of a client, the outcome of a publish and
the random numbers are what the environment supplies to a step.  Times and
rates are rational numbers.  Telemetry counters and log lines are left out.
-/

def IDLE_POLL_INTERVAL_SECONDS : Rat := 1
def LEGACY_DEVICE_BATCH_SIZE : Nat := 50
def MIN_SCHEDULER_WAIT_SECONDS : Rat := 1 / 100

/-- One device's destination for a direction.  Clients are named by numbers. -/
structure PumpTarget where
  deviceId : String
  client : Nat
  replayReady : Bool := true
  deriving DecidableEq, Repr

/-- One device's current controlled replay window. -/
structure ReplayProgress where
  scheduledAt : Rat
  readyAt : Rat
  sent : Nat := 0
  expired : Nat := 0
  started : Bool := false
  deriving DecidableEq, Repr

/-- The constructor arguments of a pump.  The constructor raises unless the
proof fields hold, so an invalid configuration cannot be built. -/
structure PumpConfig where
  direction : String
  isCloudToDevice : Bool
  replayRatePerDevice : Option Rat := none
  replayRateGlobal : Option Rat := none
  replayStartDelaySeconds : Rat := 0
  replayJitter : Rat := 0
  rates_together : replayRatePerDevice.isSome = replayRateGlobal.isSome := by rfl
  perDevice_pos : forall rate, replayRatePerDevice = some rate -> 0 < rate := by
    intro rate impossible; cases impossible
  global_pos : forall rate, replayRateGlobal = some rate -> 0 < rate := by
    intro rate impossible; cases impossible
  delay_nonneg : 0 ≤ replayStartDelaySeconds := by decide
  jitter_range : 0 ≤ replayJitter ∧ replayJitter ≤ 1 := by decide

/-- Whether this pump controls device-to-cloud backlog replay. -/
def PumpConfig.controlledReplayEnabled (config : PumpConfig) : Bool :=
  !config.isCloudToDevice && config.replayRatePerDevice.isSome

/-- The mutable bookkeeping of a pump. -/
structure Scheduler where
  nextDeviceSendAt : Dict String Rat := []
  nextGlobalSendAt : Rat := 0
  replayProgress : Dict String ReplayProgress := []
  roundRobinOffset : Nat := 0
  offlineDevices : List String := []
  deriving DecidableEq, Repr

namespace Scheduler

/-- Targets rotated by one start position per scheduling pass. -/
def rotatedTargets (scheduler : Scheduler) (targets : List PumpTarget) :
    List PumpTarget × Scheduler :=
  match targets with
  | [] => ([], scheduler)
  | _ :: _ =>
      let start := scheduler.roundRobinOffset % targets.length
      (targets.drop start ++ targets.take start,
        { scheduler with
          roundRobinOffset := (scheduler.roundRobinOffset + 1) % targets.length })

/-- The head of `_run_once`: devices without a target lose their timing state. -/
def forgetMissing (scheduler : Scheduler) (targets : List PumpTarget) : Scheduler :=
  let known := targets.map PumpTarget.deviceId
  let forgotten := (Dict.keys scheduler.replayProgress).filter (fun device => device ∉ known)
  { scheduler with
    replayProgress := scheduler.replayProgress.filter (fun entry => entry.1 ∉ forgotten)
    nextDeviceSendAt := scheduler.nextDeviceSendAt.filter (fun entry => entry.1 ∉ forgotten) }

/-- Forget timing state when a device loses its upstream session. -/
def pauseReplay (scheduler : Scheduler) (deviceId : String) : Scheduler :=
  { scheduler with
    replayProgress := Dict.erase scheduler.replayProgress deviceId
    nextDeviceSendAt := Dict.erase scheduler.nextDeviceSendAt deviceId }

/-- Whether a backlog row has passed settle and both rate budgets.  The first
question about a device opens its replay window. -/
def canSendReplay (scheduler : Scheduler) (config : PumpConfig) (target : PumpTarget)
    (now : Rat) : Bool × Scheduler :=
  if target.replayReady then
    let progress := (Dict.get? scheduler.replayProgress target.deviceId).getD
      { scheduledAt := now, readyAt := now + config.replayStartDelaySeconds }
    let opened := { scheduler with
      replayProgress := Dict.set scheduler.replayProgress target.deviceId progress }
    if now < progress.readyAt then (false, opened)
    else
      (decide ((Dict.get? opened.nextDeviceSendAt target.deviceId).getD 0 ≤ now) &&
        decide (opened.nextGlobalSendAt ≤ now), opened)
  else (false, scheduler)

/-- An interval that never permits a rate above the configured cap. -/
def jitteredInterval (config : PumpConfig) (ratePerSecond random : Rat) : Rat :=
  let baseInterval := 1 / ratePerSecond
  if config.replayJitter = 0 then baseInterval
  else baseInterval * (1 + random * config.replayJitter)

/-- Account for a confirmed replay publish and advance both rate budgets.  The
value is `none` where the source raises: on an unset rate or an unknown
device.  The trailing `_complete_replay_if_needed` is the next step. -/
def recordReplaySent (scheduler : Scheduler) (config : PumpConfig) (target : PumpTarget)
    (now deviceRandom globalRandom : Rat) : Option Scheduler := do
  let perDevice ← config.replayRatePerDevice
  let global ← config.replayRateGlobal
  let progress ← Dict.get? scheduler.replayProgress target.deviceId
  some { scheduler with
    replayProgress := Dict.set scheduler.replayProgress target.deviceId
      { progress with started := true, sent := progress.sent + 1 }
    nextDeviceSendAt := Dict.set scheduler.nextDeviceSendAt target.deviceId
      (now + jitteredInterval config perDevice deviceRandom)
    nextGlobalSendAt := now + jitteredInterval config global globalRandom }

/-- Record a stale backlog row that was removed without publishing. -/
def recordExpiredReplay (scheduler : Scheduler) (target : PumpTarget) : Scheduler :=
  match Dict.get? scheduler.replayProgress target.deviceId with
  | none => scheduler
  | some progress =>
      { scheduler with
        replayProgress := Dict.set scheduler.replayProgress target.deviceId
          { progress with expired := progress.expired + 1 } }

/-- Close the replay window of a scheduled device without backlog. -/
def completeReplayIfNeeded (scheduler : Scheduler) (target : PumpTarget) (backlog : Nat) :
    Scheduler :=
  match Dict.get? scheduler.replayProgress target.deviceId with
  | none => scheduler
  | some _ => if backlog = 0 then scheduler.pauseReplay target.deviceId else scheduler

/-- A bounded wait until the next controlled scheduler deadline. -/
def nextWaitSeconds (scheduler : Scheduler) (config : PumpConfig) (now : Rat) : Rat :=
  if config.controlledReplayEnabled then
    let deadlines :=
      (if now < scheduler.nextGlobalSendAt then [scheduler.nextGlobalSendAt] else []) ++
        (scheduler.nextDeviceSendAt.map Prod.snd).filter (fun deadline => now < deadline) ++
        scheduler.replayProgress.map (fun entry => entry.2.readyAt)
    match ((deadlines.filter (fun deadline => now < deadline)).map (· - now)) with
    | [] => IDLE_POLL_INTERVAL_SECONDS
    | first :: rest =>
        max MIN_SCHEDULER_WAIT_SECONDS (min IDLE_POLL_INTERVAL_SECONDS (rest.foldl min first))
  else IDLE_POLL_INTERVAL_SECONDS

end Scheduler

/-- Whether a row's insertion-time expiry has elapsed. -/
def isExpired (message : QueuedMessage) (now : Rat) : Bool :=
  match message.maxAgeSeconds with
  | none => false
  | some maxAge => decide (maxAge < now - message.createdAt)

/-- How one call of `_publish_confirmed` ends.  `raised` is an exception of
`publish` itself, which is outside the guarded part. -/
inductive PublishOutcome where
  | rejected
  | waitRaised
  | unconfirmed
  | confirmed
  | raised
  deriving DecidableEq, Repr

/-- The returned value, if the call returns. -/
def publishConfirmed : PublishOutcome -> Option Bool
  | .rejected => some false
  | .waitRaised => some false
  | .unconfirmed => some false
  | .confirmed => some true
  | .raised => none

/-! ## The phases of a pass -/

/-- The target being drained, the loop iterations that remain, the current
one included, and the targets still to visit. -/
structure Visit where
  target : PumpTarget
  left : Nat
  rest : List PumpTarget
  deriving DecidableEq, Repr

/-- The places of a pass between two shared accesses. -/
inductive Phase where
  | idle
  | visiting (rest : List PumpTarget)
  | offline (target : PumpTarget) (rest : List PumpTarget)
  | looping (visit : Visit)
  | examining (visit : Visit) (message : QueuedMessage)
  | discarding (visit : Visit) (message : QueuedMessage)
  | admitting (visit : Visit) (message : QueuedMessage)
  | publishing (visit : Visit) (message : QueuedMessage)
  | removing (visit : Visit) (message : QueuedMessage)
  | recording (visit : Visit)
  | completing (visit : Visit)
  | ended
  deriving DecidableEq, Repr

/-- The message a phase holds a copy of, between the peek and the end of its
iteration. -/
def Phase.message? : Phase -> Option QueuedMessage
  | .examining _ message => some message
  | .discarding _ message => some message
  | .admitting _ message => some message
  | .publishing _ message => some message
  | .removing _ message => some message
  | _ => none

/-- The device a phase is draining. -/
def Phase.device? : Phase -> Option String
  | .looping visit => some visit.target.deviceId
  | .examining visit _ => some visit.target.deviceId
  | .discarding visit _ => some visit.target.deviceId
  | .admitting visit _ => some visit.target.deviceId
  | .publishing visit _ => some visit.target.deviceId
  | .removing visit _ => some visit.target.deviceId
  | .recording visit => some visit.target.deviceId
  | .completing visit => some visit.target.deviceId
  | _ => none

/-- The targets a pass is or will be at. -/
def Phase.targets : Phase -> List PumpTarget
  | .idle => []
  | .visiting rest => rest
  | .offline target rest => target :: rest
  | .looping visit => visit.target :: visit.rest
  | .examining visit _ => visit.target :: visit.rest
  | .discarding visit _ => visit.target :: visit.rest
  | .admitting visit _ => visit.target :: visit.rest
  | .publishing visit _ => visit.target :: visit.rest
  | .removing visit _ => visit.target :: visit.rest
  | .recording visit => visit.target :: visit.rest
  | .completing visit => visit.target :: visit.rest
  | .ended => []

/-- The next loop iteration, or the next target after the last one. -/
def Visit.continue (visit : Visit) : Phase :=
  if visit.left ≤ 1 then .visiting visit.rest
  else .looping { visit with left := visit.left - 1 }

/-- A pump thread: its bookkeeping, where it is, and whether the current pass
has delivered anything. -/
structure PumpThread where
  scheduler : Scheduler := {}
  phase : Phase := .idle
  delivered : Bool := false
  deriving DecidableEq, Repr

/-- The steps of the thread with what the environment supplies. -/
inductive PumpStep where
  | beginPass (targets : List PumpTarget)
  | endPass
  | checkConnected (connected : Bool)
  | demote
  | peek
  | checkExpiry (now : Rat)
  | removeExpired
  | askReplay (now : Rat)
  | publish (outcome : PublishOutcome)
  | removeDelivered
  | record (now deviceRandom globalRandom : Rat)
  | complete
  | stop
  deriving DecidableEq, Repr

/-- Deliver one controlled replay row, or a legacy bounded FIFO batch. -/
def batchSize (config : PumpConfig) : Nat :=
  if config.controlledReplayEnabled then 1 else LEGACY_DEVICE_BATCH_SIZE

/-- One step of the pump thread on its own state and the shared queue.  A step
that does not belong to the phase is not enabled. -/
def step (config : PumpConfig) (pump : PumpThread) (queue : MessageQueue) :
    PumpStep -> Option (PumpThread × MessageQueue)
  | .beginPass targets =>
      match pump.phase with
      | .idle =>
          let rotated := pump.scheduler.rotatedTargets targets
          some ({ scheduler := rotated.2.forgetMissing rotated.1
                  phase := .visiting rotated.1
                  delivered := false }, queue)
      | _ => none
  | .endPass =>
      match pump.phase with
      | .visiting [] => some ({ pump with phase := .idle }, queue)
      | _ => none
  | .checkConnected connected =>
      match pump.phase with
      | .visiting (target :: rest) =>
          if connected then
            some ({ pump with
              scheduler := { pump.scheduler with
                offlineDevices := pump.scheduler.offlineDevices.filter (· ≠ target.deviceId) }
              phase := .looping ⟨target, batchSize config, rest⟩ }, queue)
          else some ({ pump with phase := .offline target rest }, queue)
      | _ => none
  | .demote =>
      match pump.phase with
      | .offline target rest =>
          let paused := fun scheduler : Scheduler => scheduler.pauseReplay target.deviceId
          if target.deviceId ∈ pump.scheduler.offlineDevices then
            some ({ pump with scheduler := paused pump.scheduler, phase := .visiting rest }, queue)
          else
            some ({ pump with
              scheduler := paused { pump.scheduler with
                offlineDevices := target.deviceId :: pump.scheduler.offlineDevices }
              phase := .visiting rest },
              (queue.demoteLiveMessages target.deviceId config.direction).1)
      | _ => none
  | .peek =>
      match pump.phase with
      | .looping visit =>
          match queue.peekOldest visit.target.deviceId config.direction
              config.controlledReplayEnabled with
          | none => some ({ pump with phase := .completing { visit with left := 0 } }, queue)
          | some message => some ({ pump with phase := .examining visit message }, queue)
      | _ => none
  | .checkExpiry now =>
      match pump.phase with
      | .examining visit message =>
          if isExpired message now then
            some ({ pump with phase := .discarding visit message }, queue)
          else if config.controlledReplayEnabled && !message.isLive then
            some ({ pump with phase := .admitting visit message }, queue)
          else some ({ pump with phase := .publishing visit message }, queue)
      | _ => none
  | .removeExpired =>
      match pump.phase with
      | .discarding visit message =>
          if config.controlledReplayEnabled && !message.isLive then
            some ({ scheduler := pump.scheduler.recordExpiredReplay visit.target
                    phase := .completing visit
                    delivered := true }, queue.remove message.id)
          else some ({ pump with phase := visit.continue, delivered := true },
            queue.remove message.id)
      | _ => none
  | .askReplay now =>
      match pump.phase with
      | .admitting visit message =>
          let answer := pump.scheduler.canSendReplay config visit.target now
          if answer.1 then
            some ({ pump with scheduler := answer.2, phase := .publishing visit message }, queue)
          else
            some ({ pump with scheduler := answer.2, phase := .visiting visit.rest }, queue)
      | _ => none
  | .publish outcome =>
      match pump.phase with
      | .publishing visit message =>
          match publishConfirmed outcome with
          | none => some ({ pump with phase := .ended }, queue)
          | some false => some ({ pump with phase := .visiting visit.rest }, queue)
          | some true => some ({ pump with phase := .removing visit message }, queue)
      | _ => none
  | .removeDelivered =>
      match pump.phase with
      | .removing visit message =>
          if config.controlledReplayEnabled && !message.isLive then
            some ({ pump with phase := .recording visit, delivered := true },
              queue.remove message.id)
          else some ({ pump with phase := visit.continue, delivered := true },
            queue.remove message.id)
      | _ => none
  | .record now deviceRandom globalRandom =>
      match pump.phase with
      | .recording visit =>
          match pump.scheduler.recordReplaySent config visit.target now deviceRandom
              globalRandom with
          | none => some ({ pump with phase := .ended }, queue)
          | some scheduler => some ({ pump with
              scheduler := scheduler, phase := .completing visit }, queue)
      | _ => none
  | .complete =>
      match pump.phase with
      | .completing visit =>
          let backlog := queue.backlogCount visit.target.deviceId config.direction
          some ({ pump with
            scheduler := pump.scheduler.completeReplayIfNeeded visit.target backlog
            phase := visit.continue }, queue)
      | _ => none
  | .stop =>
      match pump.phase with
      | .idle => some ({ pump with phase := .ended }, queue)
      | .visiting _ => some ({ pump with phase := .ended }, queue)
      | .looping _ => some ({ pump with phase := .ended }, queue)
      | _ => none

/-! ## What a step can do -/

/-- Every step with the guard it has passed and what it does to the thread and
to the queue. -/
inductive PumpMove (config : PumpConfig) (pump after : PumpThread) (queue left : MessageQueue) :
    PumpStep -> Prop where
  | began (targets : List PumpTarget) (place : pump.phase = .idle)
      (changed : after =
        { scheduler := (pump.scheduler.rotatedTargets targets).2.forgetMissing
            (pump.scheduler.rotatedTargets targets).1
          phase := .visiting (pump.scheduler.rotatedTargets targets).1
          delivered := false })
      (unchanged : left = queue) : PumpMove config pump after queue left (.beginPass targets)
  | finished (place : pump.phase = .visiting []) (changed : after = { pump with phase := .idle })
      (unchanged : left = queue) : PumpMove config pump after queue left .endPass
  | connected (target : PumpTarget) (rest : List PumpTarget)
      (place : pump.phase = .visiting (target :: rest))
      (changed : after = { pump with
        scheduler := { pump.scheduler with
          offlineDevices := pump.scheduler.offlineDevices.filter (· ≠ target.deviceId) }
        phase := .looping ⟨target, batchSize config, rest⟩ })
      (unchanged : left = queue) : PumpMove config pump after queue left (.checkConnected true)
  | unconnected (target : PumpTarget) (rest : List PumpTarget)
      (place : pump.phase = .visiting (target :: rest))
      (changed : after = { pump with phase := .offline target rest })
      (unchanged : left = queue) : PumpMove config pump after queue left (.checkConnected false)
  | stillOffline (target : PumpTarget) (rest : List PumpTarget)
      (place : pump.phase = .offline target rest)
      (known : target.deviceId ∈ pump.scheduler.offlineDevices)
      (changed : after = { pump with
        scheduler := pump.scheduler.pauseReplay target.deviceId
        phase := .visiting rest })
      (unchanged : left = queue) : PumpMove config pump after queue left .demote
  | wentOffline (target : PumpTarget) (rest : List PumpTarget)
      (place : pump.phase = .offline target rest)
      (new : target.deviceId ∉ pump.scheduler.offlineDevices)
      (changed : after = { pump with
        scheduler := Scheduler.pauseReplay { pump.scheduler with
          offlineDevices := target.deviceId :: pump.scheduler.offlineDevices } target.deviceId
        phase := .visiting rest })
      (demoted : left = (queue.demoteLiveMessages target.deviceId config.direction).1) :
      PumpMove config pump after queue left .demote
  | foundNothing (visit : Visit) (place : pump.phase = .looping visit)
      (nothing : queue.peekOldest visit.target.deviceId config.direction
        config.controlledReplayEnabled = none)
      (changed : after = { pump with phase := .completing { visit with left := 0 } })
      (unchanged : left = queue) : PumpMove config pump after queue left .peek
  | peeked (visit : Visit) (message : QueuedMessage) (place : pump.phase = .looping visit)
      (found : queue.peekOldest visit.target.deviceId config.direction
        config.controlledReplayEnabled = some message)
      (changed : after = { pump with phase := .examining visit message })
      (unchanged : left = queue) : PumpMove config pump after queue left .peek
  | foundExpired (visit : Visit) (message : QueuedMessage) (now : Rat)
      (place : pump.phase = .examining visit message) (old : isExpired message now = true)
      (changed : after = { pump with phase := .discarding visit message })
      (unchanged : left = queue) : PumpMove config pump after queue left (.checkExpiry now)
  | toGate (visit : Visit) (message : QueuedMessage) (now : Rat)
      (place : pump.phase = .examining visit message) (fresh : isExpired message now = false)
      (gated : (config.controlledReplayEnabled && !message.isLive) = true)
      (changed : after = { pump with phase := .admitting visit message })
      (unchanged : left = queue) : PumpMove config pump after queue left (.checkExpiry now)
  | pastGate (visit : Visit) (message : QueuedMessage) (now : Rat)
      (place : pump.phase = .examining visit message) (fresh : isExpired message now = false)
      (ungated : (config.controlledReplayEnabled && !message.isLive) = false)
      (changed : after = { pump with phase := .publishing visit message })
      (unchanged : left = queue) : PumpMove config pump after queue left (.checkExpiry now)
  | discardedBacklog (visit : Visit) (message : QueuedMessage)
      (place : pump.phase = .discarding visit message)
      (gated : (config.controlledReplayEnabled && !message.isLive) = true)
      (changed : after =
        { scheduler := pump.scheduler.recordExpiredReplay visit.target
          phase := .completing visit
          delivered := true })
      (removed : left = queue.remove message.id) :
      PumpMove config pump after queue left .removeExpired
  | discarded (visit : Visit) (message : QueuedMessage)
      (place : pump.phase = .discarding visit message)
      (ungated : (config.controlledReplayEnabled && !message.isLive) = false)
      (changed : after = { pump with phase := visit.continue, delivered := true })
      (removed : left = queue.remove message.id) :
      PumpMove config pump after queue left .removeExpired
  | admitted (visit : Visit) (message : QueuedMessage) (now : Rat)
      (place : pump.phase = .admitting visit message)
      (passes : (pump.scheduler.canSendReplay config visit.target now).1 = true)
      (changed : after = { pump with
        scheduler := (pump.scheduler.canSendReplay config visit.target now).2
        phase := .publishing visit message })
      (unchanged : left = queue) : PumpMove config pump after queue left (.askReplay now)
  | refused (visit : Visit) (message : QueuedMessage) (now : Rat)
      (place : pump.phase = .admitting visit message)
      (fails : (pump.scheduler.canSendReplay config visit.target now).1 = false)
      (changed : after = { pump with
        scheduler := (pump.scheduler.canSendReplay config visit.target now).2
        phase := .visiting visit.rest })
      (unchanged : left = queue) : PumpMove config pump after queue left (.askReplay now)
  | confirmed (visit : Visit) (message : QueuedMessage)
      (place : pump.phase = .publishing visit message)
      (changed : after = { pump with phase := .removing visit message })
      (unchanged : left = queue) : PumpMove config pump after queue left (.publish .confirmed)
  | notPublished (visit : Visit) (message : QueuedMessage) (outcome : PublishOutcome)
      (phase : Phase) (place : pump.phase = .publishing visit message)
      (failed : outcome ≠ .confirmed)
      (next : publishConfirmed outcome = none ∧ phase = .ended ∨
        publishConfirmed outcome = some false ∧ phase = .visiting visit.rest)
      (changed : after = { pump with phase := phase })
      (unchanged : left = queue) : PumpMove config pump after queue left (.publish outcome)
  | deliveredBacklog (visit : Visit) (message : QueuedMessage)
      (place : pump.phase = .removing visit message)
      (gated : (config.controlledReplayEnabled && !message.isLive) = true)
      (changed : after = { pump with phase := .recording visit, delivered := true })
      (removed : left = queue.remove message.id) :
      PumpMove config pump after queue left .removeDelivered
  | delivered (visit : Visit) (message : QueuedMessage)
      (place : pump.phase = .removing visit message)
      (ungated : (config.controlledReplayEnabled && !message.isLive) = false)
      (changed : after = { pump with phase := visit.continue, delivered := true })
      (removed : left = queue.remove message.id) :
      PumpMove config pump after queue left .removeDelivered
  | recorded (visit : Visit) (now deviceRandom globalRandom : Rat) (scheduler : Scheduler)
      (place : pump.phase = .recording visit)
      (moves : pump.scheduler.recordReplaySent config visit.target now deviceRandom
        globalRandom = some scheduler)
      (changed : after = { pump with scheduler := scheduler, phase := .completing visit })
      (unchanged : left = queue) :
      PumpMove config pump after queue left (.record now deviceRandom globalRandom)
  | recordRaised (visit : Visit) (now deviceRandom globalRandom : Rat)
      (place : pump.phase = .recording visit)
      (raises : pump.scheduler.recordReplaySent config visit.target now deviceRandom
        globalRandom = none)
      (changed : after = { pump with phase := .ended })
      (unchanged : left = queue) :
      PumpMove config pump after queue left (.record now deviceRandom globalRandom)
  | completed (visit : Visit) (place : pump.phase = .completing visit)
      (changed : after = { pump with
        scheduler := pump.scheduler.completeReplayIfNeeded visit.target
          (queue.backlogCount visit.target.deviceId config.direction)
        phase := visit.continue })
      (unchanged : left = queue) : PumpMove config pump after queue left .complete
  | stopped (place : pump.phase = .idle ∨ (exists rest, pump.phase = .visiting rest) ∨
        exists visit, pump.phase = .looping visit)
      (changed : after = { pump with phase := .ended }) (unchanged : left = queue) :
      PumpMove config pump after queue left .stop

/-- Every enabled step is one of these. -/
theorem pumpMove_of_step {config : PumpConfig} {pump after : PumpThread}
    {queue left : MessageQueue} {taken : PumpStep}
    (moved : step config pump queue taken = some (after, left)) :
    PumpMove config pump after queue left taken := by
  cases taken with
  | beginPass targets =>
      simp only [step] at moved
      split at moved <;> cases moved
      next place => exact .began targets place rfl rfl
  | endPass =>
      simp only [step] at moved
      split at moved <;> cases moved
      next place => exact .finished place rfl rfl
  | checkConnected connected =>
      simp only [step] at moved
      split at moved
      · next target rest place =>
          cases connected with
          | true =>
              cases moved
              exact .connected target rest place rfl rfl
          | false =>
              cases moved
              exact .unconnected target rest place rfl rfl
      · cases moved
  | demote =>
      simp only [step] at moved
      split at moved
      · next target rest place =>
          split at moved <;> cases moved
          · next known => exact .stillOffline target rest place known rfl rfl
          · next new => exact .wentOffline target rest place new rfl rfl
      · cases moved
  | peek =>
      simp only [step] at moved
      split at moved
      · next visit place =>
          split at moved <;> cases moved
          · next nothing => exact .foundNothing visit place nothing rfl rfl
          · next message found => exact .peeked visit message place found rfl rfl
      · cases moved
  | checkExpiry now =>
      simp only [step] at moved
      split at moved
      · next visit message place =>
          split at moved
          · next old =>
              cases moved
              exact .foundExpired visit message now place old rfl rfl
          · next fresh =>
              have fresh := Bool.eq_false_iff.mpr fresh
              split at moved <;> cases moved
              · next gated => exact .toGate visit message now place fresh gated rfl rfl
              · next ungated =>
                  exact .pastGate visit message now place fresh (Bool.eq_false_iff.mpr ungated)
                    rfl rfl
      · cases moved
  | removeExpired =>
      simp only [step] at moved
      split at moved
      · next visit message place =>
          split at moved <;> cases moved
          · next gated => exact .discardedBacklog visit message place gated rfl rfl
          · next ungated =>
              exact .discarded visit message place (Bool.eq_false_iff.mpr ungated) rfl rfl
      · cases moved
  | askReplay now =>
      simp only [step] at moved
      split at moved
      · next visit message place =>
          split at moved <;> cases moved
          · next passes => exact .admitted visit message now place passes rfl rfl
          · next fails =>
              exact .refused visit message now place (Bool.eq_false_iff.mpr fails) rfl rfl
      · cases moved
  | publish outcome =>
      simp only [step] at moved
      split at moved
      · next visit message place =>
          cases outcome with
          | confirmed =>
              cases moved
              exact .confirmed visit message place rfl rfl
          | raised =>
              cases moved
              exact .notPublished visit message _ _ place nofun (Or.inl ⟨rfl, rfl⟩) rfl rfl
          | rejected =>
              cases moved
              exact .notPublished visit message _ _ place nofun (Or.inr ⟨rfl, rfl⟩) rfl rfl
          | waitRaised =>
              cases moved
              exact .notPublished visit message _ _ place nofun (Or.inr ⟨rfl, rfl⟩) rfl rfl
          | unconfirmed =>
              cases moved
              exact .notPublished visit message _ _ place nofun (Or.inr ⟨rfl, rfl⟩) rfl rfl
      · cases moved
  | removeDelivered =>
      simp only [step] at moved
      split at moved
      · next visit message place =>
          split at moved <;> cases moved
          · next gated => exact .deliveredBacklog visit message place gated rfl rfl
          · next ungated =>
              exact .delivered visit message place (Bool.eq_false_iff.mpr ungated) rfl rfl
      · cases moved
  | record now deviceRandom globalRandom =>
      simp only [step] at moved
      split at moved
      · next visit place =>
          split at moved <;> cases moved
          · next raises =>
              exact .recordRaised visit now deviceRandom globalRandom place raises rfl rfl
          · next scheduler moves =>
              exact .recorded visit now deviceRandom globalRandom scheduler place moves rfl rfl
      · cases moved
  | complete =>
      simp only [step] at moved
      split at moved <;> cases moved
      next visit place => exact .completed visit place rfl rfl
  | stop =>
      simp only [step] at moved
      split at moved <;> cases moved
      · next place => exact .stopped (Or.inl place) rfl rfl
      · next rest place => exact .stopped (Or.inr (Or.inl ⟨rest, place⟩)) rfl rfl
      · next visit place => exact .stopped (Or.inr (Or.inr ⟨visit, place⟩)) rfl rfl

/-- Continuing a visit lets go of the message. -/
@[simp] theorem continue_message (visit : Visit) : visit.continue.message? = none := by
  rw [Visit.continue]
  split <;> rfl

/-- The steps that remove the row of the held message. -/
def PumpStep.isRemoval : PumpStep -> Bool
  | .removeExpired => true
  | .removeDelivered => true
  | _ => false

/-- What a step does to the queue and to the message the thread holds. -/
inductive Effect (config : PumpConfig) (pump after : PumpThread) (queue left : MessageQueue)
    (taken : PumpStep) : Prop where
  | quiet (kept : taken.isRemoval = false) (unchanged : left = queue)
      (free : after.phase.message? = none)
  | peeked (visit : Visit) (message : QueuedMessage) (act : taken = .peek)
      (unchanged : left = queue) (place : pump.phase = .looping visit)
      (found : queue.peekOldest visit.target.deviceId config.direction
        config.controlledReplayEnabled = some message)
      (arrived : after.phase = .examining visit message)
  | foundExpired (visit : Visit) (message : QueuedMessage) (now : Rat) (unchanged : left = queue)
      (act : taken = .checkExpiry now) (place : pump.phase = .examining visit message)
      (old : isExpired message now = true) (arrived : after.phase = .discarding visit message)
  | passedOn (visit : Visit) (message : QueuedMessage) (kept : taken.isRemoval = false)
      (unchanged : left = queue)
      (place : pump.phase = .examining visit message ∨ pump.phase = .admitting visit message)
      (arrived : after.phase = .admitting visit message ∨ after.phase = .publishing visit message)
  | confirmed (visit : Visit) (message : QueuedMessage) (unchanged : left = queue)
      (act : taken = .publish .confirmed) (place : pump.phase = .publishing visit message)
      (arrived : after.phase = .removing visit message)
  | demoted (target : PumpTarget) (rest : List PumpTarget) (act : taken = .demote)
      (place : pump.phase = .offline target rest)
      (changed : left = (queue.demoteLiveMessages target.deviceId config.direction).1)
      (free : after.phase.message? = none)
  | removed (visit : Visit) (message : QueuedMessage)
      (place : taken = .removeExpired ∧ pump.phase = .discarding visit message ∨
        taken = .removeDelivered ∧ pump.phase = .removing visit message)
      (changed : left = queue.remove message.id) (free : after.phase.message? = none)

/-- Every enabled step has one of these effects. -/
theorem step_effect {config : PumpConfig} {pump after : PumpThread} {queue left : MessageQueue}
    {taken : PumpStep} (moved : step config pump queue taken = some (after, left)) :
    Effect config pump after queue left taken := by
  cases pumpMove_of_step moved with
  | began targets place changed unchanged => exact .quiet rfl unchanged (by rw [changed]; rfl)
  | finished place changed unchanged => exact .quiet rfl unchanged (by rw [changed]; rfl)
  | connected target rest place changed unchanged =>
      exact .quiet rfl unchanged (by rw [changed]; rfl)
  | unconnected target rest place changed unchanged =>
      exact .quiet rfl unchanged (by rw [changed]; rfl)
  | stillOffline target rest place known changed unchanged =>
      exact .quiet rfl unchanged (by rw [changed]; rfl)
  | wentOffline target rest place new changed demoted =>
      exact .demoted target rest rfl place demoted (by rw [changed]; rfl)
  | foundNothing visit place nothing changed unchanged =>
      exact .quiet rfl unchanged (by rw [changed]; rfl)
  | peeked visit message place found changed unchanged =>
      exact .peeked visit message rfl unchanged place found (by rw [changed])
  | foundExpired visit message now place old changed unchanged =>
      exact .foundExpired visit message now unchanged rfl place old (by rw [changed])
  | toGate visit message now place fresh gated changed unchanged =>
      exact .passedOn visit message rfl unchanged (Or.inl place) (Or.inl (by rw [changed]))
  | pastGate visit message now place fresh ungated changed unchanged =>
      exact .passedOn visit message rfl unchanged (Or.inl place) (Or.inr (by rw [changed]))
  | discardedBacklog visit message place gated changed removed =>
      exact .removed visit message (Or.inl ⟨rfl, place⟩) removed (by rw [changed]; rfl)
  | discarded visit message place ungated changed removed =>
      exact .removed visit message (Or.inl ⟨rfl, place⟩) removed
        (by rw [changed]; exact continue_message visit)
  | admitted visit message now place passes changed unchanged =>
      exact .passedOn visit message rfl unchanged (Or.inr place) (Or.inr (by rw [changed]))
  | refused visit message now place fails changed unchanged =>
      exact .quiet rfl unchanged (by rw [changed]; rfl)
  | confirmed visit message place changed unchanged =>
      exact .confirmed visit message unchanged rfl place (by rw [changed])
  | notPublished visit message outcome phase place failed next changed unchanged =>
      refine .quiet rfl unchanged ?_
      rcases next with ⟨_, ended⟩ | ⟨_, onward⟩
      · rw [changed, ended]
        rfl
      · rw [changed, onward]
        rfl
  | deliveredBacklog visit message place gated changed removed =>
      exact .removed visit message (Or.inr ⟨rfl, place⟩) removed (by rw [changed]; rfl)
  | delivered visit message place ungated changed removed =>
      exact .removed visit message (Or.inr ⟨rfl, place⟩) removed
        (by rw [changed]; exact continue_message visit)
  | recorded visit now deviceRandom globalRandom scheduler place moves changed unchanged =>
      exact .quiet rfl unchanged (by rw [changed]; rfl)
  | recordRaised visit now deviceRandom globalRandom place raises changed unchanged =>
      exact .quiet rfl unchanged (by rw [changed]; rfl)
  | completed visit place changed unchanged =>
      exact .quiet rfl unchanged (by rw [changed]; exact continue_message visit)
  | stopped place changed unchanged => exact .quiet rfl unchanged (by rw [changed]; rfl)

/-! ## The targets of a pass -/

theorem mem_continue_targets {visit : Visit} {target : PumpTarget}
    (member : target ∈ visit.continue.targets) : target ∈ visit.target :: visit.rest := by
  rw [Visit.continue] at member
  split at member
  · exact List.mem_cons_of_mem _ member
  · exact member

theorem mem_rotatedTargets {scheduler : Scheduler} {targets : List PumpTarget}
    {target : PumpTarget} (member : target ∈ (scheduler.rotatedTargets targets).1) :
    target ∈ targets := by
  cases targets with
  | nil => cases member
  | cons first rest =>
      rcases List.mem_append.mp member with later | earlier
      · exact List.mem_of_mem_drop later
      · exact List.mem_of_mem_take earlier

/-- Only the beginning of a pass brings in targets. -/
theorem step_targets {config : PumpConfig} {pump after : PumpThread} {queue left : MessageQueue}
    {taken : PumpStep} (moved : step config pump queue taken = some (after, left)) :
    (forall target, target ∈ after.phase.targets -> target ∈ pump.phase.targets) ∨
      exists targets, taken = .beginPass targets ∧
        forall target, target ∈ after.phase.targets -> target ∈ targets := by
  cases pumpMove_of_step moved with
  | began targets place changed unchanged =>
      subst changed
      exact Or.inr ⟨targets, rfl, fun target member => mem_rotatedTargets member⟩
  | finished place changed unchanged =>
      subst changed
      exact Or.inl (fun _ absent => nomatch absent)
  | stopped place changed unchanged =>
      subst changed
      exact Or.inl (fun _ absent => nomatch absent)
  | recordRaised visit now deviceRandom globalRandom place raises changed unchanged =>
      subst changed
      exact Or.inl (fun _ absent => nomatch absent)
  | notPublished visit message outcome phase place failed next changed unchanged =>
      subst changed
      rw [place]
      rcases next with ⟨_, rfl⟩ | ⟨_, rfl⟩
      · exact Or.inl (fun _ absent => nomatch absent)
      · exact Or.inl (fun _ member => List.mem_cons_of_mem _ member)
  | stillOffline target rest place known changed unchanged =>
      subst changed
      rw [place]
      exact Or.inl (fun _ member => List.mem_cons_of_mem _ member)
  | wentOffline target rest place new changed demoted =>
      subst changed
      rw [place]
      exact Or.inl (fun _ member => List.mem_cons_of_mem _ member)
  | refused visit message now place fails changed unchanged =>
      subst changed
      rw [place]
      exact Or.inl (fun _ member => List.mem_cons_of_mem _ member)
  | discarded visit message place ungated changed removed =>
      subst changed
      rw [place]
      exact Or.inl (fun _ member => mem_continue_targets member)
  | delivered visit message place ungated changed removed =>
      subst changed
      rw [place]
      exact Or.inl (fun _ member => mem_continue_targets member)
  | completed visit place changed unchanged =>
      subst changed
      rw [place]
      exact Or.inl (fun _ member => mem_continue_targets member)
  | _ =>
      -- the thread stays at the target it is draining
      subst after
      rw [‹pump.phase = _›]
      exact Or.inl (fun _ member => member)

/-- The same message of the same device stays in hand, on its way to a publish. -/
structure PassedOn (before after : Phase) (visit : Visit) (message : QueuedMessage) : Prop where
  beforeMessage : before.message? = some message
  beforeDevice : before.device? = some visit.target.deviceId
  afterMessage : after.message? = some message
  afterDevice : after.device? = some visit.target.deviceId
  notDiscarding : forall other held, after ≠ .discarding other held
  notRemoving : forall other held, after ≠ .removing other held

theorem passedOn_of_phases {before after : Phase} {visit : Visit} {message : QueuedMessage}
    (place : before = .examining visit message ∨ before = .admitting visit message)
    (arrived : after = .admitting visit message ∨ after = .publishing visit message) :
    PassedOn before after visit message := by
  have start : before.message? = some message ∧ before.device? = some visit.target.deviceId := by
    rcases place with rfl | rfl <;> exact ⟨rfl, rfl⟩
  rcases arrived with rfl | rfl
  · exact ⟨start.1, start.2, rfl, rfl, nofun, nofun⟩
  · exact ⟨start.1, start.2, rfl, rfl, nofun, nofun⟩

namespace Effect

variable {config : PumpConfig} {pump after : PumpThread} {queue left : MessageQueue}
  {taken : PumpStep}

/-- No step of a pump inserts a row. -/
theorem sequence_eq (effect : Effect config pump after queue left taken) :
    left.pendingMessages.sequence = queue.pendingMessages.sequence := by
  cases effect with
  | quiet kept unchanged free => rw [unchanged]
  | peeked visit message act unchanged place found arrived => rw [unchanged]
  | foundExpired visit message now unchanged act place old arrived => rw [unchanged]
  | passedOn visit message kept unchanged place arrived => rw [unchanged]
  | confirmed visit message unchanged act place arrived => rw [unchanged]
  | demoted target rest act place changed free =>
      rw [changed]
      rfl
  | removed visit message place changed free =>
      rw [changed]
      rfl

/-- No step of a pump makes a row live. -/
theorem mem_rows_of_live (effect : Effect config pump after queue left taken)
    {row : Nat × PendingMessage} (member : row ∈ left.pendingMessages.rows)
    (live : row.2.isLive = true) : row ∈ queue.pendingMessages.rows := by
  cases effect with
  | quiet kept unchanged free => exact unchanged ▸ member
  | peeked visit message act unchanged place found arrived => exact unchanged ▸ member
  | foundExpired visit message now unchanged act place old arrived => exact unchanged ▸ member
  | passedOn visit message kept unchanged place arrived => exact unchanged ▸ member
  | confirmed visit message unchanged act place arrived => exact unchanged ▸ member
  | demoted target rest act place changed free =>
      rw [changed] at member
      rcases List.mem_map.mp member with ⟨old, oldMember, same⟩
      split at same
      · subst row
        cases live
      · exact same ▸ oldMember
  | removed visit message place changed free =>
      rw [changed] at member
      exact (List.mem_filter.mp member).1

/-- A message a pump holds after a step was just peeked for the device it is
draining, or it was held before while draining the same device. -/
theorem held (effect : Effect config pump after queue left taken) {message : QueuedMessage}
    (holds : after.phase.message? = some message) :
    (exists deviceId, after.phase.device? = some deviceId ∧
      queue.peekOldest deviceId config.direction config.controlledReplayEnabled =
        some message) ∨
    (pump.phase.message? = some message ∧ after.phase.device? = pump.phase.device?) := by
  cases effect with
  | quiet kept unchanged free => rw [free] at holds; cases holds
  | peeked visit other act unchanged place found arrived =>
      rw [arrived] at holds ⊢
      cases holds
      exact Or.inl ⟨visit.target.deviceId, rfl, found⟩
  | foundExpired visit other now unchanged act place old arrived =>
      rw [arrived] at holds ⊢
      rw [place]
      exact Or.inr ⟨holds, rfl⟩
  | passedOn visit other kept unchanged place arrived =>
      have passed := passedOn_of_phases place arrived
      rw [passed.afterMessage] at holds
      rw [passed.beforeMessage, passed.beforeDevice, passed.afterDevice]
      exact Or.inr ⟨holds, rfl⟩
  | confirmed visit other unchanged act place arrived =>
      rw [arrived] at holds ⊢
      rw [place]
      exact Or.inr ⟨holds, rfl⟩
  | demoted target rest act place changed free => rw [free] at holds; cases holds
  | removed visit other place changed free => rw [free] at holds; cases holds

end Effect

/-! ## The replay gate -/

/-- Passing the gate means a finished subscription cycle, an elapsed settle
delay and room in both rate budgets. -/
theorem Scheduler.canSendReplay_iff (scheduler : Scheduler) (config : PumpConfig)
    (target : PumpTarget) (now : Rat) :
    (scheduler.canSendReplay config target now).1 = true ↔
      target.replayReady = true ∧
      ((Dict.get? scheduler.replayProgress target.deviceId).getD
        { scheduledAt := now,
          readyAt := now + config.replayStartDelaySeconds }).readyAt ≤ now ∧
      (Dict.get? scheduler.nextDeviceSendAt target.deviceId).getD 0 ≤ now ∧
      scheduler.nextGlobalSendAt ≤ now := by
  simp only [canSendReplay]
  by_cases ready : target.replayReady = true
  · rw [if_pos ready]
    by_cases early : now < ((Dict.get? scheduler.replayProgress target.deviceId).getD
        { scheduledAt := now, readyAt := now + config.replayStartDelaySeconds }).readyAt
    · rw [if_pos early]
      constructor
      · intro impossible
        cases impossible
      · intro passes
        exact absurd passes.2.1 (not_le_of_gt early)
    · rw [if_neg early, Bool.and_eq_true, decide_eq_true_eq, decide_eq_true_eq]
      exact ⟨fun budgets => ⟨ready, le_of_not_gt early, budgets⟩, fun passes => passes.2.2⟩
  · rw [if_neg ready]
    constructor
    · intro impossible
      cases impossible
    · intro passes
      exact absurd passes.1 ready

/-- A row is on its way to a publish only after an expiry check of this row
that did not find it expired, and after nothing else but the gate. -/
theorem checked_of_passed {config : PumpConfig} {pump after : PumpThread}
    {queue left : MessageQueue} {taken : PumpStep} {visit : Visit} {message : QueuedMessage}
    (moved : step config pump queue taken = some (after, left))
    (arrived : after.phase = .admitting visit message ∨ after.phase = .publishing visit message) :
    (exists now, taken = .checkExpiry now ∧ pump.phase = .examining visit message ∧
      isExpired message now = false) ∨
    (exists now, taken = .askReplay now ∧ pump.phase = .admitting visit message) := by
  have held : after.phase.message? = some message := by
    rcases arrived with arrived | arrived <;> rw [arrived] <;> rfl
  cases pumpMove_of_step moved with
  | toGate other there now place fresh gated changed unchanged =>
      subst changed
      rcases arrived with same | impossible
      · cases same
        exact Or.inl ⟨now, rfl, place, fresh⟩
      · cases impossible
  | pastGate other there now place fresh ungated changed unchanged =>
      subst changed
      rcases arrived with impossible | same
      · cases impossible
      · cases same
        exact Or.inl ⟨now, rfl, place, fresh⟩
  | admitted other there now place passes changed unchanged =>
      subst changed
      rcases arrived with impossible | same
      · cases impossible
      · cases same
        exact Or.inr ⟨now, rfl, place⟩
  | notPublished other there outcome phase place failed next changed unchanged =>
      subst changed
      rcases next with ⟨_, rfl⟩ | ⟨_, rfl⟩ <;> cases held
  | discarded other there place ungated changed removed =>
      subst changed
      rw [continue_message] at held
      cases held
  | delivered other there place ungated changed removed =>
      subst changed
      rw [continue_message] at held
      cases held
  | completed other place changed unchanged =>
      subst changed
      rw [continue_message] at held
      cases held
  | _ =>
      subst after
      rcases arrived with impossible | impossible <;> cases impossible

/-- A backlog row is never about to be published without having passed the
gate in the step before. -/
theorem gate_of_publishing {config : PumpConfig} {pump after : PumpThread}
    {queue left : MessageQueue} {taken : PumpStep} {visit : Visit} {message : QueuedMessage}
    (controlled : config.controlledReplayEnabled = true)
    (moved : step config pump queue taken = some (after, left))
    (arrived : after.phase = .publishing visit message) (backlog : message.isLive = false) :
    exists now, taken = .askReplay now ∧ pump.phase = .admitting visit message ∧
      (pump.scheduler.canSendReplay config visit.target now).1 = true := by
  rcases checked_of_passed moved (Or.inr arrived) with ⟨now, rfl, place, fresh⟩ |
    ⟨now, rfl, place⟩
  · -- only a live row goes on without the gate
    simp only [step, place, fresh, Bool.false_eq_true, if_false, controlled, backlog,
      Bool.not_false, Bool.and_self, if_true] at moved
    cases moved
    cases arrived
  · refine ⟨now, rfl, place, ?_⟩
    simp only [step, place] at moved
    split at moved
    · next passes => exact passes
    · cases moved
      cases arrived

end Pump
end PetlibroRelay
