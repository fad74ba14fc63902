import PetlibroRelay.Foundations.Machine
import PetlibroRelay.Pump.DeliveryPump
import PetlibroRelay.Queue.Refinement

namespace PetlibroRelay
namespace Pump

open Foundations
open Queue

/-!
# Both pumps over the shared queue

The relay runs one pump for each direction over one queue, while network
callbacks enqueue.  This machine interleaves the three at the grain of the
queue's critical sections.  What a publish does, which clients are connected
and what the clocks say are left open here: every answer of the environment is
an action, so a theorem about this machine holds for all of them.

A restart of the process keeps the database and nothing else.
-/

def LOCAL_TO_UPSTREAM : String := "local-to-upstream"
def UPSTREAM_TO_LOCAL : String := "upstream-to-local"

/-- The replay part of the relay configuration, which is validated at start. -/
structure ReplaySettings where
  replayRatePerDevice : Rat
  replayRateGlobal : Rat
  replayStartDelaySeconds : Rat
  replayJitter : Rat
  perDevice_pos : 0 < replayRatePerDevice
  global_pos : 0 < replayRateGlobal
  delay_nonneg : 0 ≤ replayStartDelaySeconds
  jitter_range : 0 ≤ replayJitter ∧ replayJitter ≤ 1

theorem noDelay_nonneg : (0 : Rat) ≤ 0 := le_refl 0

theorem noJitter_range : (0 : Rat) ≤ 0 ∧ (0 : Rat) ≤ 1 := by decide

def DEFAULT_MAX_QUEUE_SIZE : Nat := 5000

/-- The values used when the environment sets none. -/
def ReplaySettings.default : ReplaySettings where
  replayRatePerDevice := 5
  replayRateGlobal := 20
  replayStartDelaySeconds := 3 / 2
  replayJitter := 15 / 100
  perDevice_pos := by decide
  global_pos := by decide
  delay_nonneg := by decide +kernel
  jitter_range := by decide +kernel

/-- The two directions of the bridge. -/
inductive Side where
  | localToUpstream
  | upstreamToLocal
  deriving DecidableEq, Repr

/-- The pump the bridge builds for a direction.  Only device-to-cloud delivery
receives replay parameters. -/
def ReplaySettings.pumpConfig (settings : ReplaySettings) : Side -> PumpConfig
  | .localToUpstream =>
      { direction := LOCAL_TO_UPSTREAM
        isCloudToDevice := false
        replayRatePerDevice := some settings.replayRatePerDevice
        replayRateGlobal := some settings.replayRateGlobal
        replayStartDelaySeconds := settings.replayStartDelaySeconds
        replayJitter := settings.replayJitter
        perDevice_pos := fun _ same => Option.some.inj same ▸ settings.perDevice_pos
        global_pos := fun _ same => Option.some.inj same ▸ settings.global_pos
        delay_nonneg := settings.delay_nonneg
        jitter_range := settings.jitter_range }
  | .upstreamToLocal => { direction := UPSTREAM_TO_LOCAL, isCloudToDevice := true }

/-- The queue and the two pump threads. -/
structure Core where
  queue : MessageQueue
  localToUpstreamPump : PumpThread := {}
  upstreamToLocalPump : PumpThread := {}

namespace Core

/-- A fresh process on a database without pending rows. -/
def initial (maxSizePerDirection sequence : Nat) : Core where
  queue := .empty maxSizePerDirection sequence

def pump (core : Core) : Side -> PumpThread
  | .localToUpstream => core.localToUpstreamPump
  | .upstreamToLocal => core.upstreamToLocalPump

def setPump (core : Core) (thread : PumpThread) : Side -> Core
  | .localToUpstream => { core with localToUpstreamPump := thread }
  | .upstreamToLocal => { core with upstreamToLocalPump := thread }

@[simp] theorem setPump_queue (core : Core) (thread : PumpThread) (side : Side) :
    (core.setPump thread side).queue = core.queue := by
  cases side <;> rfl

theorem pump_setPump (core : Core) (thread : PumpThread) (side other : Side) :
    (core.setPump thread side).pump other = if other = side then thread else core.pump other := by
  cases side <;> cases other <;> rfl

@[simp] theorem pump_with_queue (core : Core) (queue : MessageQueue) (side : Side) :
    ({ core with queue := queue } : Core).pump side = core.pump side := by
  cases side <;> rfl

end Core

/-- An enqueue from a network callback, a step of a pump thread, or a restart
of the process on the same database. -/
inductive CoreAction where
  | enqueue (call : EnqueueCall) (now : Rat)
  | pump (side : Side) (taken : PumpStep)
  | restart
  deriving DecidableEq, Repr

/-- The interleaving of enqueues and both pumps. -/
def coreMachine (settings : ReplaySettings) : Machine Core CoreAction where
  step core
    | .enqueue call now => some { core with queue := (core.queue.enqueue call now).1 }
    | .pump side taken =>
        (step (settings.pumpConfig side) (core.pump side) core.queue taken).map
          (fun result => { core with queue := result.2 }.setPump result.1 side)
    | .restart => some { queue := core.queue }

/-- A pump step of the machine is a step of that pump. -/
theorem coreMachine_stepped {settings : ReplaySettings} {core after : Core} {side : Side}
    {taken : PumpStep}
    (moved : (coreMachine settings).step core (.pump side taken) = some after) :
    step (settings.pumpConfig side) (core.pump side) core.queue taken =
      some (after.pump side, after.queue) := by
  simp only [coreMachine, Option.map_eq_some_iff] at moved
  rcases moved with ⟨result, stepped, same⟩
  subst after
  rw [Core.setPump_queue, Core.pump_setPump, if_pos rfl]
  exact stepped

/-- A pump step has an effect on the queue and the message this pump holds, and
the other pump stands still. -/
theorem coreMachine_pump {settings : ReplaySettings} {core after : Core} {side : Side}
    {taken : PumpStep}
    (moved : (coreMachine settings).step core (.pump side taken) = some after) :
    Effect (settings.pumpConfig side) (core.pump side) (after.pump side) core.queue after.queue
        taken ∧
      forall other, other ≠ side -> after.pump other = core.pump other := by
  refine ⟨step_effect (coreMachine_stepped moved), ?_⟩
  simp only [coreMachine, Option.map_eq_some_iff] at moved
  rcases moved with ⟨result, _, same⟩
  subst after
  intro other different
  rw [Core.pump_setPump, if_neg different, Core.pump_with_queue]

/-- What an action does to the device-to-cloud pump: it is a step of that pump,
it leaves the pump alone, or it starts a new one. -/
theorem coreMachine_localToUpstream {settings : ReplaySettings} {core after : Core}
    {action : CoreAction} (moved : (coreMachine settings).step core action = some after) :
    (exists taken left, action = .pump .localToUpstream taken ∧
      step (settings.pumpConfig .localToUpstream) core.localToUpstreamPump core.queue taken =
        some (after.localToUpstreamPump, left)) ∨
    (after.localToUpstreamPump = core.localToUpstreamPump ∧
      ((exists call now, action = .enqueue call now) ∨
        exists taken, action = .pump .upstreamToLocal taken)) ∨
    (after.localToUpstreamPump = {} ∧ action = .restart) := by
  cases action with
  | enqueue call now =>
      have reached := Option.some.inj moved
      exact Or.inr (Or.inl ⟨by rw [← reached], Or.inl ⟨call, now, rfl⟩⟩)
  | pump side taken =>
      cases side with
      | localToUpstream => exact Or.inl ⟨taken, after.queue, rfl, coreMachine_stepped moved⟩
      | upstreamToLocal =>
          have still := (coreMachine_pump moved).2 .localToUpstream nofun
          exact Or.inr (Or.inl ⟨still, Or.inr ⟨taken, rfl⟩⟩)
  | restart =>
      have reached := Option.some.inj moved
      exact Or.inr (Or.inr ⟨by rw [← reached], rfl⟩)

/-- No step of a pump adds a row, changes more of one than its liveness, or
makes one live. -/
theorem Effect.later {config : PumpConfig} {pump after : PumpThread} {queue left : MessageQueue}
    {taken : PumpStep} (effect : Effect config pump after queue left taken) :
    queue.Later left := by
  cases effect with
  | quiet kept unchanged free => exact unchanged ▸ .refl queue
  | peeked visit message act unchanged place found arrived => exact unchanged ▸ .refl queue
  | foundExpired visit message now unchanged act place old arrived =>
      exact unchanged ▸ .refl queue
  | passedOn visit message kept unchanged place arrived => exact unchanged ▸ .refl queue
  | confirmed visit message unchanged act place arrived => exact unchanged ▸ .refl queue
  | demoted target rest act place changed free => exact changed ▸ queue.later_demote _ _
  | removed visit message place changed free => exact changed ▸ queue.later_remove _

/-- Every action leads to a later state of the queue. -/
theorem coreMachine_later {settings : ReplaySettings} {core after : Core} {action : CoreAction}
    (moved : (coreMachine settings).step core action = some after) :
    core.queue.Later after.queue := by
  cases action with
  | enqueue call now =>
      cases moved
      exact core.queue.later_enqueue call now
  | pump side taken => exact (coreMachine_pump moved).1.later
  | restart =>
      cases moved
      exact .refl core.queue

end Pump
end PetlibroRelay
