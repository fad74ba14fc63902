import Mathlib.Data.List.Sort
import Mathlib.Data.String.Basic
import PetlibroRelay.Foundations.Dict

namespace PetlibroRelay
namespace Upstream

open Foundations

/-!
# The device manager

The manager is the only place that creates and forgets device contexts.  A
context is an object: threads keep references to it, so it goes on existing
when the manager has forgotten it, and a device that is bridged again gets a
new one.  Objects are numbered in the order of their creation, and the map of
the manager leads from a device to the number of its current context.

What a context holds is a parameter.
-/

universe u

structure DeviceManager (Context : Type u) where
  objects : List Context := []
  contexts : Dict String Nat := []
  started : Bool := false

namespace DeviceManager

variable {Context : Type u}

/-- The locked section of `ensure_device`: the number of the device's context,
and whether it is a new one. -/
def ensureDevice (manager : DeviceManager Context) (clientId : String) (context : Context) :
    DeviceManager Context × Nat × Bool :=
  match Dict.get? manager.contexts clientId with
  | some existing => (manager, existing, false)
  | none =>
      ({ manager with
          objects := manager.objects ++ [context]
          contexts := Dict.set manager.contexts clientId manager.objects.length },
        manager.objects.length, true)

/-- The locked section of `remove_device`. -/
def removeDevice (manager : DeviceManager Context) (deviceId : String) :
    DeviceManager Context × Option Nat :=
  ({ manager with contexts := Dict.erase manager.contexts deviceId },
    Dict.get? manager.contexts deviceId)

/-- The locked section of `stop`. -/
def stop (manager : DeviceManager Context) : DeviceManager Context × List Nat :=
  ({ manager with contexts := [], started := false }, manager.contexts.map Prod.snd)

def getByDeviceId (manager : DeviceManager Context) (deviceId : String) : Option Nat :=
  Dict.get? manager.contexts deviceId

/-- The contexts of every bridged device, ordered by their own identifiers. -/
def listDevices (manager : DeviceManager Context) (deviceId : Context -> String) : List Nat :=
  (manager.contexts.map Prod.snd).insertionSort (fun first second =>
    (manager.objects[first]?.map deviceId).getD "" ≤
      (manager.objects[second]?.map deviceId).getD "")

/-- An object replaced by a changed one. -/
def modify (manager : DeviceManager Context) (object : Nat) (change : Context -> Context) :
    DeviceManager Context :=
  { manager with objects := manager.objects.modify object change }

/-! ## Keys and objects -/

/-- The map leads from each device to a context that is built for it. -/
def Keyed (manager : DeviceManager Context) (deviceId : Context -> String) : Prop :=
  forall device object, Dict.get? manager.contexts device = some object ->
    exists context, manager.objects[object]? = some context ∧ deviceId context = device

variable {manager : DeviceManager Context} {deviceId : Context -> String}

theorem objects_modify (manager : DeviceManager Context) (object other : Nat)
    (change : Context -> Context) :
    (manager.modify object change).objects[other]? =
      manager.objects[other]?.map (fun context => if object = other then change context
        else context) := by
  simp only [modify, List.getElem?_modify, Option.map_eq_map]

/-- Known objects keep their numbers. -/
theorem objects_ensureDevice {clientId : String} {context known : Context} {object : Nat}
    (there : manager.objects[object]? = some known) :
    (manager.ensureDevice clientId context).1.objects[object]? = some known := by
  rw [DeviceManager.ensureDevice]
  split
  · exact there
  · rw [List.getElem?_append_left (List.getElem?_eq_some_iff.mp there).1]
    exact there

/-- The device that was asked for has the context that is returned. -/
theorem contexts_ensureDevice_self (manager : DeviceManager Context) (clientId : String)
    (context : Context) :
    Dict.get? (manager.ensureDevice clientId context).1.contexts clientId =
      some (manager.ensureDevice clientId context).2.1 := by
  cases known : Dict.get? manager.contexts clientId with
  | none => rw [ensureDevice, known, Dict.get?_set_self]
  | some object => rw [ensureDevice, known]; exact known

/-- Known devices keep their contexts. -/
theorem contexts_ensureDevice {clientId device : String} {context : Context} {object : Nat}
    (known : Dict.get? manager.contexts device = some object) :
    Dict.get? (manager.ensureDevice clientId context).1.contexts device = some object := by
  rw [ensureDevice]
  split
  · exact known
  · next unknown =>
      have different : clientId ≠ device := by
        rintro rfl
        rw [known] at unknown
        cases unknown
      exact (Dict.get?_set_of_ne _ _ different).trans known

/-- A pass over the devices comes to every context of the map. -/
theorem mem_listDevices {device : String} {object : Nat} (deviceId : Context -> String)
    (known : Dict.get? manager.contexts device = some object) :
    object ∈ manager.listDevices deviceId := by
  rw [listDevices, List.mem_insertionSort]
  exact List.mem_map.mpr ⟨(device, object), Dict.mem_of_get?_eq_some known, rfl⟩

theorem Keyed.ensureDevice (keyed : manager.Keyed deviceId) {clientId : String}
    {context : Context} (own : deviceId context = clientId) :
    (manager.ensureDevice clientId context).1.Keyed deviceId := by
  rw [DeviceManager.ensureDevice]
  split
  · exact keyed
  · intro device object found
    simp only [Dict.get?_set] at found
    split at found
    · next same =>
        cases found
        exact ⟨context, List.getElem?_concat_length, own.trans same⟩
    · rcases keyed device object found with ⟨known, there, same⟩
      have bound := (List.getElem?_eq_some_iff.mp there).1
      exact ⟨known, (List.getElem?_append_left bound).trans there, same⟩

theorem Keyed.removeDevice (keyed : manager.Keyed deviceId) (device : String) :
    (manager.removeDevice device).1.Keyed deviceId := by
  intro other object found
  simp only [DeviceManager.removeDevice, Dict.get?_erase] at found
  split at found
  · cases found
  · exact keyed other object found

theorem Keyed.modify (keyed : manager.Keyed deviceId) (object : Nat)
    {change : Context -> Context} (same : forall context, deviceId (change context) =
      deviceId context) : (manager.modify object change).Keyed deviceId := by
  intro device other found
  rcases keyed device other found with ⟨context, there, own⟩
  refine ⟨_, by rw [objects_modify, there, Option.map_some], ?_⟩
  split
  · exact (same context).trans own
  · exact own

end DeviceManager

end Upstream
end PetlibroRelay
