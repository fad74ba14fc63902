import Mathlib.Data.List.Sublists
import PetlibroRelay.Foundations.BoundedLog
import PetlibroRelay.Foundations.Dict
import PetlibroRelay.Foundations.Json
import PetlibroRelay.Foundations.Snapshots
import PetlibroRelay.Protocol.ReplayPolicy

namespace PetlibroRelay
namespace Shadow

open Foundations
open Protocol

/-!
# The cache of the last payload per topic

Every message that passes through the relay is kept as the last one of its topic, and
the whole cache is written to a file under its lock.  The relay may be ended while it
writes, and writing may fail, which the caller is told.
-/

structure CacheEntry where
  payload : Json
  receivedAt : Rat
  deriving DecidableEq

/-- The last entry of each topic. -/
abbrev StateCache := Dict String CacheEntry

/-- A call of `update`, with the time it reads under the lock. -/
structure CacheUpdate where
  topic : String
  payload : List UInt8
  now : Rat
  deriving DecidableEq

namespace StateCache

section Updates

variable (loads : Loads) (decodeReplacing : List UInt8 -> String)

/-- A payload that is not JSON is kept as a text. -/
def entryOf (message : CacheUpdate) : CacheEntry where
  payload := (loads message.payload).getD (.str (decodeReplacing message.payload))
  receivedAt := message.now

def update (cache : StateCache) (message : CacheUpdate) : StateCache :=
  Dict.set cache message.topic (entryOf loads decodeReplacing message)

/-- The last message of a topic counts. -/
theorem get?_updates (cache : StateCache) (messages : List CacheUpdate) (topic : String) :
    Dict.get? (messages.foldl (update loads decodeReplacing) cache) topic =
      ((lastWhere (fun message => decide (message.topic = topic)) messages).map
        (entryOf loads decodeReplacing)).or (Dict.get? cache topic) := by
  induction messages using List.reverseRecOn with
  | nil => rfl
  | append_singleton earlier message inductionHypothesis =>
      rw [List.foldl_append, List.foldl_cons, List.foldl_nil, update, Dict.get?_set,
        lastWhere_concat, inductionHypothesis]
      by_cases same : message.topic = topic
      · rw [if_pos same, if_pos (decide_eq_true same), Option.map_some, Option.some_or]
      · rw [if_neg same, if_neg (by rw [decide_eq_true_eq]; exact same)]

/-- The relay and its cache file.  A file that cannot be read counts as an empty cache. -/
abbrev machine (format : Snapshots.Format StateCache) :
    Machine (Snapshots.Store StateCache CacheUpdate) (Snapshots.Action CacheUpdate) :=
  Snapshots.machine format (update loads decodeReplacing) []

end Updates

/-! ## Results -/

/-- Wherever the relay is ended, and however often writing fails, the file has the result of
some of the updates received, in their order and with all that returned among them.  None
of them is ever lost again, a running relay has at least these, and the entry of a topic is
that of the last one of the topic. -/
theorem cache_survives_restarts (loads : Loads) (decodeReplacing : List UInt8 -> String)
    (format : Snapshots.Format StateCache) (file : Option (List UInt8))
    (earlier later : List (Snapshots.Action CacheUpdate))
    (readable : Snapshots.Readable format (update loads decodeReplacing)
      (Snapshots.reload format [] (.before file : Snapshots.Store StateCache CacheUpdate))
      ((machine loads decodeReplacing format).run (.before file) (earlier ++ later))) :
    let initial := Snapshots.reload format []
      (.before file : Snapshots.Store StateCache CacheUpdate)
    let between := (machine loads decodeReplacing format).run (.before file) earlier
    let system := (machine loads decodeReplacing format).run (.before file) (earlier ++ later)
    exists keptBetween kept,
      Snapshots.Kept format (update loads decodeReplacing) [] initial between keptBetween ∧
      keptBetween <+: kept ∧
      Snapshots.Kept format (update loads decodeReplacing) [] initial system kept ∧
      forall topic, Dict.get? (Snapshots.reload format [] system) topic =
        ((lastWhere (fun message => decide (message.topic = topic)) kept).map
          (entryOf loads decodeReplacing)).or (Dict.get? initial topic) := by
  intro initial between system
  have system_eq : system = (machine loads decodeReplacing format).run between later :=
    Machine.run_append _ _ _ _
  have readableBetween : Snapshots.Readable format (update loads decodeReplacing) initial
      between := by
    refine readable.earlier ?_
    rw [Machine.run_append]
    exact Snapshots.received_run later
  obtain ⟨keptBetween, -, holdsBetween⟩ :=
    (Snapshots.kept_initial file).run earlier readableBetween
  obtain ⟨kept, grown, holds⟩ := holdsBetween.run later (system_eq ▸ readable)
  rw [← system_eq] at holds
  refine ⟨keptBetween, kept, holdsBetween, grown, holds, fun topic => ?_⟩
  rw [holds.reload_eq]
  exact get?_updates loads decodeReplacing initial kept topic

/-- A message of one topic is written, and the relay is ended while it writes the second. -/
def firstMessage : CacheUpdate := ⟨"A", [49], 0⟩

def secondMessage : CacheUpdate := ⟨"B", [50], 3⟩

def cutOff : List (Snapshots.Action CacheUpdate) × List (Snapshots.Action CacheUpdate) :=
  ([.start, .apply firstMessage, .create, .write 80, .replace],
    [.apply secondMessage, .create, .write 40, .crash])

def loadsDigits : Loads := fun payload =>
  if payload = [49] then some (.int 1) else if payload = [50] then some (.int 2) else none

/-- The texts of the caches that these messages can lead to. -/
def cacheTexts : List (StateCache × String) :=
  [([], "\x7b\x7d"),
    ([("A", ⟨.int 1, 0⟩)],
      "\x7b\n  \"A\": \x7b\n    \"payload\": 1,\n    \"received_at\": 0.0\n  \x7d\n\x7d"),
    ([("B", ⟨.int 2, 3⟩)],
      "\x7b\n  \"B\": \x7b\n    \"payload\": 2,\n    \"received_at\": 3.0\n  \x7d\n\x7d"),
    ([("A", ⟨.int 1, 0⟩), ("B", ⟨.int 2, 3⟩)],
      "\x7b\n  \"A\": \x7b\n    \"payload\": 1,\n    \"received_at\": 0.0\n  \x7d,\n  \"B\": " ++
        "\x7b\n    \"payload\": 2,\n    \"received_at\": 3.0\n  \x7d\n\x7d")]

def textBytes (text : String) : List UInt8 :=
  text.toList.map fun letter => UInt8.ofNat letter.toNat

def exampleFormat : Snapshots.Format StateCache where
  dumps cache := ((cacheTexts.find? fun entry => decide (entry.1 = cache)).map
    fun entry => textBytes entry.2).getD []
  loads bytes := (cacheTexts.find? fun entry => decide (textBytes entry.2 = bytes)).map Prod.fst

theorem readable_cutOff : Snapshots.Readable exampleFormat (update loadsDigits fun _ => "") []
    ((machine loadsDigits (fun _ => "") exampleFormat).run (.before none)
      (cutOff.1 ++ cutOff.2)) := by
  have received : ((machine loadsDigits (fun _ => "") exampleFormat).run (.before none)
      (cutOff.1 ++ cutOff.2)).received = [firstMessage, secondMessage] := by
    decide +kernel
  intro messages inside
  rw [received, ← List.mem_sublists] at inside
  revert messages
  decide +kernel

/-- The first message is there after a restart, the second is not. -/
theorem first_message_survives :
    exists keptBetween kept, keptBetween <+: kept ∧
      [firstMessage].Sublist keptBetween ∧ kept.Sublist [firstMessage, secondMessage] := by
  obtain ⟨keptBetween, kept, between, grown, holds, -⟩ := cache_survives_restarts loadsDigits
    (fun _ => "") exampleFormat none cutOff.1 cutOff.2 readable_cutOff
  refine ⟨keptBetween, kept, grown, ?_, ?_⟩
  · have returned := between.returned
    rw [show ((machine loadsDigits (fun _ => "") exampleFormat).run (.before none)
      cutOff.1).returned = [firstMessage] by decide +kernel] at returned
    exact returned
  · have received := holds.received
    rw [show ((machine loadsDigits (fun _ => "") exampleFormat).run (.before none)
      (cutOff.1 ++ cutOff.2)).received = [firstMessage, secondMessage] by decide +kernel]
      at received
    exact received

end StateCache

end Shadow
end PetlibroRelay
