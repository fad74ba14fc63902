import Mathlib.Data.List.Basic
import Mathlib.Data.List.Range
import PetlibroRelay.Foundations.Json
import PetlibroRelay.Foundations.Machine
import PetlibroRelay.Foundations.NumberedLog
import PetlibroRelay.Dashboard.SanitizedTexts

namespace PetlibroRelay
namespace Dashboard

open Foundations

/-!
# The log buffer and its streams

Log records are sanitized, numbered and kept in a bounded buffer.  A client of the
dashboard reads the newest ones once, or follows the log from a number on: its stream
takes what the buffer has of the newer entries and sends them one by one, and only
then looks again.
-/

def DEFAULT_LOG_BUFFER_SIZE : Nat := 5000

structure BufferedLogEntry where
  sequence : Nat
  timestamp : Rat
  level : String
  component : String
  message : String
  deviceId : Option String
  cmd : Option String
  deriving DecidableEq

/-- A record as the logging framework passes it on.  Rendering it fails where the
arguments do not fit the message. -/
structure LogRecord where
  created : Rat
  levelname : String
  name : Option String
  rendered : Option String
  deviceId : Option Json := none
  cmd : Option Json := none

/-! ## What is taken from a record -/

def components : List (String × String) :=
  [("credential_capture_proxy", "proxy"), ("device_registry", "registry"),
    ("mqtt_bridge", "bridge"), ("delivery_pump", "replay"), ("message_queue", "queue"),
    ("state_shadow", "shadow"), ("local_responder", "responder"),
    ("sound_switch_control", "control"), ("web", "web")]

/-- A short label for the module that logged. -/
def componentFromLogger : Option String -> String
  | none => "system"
  | some loggerName =>
      match components.find? (fun entry => entry.1.toList.isSuffixOf loggerName.toList) with
      | some entry => entry.2
      | none => "system"

/-- The first position of a text at which something is found. -/
def search (matchAt : Option Char -> List Char -> Option String) :
    Option Char -> List Char -> Option String
  | previous, [] => matchAt previous []
  | previous, letter :: rest =>
      (matchAt previous (letter :: rest)).or (search matchAt (some letter) rest)

/-- The letters after a word, at least one and as many as there are. -/
def afterWord (word : String) (letters : Char -> Bool) (text : List Char) :
    Option (List Char × List Char) :=
  if word.toList.isPrefixOf text then
    let found := (text.drop word.length).takeWhile letters
    if found = [] then none else some (found, (text.drop word.length).dropWhile letters)
  else none

def DEVICE_TOPIC_PATTERN (_ : Option Char) (text : List Char) : Option String :=
  (afterWord "dl/" (fun letter => letter != '/') text).bind fun segment =>
    (afterWord "/" (fun letter => letter != '/') segment.2).bind fun device =>
      if device.2.head? = some '/' then some (String.ofList device.1) else none

def CLIENT_ID_PATTERN (_ : Option Char) (text : List Char) : Option String :=
  (afterWord "client_id=" (fun letter => letter.isAlphanum || letter == '_' || letter == '-')
    text).map (fun found => String.ofList found.1)

def DEVICE_ID_FIELD_PATTERN (_ : Option Char) (text : List Char) : Option String :=
  (afterWord "device_id="
    (fun letter => letter.isAlphanum || letter == '.' || letter == '_' || letter == '-')
    text).map (fun found => String.ofList found.1)

section Records

variable (isAlnum : Char -> Bool)

def COMMAND_PATTERN (previous : Option Char) (text : List Char) : Option String :=
  if previous.any (isWordLetter isAlnum) then none
  else
    let letters := fun letter : Char => letter.isUpper || letter.isDigit || letter == '_'
    ((afterWord "cmd=" letters text).or (afterWord "cmd " letters text)).bind fun found =>
      if found.1.head?.any Char.isUpper && decide (2 ≤ found.1.length) then
        some (String.ofList found.1)
      else none

/-- The device a record is about: its own field, or what its text names. -/
def deviceIdFromRecord (record : LogRecord) (message : String) : Option String :=
  match record.deviceId.bind Json.str? with
  | some explicit => some explicit
  | none =>
      ((search DEVICE_TOPIC_PATTERN none message.toList).or
        (search DEVICE_ID_FIELD_PATTERN none message.toList)).or
          (search CLIENT_ID_PATTERN none message.toList)

def commandFromRecord (record : LogRecord) (message : String) : Option String :=
  match record.cmd.bind Json.str? with
  | some explicit => some explicit
  | none => search (COMMAND_PATTERN isAlnum) none message.toList

/-! ## The buffer -/

structure RingBufferLogHandler where
  maxlen : Nat
  entries : List BufferedLogEntry
  nextSequence : Nat

def RingBufferLogHandler.empty (maxEntries : Nat := DEFAULT_LOG_BUFFER_SIZE) :
    RingBufferLogHandler :=
  ⟨maxEntries, [], 1⟩

namespace RingBufferLogHandler

def entryOf (handler : RingBufferLogHandler) (record : LogRecord) (rendered : String) :
    BufferedLogEntry :=
  { sequence := handler.nextSequence
    timestamp := record.created
    level := record.levelname
    component := componentFromLogger record.name
    message := sanitizeText isAlnum rendered
    deviceId := deviceIdFromRecord record rendered
    cmd := commandFromRecord isAlnum record rendered }

/-- Append one record.  One that cannot be rendered is reported elsewhere and takes no
number. -/
def emit (handler : RingBufferLogHandler) (record : LogRecord) : RingBufferLogHandler :=
  match record.rendered with
  | none => handler
  | some rendered =>
      { handler with
        entries := keepLast handler.maxlen
          (handler.entries ++ [handler.entryOf isAlnum record rendered])
        nextSequence := handler.nextSequence + 1 }

end RingBufferLogHandler
end Records

/-- The most recent entries. -/
def RingBufferLogHandler.snapshot (handler : RingBufferLogHandler) (limit : Int) :
    List BufferedLogEntry :=
  keepLast (max 1 (min limit DEFAULT_LOG_BUFFER_SIZE)).toNat handler.entries

/-- The entries with a larger number that are there when the wait is over. -/
def RingBufferLogHandler.waitAfter (handler : RingBufferLogHandler) (sequence : Nat) :
    List BufferedLogEntry :=
  handler.entries.filter (fun entry => decide (sequence < entry.sequence))

/-! ## Streams -/

/-- What a stream sends. -/
inductive Chunk where
  | keepalive
  | log (entry : BufferedLogEntry)
  deriving DecidableEq

def Chunk.entry? : Chunk -> Option BufferedLogEntry
  | .keepalive => none
  | .log entry => some entry

/-- A stream between two chunks: the number it has come to and what it has still to send
of the last batch.  The number it was opened with and all chunks so far are beside it. -/
structure LogStream where
  after : Nat
  sequence : Nat
  entries : List BufferedLogEntry
  chunks : List Chunk
  deriving DecidableEq

def streamLogs (after : Nat) : LogStream := ⟨after, after, [], []⟩

namespace LogStream

/-- Send an entry, and go on with the given ones. -/
def yieldEntry (stream : LogStream) (entry : BufferedLogEntry) (entries : List BufferedLogEntry) :
    LogStream :=
  { stream with
    sequence := entry.sequence, entries := entries, chunks := stream.chunks ++ [.log entry] }

/-- Up to the next chunk: the next entry of the batch, or what the buffer has then. -/
def next (stream : LogStream) (handler : RingBufferLogHandler) : LogStream :=
  match stream.entries with
  | entry :: entries => stream.yieldEntry entry entries
  | [] =>
      match handler.waitAfter stream.sequence with
      | [] => { stream with chunks := stream.chunks ++ [.keepalive] }
      | entry :: entries => stream.yieldEntry entry entries

def received (stream : LogStream) : List BufferedLogEntry :=
  stream.chunks.filterMap Chunk.entry?

/-- All that the stream has taken from the buffer. -/
def taken (stream : LogStream) : List BufferedLogEntry :=
  stream.received ++ stream.entries

/-- The number of the last entry taken. -/
def reach (stream : LogStream) : Nat :=
  (stream.entries.getLast?.map BufferedLogEntry.sequence).getD stream.sequence

/-- What the stream takes from the buffer before its next chunk. -/
def batch (stream : LogStream) (handler : RingBufferLogHandler) : List BufferedLogEntry :=
  if stream.entries = [] then handler.waitAfter stream.sequence else []

theorem received_yieldEntry (stream : LogStream) (entry : BufferedLogEntry)
    (entries : List BufferedLogEntry) :
    (stream.yieldEntry entry entries).received = stream.received ++ [entry] := by
  rw [yieldEntry, received, received, List.filterMap_append]
  rfl

theorem taken_yieldEntry (stream : LogStream) (entry : BufferedLogEntry)
    (entries : List BufferedLogEntry) :
    (stream.yieldEntry entry entries).taken = stream.received ++ entry :: entries := by
  rw [taken, received_yieldEntry, List.append_assoc]
  rfl

theorem reach_yieldEntry (stream : LogStream) (entry : BufferedLogEntry)
    (entries : List BufferedLogEntry) (otherwise : Nat) :
    (stream.yieldEntry entry entries).reach =
      ((entry :: entries).getLast?.map BufferedLogEntry.sequence).getD otherwise := by
  rw [reach, List.getLast?_cons, Option.map_some, Option.getD_some, yieldEntry]
  cases entries.getLast? with
  | none => rfl
  | some last => rfl

theorem after_next (stream : LogStream) (handler : RingBufferLogHandler) :
    (stream.next handler).after = stream.after := by
  rw [next]
  split
  · rfl
  · split
    · rfl
    · rfl

theorem taken_next (stream : LogStream) (handler : RingBufferLogHandler) :
    (stream.next handler).taken = stream.taken ++ stream.batch handler := by
  rw [next, batch]
  split
  · rename_i entry entries pending
    rw [taken_yieldEntry, taken, pending, if_neg (List.cons_ne_nil _ _), List.append_nil]
  · rename_i idle
    rw [if_pos idle]
    split
    · rename_i nothing
      rw [nothing, List.append_nil, taken, taken, received, received, List.filterMap_append]
      simp [Chunk.entry?]
    · rename_i entry entries newer
      rw [taken_yieldEntry, newer, taken, idle, List.append_nil]

theorem reach_next (stream : LogStream) (handler : RingBufferLogHandler) :
    (stream.next handler).reach =
      ((stream.batch handler).getLast?.map BufferedLogEntry.sequence).getD stream.reach := by
  rw [next, batch]
  split
  · rename_i entry entries pending
    rw [reach_yieldEntry stream entry entries stream.sequence, if_neg (by rw [pending]; simp),
      reach, pending]
    rfl
  · rename_i idle
    rw [if_pos idle]
    split
    · rename_i nothing
      rw [nothing]
      rfl
    · rename_i entry entries newer
      rw [newer]
      exact reach_yieldEntry stream entry entries stream.reach

theorem reach_of_idle {stream : LogStream} (idle : stream.entries = []) :
    stream.reach = stream.sequence := by
  rw [reach, idle]
  rfl

end LogStream

/-! ## The system -/

/-- The buffer, the streams opened so far, and all entries that were ever written. -/
structure LogSystem where
  handler : RingBufferLogHandler
  streams : List LogStream
  written : List BufferedLogEntry

inductive LogAction where
  | emit (record : LogRecord)
  | openStream (after : Nat)
  | next (index : Nat)

namespace LogSystem

def start (capacity : Nat) : LogSystem := ⟨.empty capacity, [], []⟩

def machine (isAlnum : Char -> Bool) : Machine LogSystem LogAction where
  step system action :=
    match action with
    | .emit record =>
        some { system with
          handler := system.handler.emit isAlnum record
          written := system.written ++
            (record.rendered.map (system.handler.entryOf isAlnum record)).toList }
    | .openStream after => some { system with streams := system.streams ++ [streamLogs after] }
    | .next index =>
        system.streams[index]?.map fun stream =>
          { system with streams := system.streams.set index (stream.next system.handler) }

theorem step_next (isAlnum : Char -> Bool) (system : LogSystem) (index : Nat) :
    (machine isAlnum).step system (.next index) =
      system.streams[index]?.map fun stream =>
        { system with streams := system.streams.set index (stream.next system.handler) } :=
  rfl

/-- A stream has missed nothing since the number it was opened with. -/
def Complete (system : LogSystem) : Prop :=
  forall stream, stream ∈ system.streams ->
    NumberedLog.ReadsAll system.written stream.after stream.reach stream.taken

/-- When a stream looks for new entries, the buffer has not yet dropped one that it lacks. -/
def KeepsUp (system : LogSystem) : LogAction -> Prop
  | .next index =>
      forall stream, stream ∈ system.streams[index]? -> stream.entries = [] ->
        system.written.length - stream.sequence ≤ system.handler.maxlen
  | _ => True

instance keepsUpDecidable (system : LogSystem) :
    (action : LogAction) -> Decidable (KeepsUp system action)
  | .next index => inferInstanceAs (Decidable (forall stream, stream ∈ system.streams[index]? ->
      stream.entries = [] -> system.written.length - stream.sequence ≤ system.handler.maxlen))
  | .emit _ => isTrue trivial
  | .openStream _ => isTrue trivial

/-! ## What every step keeps -/

/-- How the buffer and the streams stand to what was written. -/
structure Sound (isAlnum : Char -> Bool) (capacity : Nat) (system : LogSystem) : Prop where
  capacity_eq : system.handler.maxlen = capacity
  numbered : NumberedLog.Numbered BufferedLogEntry.sequence system.written
  next_eq : system.handler.nextSequence = system.written.length + 1
  entries_eq : system.handler.entries = keepLast capacity system.written
  redacted : forall entry, entry ∈ system.written -> forall pattern, pattern ∈ fieldPatterns ->
    Redacted isAlnum pattern none entry.message.toList
  placed : forall stream, stream ∈ system.streams ->
    NumberedLog.Placed system.written stream.after stream.reach
  reads : forall stream, stream ∈ system.streams ->
    NumberedLog.Reads system.written stream.after stream.reach stream.taken

section Steps

variable {isAlnum : Char -> Bool} {capacity : Nat} {system : LogSystem}

theorem sound_start (isAlnum : Char -> Bool) (capacity : Nat) :
    Sound isAlnum capacity (start capacity) where
  capacity_eq := rfl
  numbered := NumberedLog.numbered_nil
  next_eq := rfl
  entries_eq := List.drop_nil.symm
  redacted := by rintro entry ⟨⟩
  placed := by rintro stream ⟨⟩
  reads := by rintro stream ⟨⟩

/-- Writing one entry: the streams stand as before. -/
theorem Sound.write (sound : Sound isAlnum capacity system) (record : LogRecord)
    (rendered : String) :
    Sound isAlnum capacity
      { system with
        handler := { system.handler with
          entries := keepLast system.handler.maxlen
            (system.handler.entries ++ [system.handler.entryOf isAlnum record rendered])
          nextSequence := system.handler.nextSequence + 1 }
        written := system.written ++ [system.handler.entryOf isAlnum record rendered] } where
  capacity_eq := sound.capacity_eq
  numbered := sound.numbered.concat sound.next_eq
  next_eq := by
    dsimp only
    rw [sound.next_eq, List.length_append, List.length_singleton]
  entries_eq := by
    dsimp only
    rw [sound.capacity_eq, sound.entries_eq, keepLast_keepLast_concat]
  redacted := by
    intro entry member
    rcases List.mem_append.mp member with old | new
    · exact sound.redacted entry old
    · rw [List.mem_singleton.mp new]
      intro pattern listed
      exact redacted_sanitizeText isAlnum rendered listed
  placed := fun stream opened => (sound.placed stream opened).concat _
  reads := by
    intro stream opened
    rw [NumberedLog.Reads, (sound.placed stream opened).stretch_concat]
    exact sound.reads stream opened

theorem mem_streams_openStream {stream : LogStream} {after : Nat}
    (opened : stream ∈ system.streams ++ [streamLogs after]) :
    stream ∈ system.streams ∨ stream = streamLogs after :=
  (List.mem_append.mp opened).imp id List.mem_singleton.mp

theorem readsAll_streamLogs (log : List BufferedLogEntry) (after : Nat) :
    NumberedLog.ReadsAll log (streamLogs after).after (streamLogs after).reach
      (streamLogs after).taken :=
  (List.drop_eq_nil_of_le (List.length_take_le _ _)).symm

theorem Sound.openStream (sound : Sound isAlnum capacity system) (after : Nat) :
    Sound isAlnum capacity { system with streams := system.streams ++ [streamLogs after] } where
  capacity_eq := sound.capacity_eq
  numbered := sound.numbered
  next_eq := sound.next_eq
  entries_eq := sound.entries_eq
  redacted := sound.redacted
  placed := by
    intro stream opened
    rcases mem_streams_openStream opened with old | rfl
    · exact sound.placed stream old
    · exact ⟨le_refl _, .inr rfl⟩
  reads := by
    intro stream opened
    rcases mem_streams_openStream opened with old | rfl
    · exact sound.reads stream old
    · exact (readsAll_streamLogs system.written after).reads

/-- What an idle stream takes is the end of the log, as far back as the buffer goes. -/
theorem Sound.batch_of_idle (sound : Sound isAlnum capacity system) {stream : LogStream}
    (idle : stream.entries = []) :
    stream.batch system.handler =
      system.written.drop (max stream.reach (system.written.length - capacity)) := by
  rw [LogStream.batch, if_pos idle, RingBufferLogHandler.waitAfter, sound.entries_eq,
    LogStream.reach_of_idle idle]
  exact sound.numbered.filter_newer_keepLast capacity stream.sequence

/-- A stream either takes nothing, or it is idle and comes to the end of the log. -/
theorem Sound.next_cases (sound : Sound isAlnum capacity system) (stream : LogStream) :
    ((stream.next system.handler).taken = stream.taken ∧
        (stream.next system.handler).reach = stream.reach ∧
        (stream.entries = [] ->
          system.written.length ≤ max stream.reach (system.written.length - capacity))) ∨
      (stream.entries = [] ∧
        max stream.reach (system.written.length - capacity) < system.written.length ∧
        (stream.next system.handler).taken = stream.taken ++
          system.written.drop (max stream.reach (system.written.length - capacity)) ∧
        (stream.next system.handler).reach = system.written.length) := by
  rw [LogStream.taken_next, LogStream.reach_next]
  by_cases idle : stream.entries = []
  · rw [sound.batch_of_idle idle]
    rcases Nat.lt_or_ge (max stream.reach (system.written.length - capacity))
      system.written.length with behind | ahead
    · refine .inr ⟨idle, behind, rfl, ?_⟩
      rw [sound.numbered.getLast?_drop behind, Option.getD_some]
    · refine .inl ⟨?_, ?_, fun _ => ahead⟩
      · rw [List.drop_eq_nil_of_le ahead, List.append_nil]
      · rw [List.drop_eq_nil_of_le ahead]
        rfl
  · refine .inl ⟨?_, ?_, fun isIdle => absurd isIdle idle⟩
    · rw [LogStream.batch, if_neg idle, List.append_nil]
    · rw [LogStream.batch, if_neg idle]
      rfl

theorem Sound.next (sound : Sound isAlnum capacity system) {index : Nat} {stream : LogStream}
    (opened : system.streams[index]? = some stream) :
    Sound isAlnum capacity
      { system with streams := system.streams.set index (stream.next system.handler) } := by
  have member := List.mem_of_getElem? opened
  have placed := sound.placed stream member
  have moved : NumberedLog.Placed system.written (stream.next system.handler).after
        (stream.next system.handler).reach ∧
      NumberedLog.Reads system.written (stream.next system.handler).after
        (stream.next system.handler).reach (stream.next system.handler).taken := by
    rw [LogStream.after_next]
    rcases sound.next_cases stream with ⟨taken, reach, -⟩ | ⟨-, behind, taken, reach⟩
    · rw [taken, reach]
      exact ⟨placed, sound.reads stream member⟩
    · rw [taken, reach]
      have inside := Nat.lt_of_le_of_lt (Nat.le_max_left _ _) behind
      exact ⟨⟨placed.1.trans inside.le, .inl (le_refl _)⟩,
        (sound.reads stream member).catchUp placed capacity⟩
  exact
    { capacity_eq := sound.capacity_eq
      numbered := sound.numbered
      next_eq := sound.next_eq
      entries_eq := sound.entries_eq
      redacted := sound.redacted
      placed := by
        intro other opened
        rcases List.mem_or_eq_of_mem_set opened with old | rfl
        · exact sound.placed other old
        · exact moved.1
      reads := by
        intro other opened
        rcases List.mem_or_eq_of_mem_set opened with old | rfl
        · exact sound.reads other old
        · exact moved.2 }

theorem Sound.step (sound : Sound isAlnum capacity system) {action : LogAction}
    {after : LogSystem} (moved : (machine isAlnum).step system action = some after) :
    Sound isAlnum capacity after := by
  cases action with
  | emit record =>
      rw [machine, Option.some_inj] at moved
      subst moved
      rw [RingBufferLogHandler.emit]
      cases rendered : record.rendered with
      | none =>
          rw [Option.map_none, Option.toList_none, List.append_nil]
          exact sound
      | some text => exact sound.write record text
  | openStream number =>
      rw [machine, Option.some_inj] at moved
      subst moved
      exact sound.openStream number
  | next index =>
      rw [machine, Option.map_eq_some_iff] at moved
      obtain ⟨stream, opened, rfl⟩ := moved
      exact sound.next opened

theorem sound_run (isAlnum : Char -> Bool) (capacity : Nat) (actions : List LogAction) :
    Sound isAlnum capacity ((machine isAlnum).run (start capacity) actions) :=
  (machine isAlnum).run_invariant (Sound isAlnum capacity)
    (fun _ _ _ sound moved => sound.step moved) _ actions (sound_start isAlnum capacity)

/-! ## Streams that keep up -/

theorem Sound.complete_next_iff (sound : Sound isAlnum capacity system) (room : 0 < capacity)
    (complete : Complete system) {index : Nat} {stream : LogStream}
    (opened : system.streams[index]? = some stream) :
    Complete { system with streams := system.streams.set index (stream.next system.handler) } ↔
      (stream.entries = [] -> system.written.length - stream.sequence ≤ capacity) := by
  have member := List.mem_of_getElem? opened
  have inside : index < system.streams.length := (List.getElem?_eq_some_iff.mp opened).1
  have own : Complete
        { system with streams := system.streams.set index (stream.next system.handler) } ↔
      NumberedLog.ReadsAll system.written stream.after (stream.next system.handler).reach
        (stream.next system.handler).taken := by
    rw [← LogStream.after_next stream system.handler]
    constructor
    · exact fun kept => kept _ (List.mem_iff_getElem?.mpr
        ⟨index, List.getElem?_set_self inside⟩)
    · intro kept other present
      rcases List.mem_or_eq_of_mem_set present with old | rfl
      · exact complete other old
      · exact kept
  rw [own]
  rcases sound.next_cases stream with ⟨taken, reach, ahead⟩ | ⟨idle, behind, taken, reach⟩
  · rw [taken, reach]
    refine iff_of_true (complete stream member) fun idle => ?_
    have atEnd := ahead idle
    rw [LogStream.reach_of_idle idle] at atEnd
    omega
  · rw [taken, reach, NumberedLog.ReadsAll.catchUp_iff (sound.placed stream member)
      (complete stream member) behind, LogStream.reach_of_idle idle]
    exact ⟨fun near _ => near, fun near => near idle⟩

theorem Sound.complete_iff (sound : Sound isAlnum capacity system) (room : 0 < capacity)
    (complete : Complete system) (action : LogAction) :
    Complete ((machine isAlnum).next system action) ↔ KeepsUp system action := by
  cases action with
  | emit record =>
      refine iff_of_true ?_ trivial
      intro stream opened
      have before := complete stream opened
      cases rendered : record.rendered with
      | none =>
          simp only [Machine.next, machine, rendered, Option.getD_some, Option.map_none,
            Option.toList_none, List.append_nil]
          exact before
      | some text =>
          simp only [Machine.next, machine, rendered, Option.getD_some, Option.map_some,
            Option.toList_some, NumberedLog.ReadsAll,
            (sound.placed stream opened).stretch_concat]
          exact before
  | openStream number =>
      refine iff_of_true ?_ trivial
      intro stream opened
      rcases mem_streams_openStream opened with old | rfl
      · exact complete stream old
      · exact readsAll_streamLogs system.written number
  | next index =>
      rw [KeepsUp, Machine.next, step_next]
      cases opened : system.streams[index]? with
      | none =>
          refine iff_of_true complete ?_
          rintro stream ⟨⟩
      | some stream =>
          rw [Option.map_some, Option.getD_some, sound.complete_next_iff room complete opened,
            sound.capacity_eq]
          constructor
          · rintro near other same idle
            cases same
            exact near idle
          · exact fun near idle => near stream rfl idle

theorem written_step {action : LogAction} {after : LogSystem}
    (moved : (machine isAlnum).step system action = some after) :
    system.written <+: after.written := by
  cases action with
  | emit record =>
      rw [machine, Option.some_inj] at moved
      subst moved
      exact List.prefix_append _ _
  | openStream number =>
      rw [machine, Option.some_inj] at moved
      subst moved
      exact List.prefix_refl _
  | next index =>
      rw [step_next, Option.map_eq_some_iff] at moved
      obtain ⟨stream, opened, rfl⟩ := moved
      exact List.prefix_refl _

theorem written_run (system : LogSystem) (actions : List LogAction) :
    system.written <+: ((machine isAlnum).run system actions).written :=
  (machine isAlnum).run_invariant (fun after => system.written <+: after.written)
    (fun _ _ _ grown moved => grown.trans (written_step moved)) system actions
    (List.prefix_refl _)

/-- A snapshot is the end of what was written. -/
theorem Sound.snapshot_eq (sound : Sound isAlnum capacity system) (limit : Int) :
    exists count, system.handler.snapshot limit = system.written.drop count := by
  rw [RingBufferLogHandler.snapshot, sound.entries_eq, keepLast, keepLast, List.drop_drop]
  exact ⟨_, rfl⟩

end Steps

/-! ## Runs -/

section Runs

variable (isAlnum : Char -> Bool) (capacity : Nat)

/-- Whatever is logged, opened and read in which order, the entries have the numbers from
one on and the buffer holds the last of them.  Every stream sends entries that were written,
each at most once and in their order, all newer than the number it was opened with, and no
message has a field that is not in its redacted form. -/
theorem streams_faithful (actions : List LogAction) :
    let system := (machine isAlnum).run (start capacity) actions
    NumberedLog.Numbered BufferedLogEntry.sequence system.written ∧
    system.handler.entries = keepLast capacity system.written ∧
    forall stream, stream ∈ system.streams ->
      stream.taken.Sublist system.written ∧
      (stream.taken.Pairwise fun earlier later => earlier.sequence < later.sequence) ∧
      forall entry, entry ∈ stream.taken -> stream.after < entry.sequence ∧
        forall pattern, pattern ∈ fieldPatterns ->
          Redacted isAlnum pattern none entry.message.toList := by
  intro system
  have sound : Sound isAlnum capacity system := sound_run isAlnum capacity actions
  refine ⟨sound.numbered, sound.entries_eq, fun stream opened => ?_⟩
  have reads := sound.reads stream opened
  have inside : stream.taken.Sublist (system.written.drop stream.after) :=
    reads.trans ((List.take_sublist _ _).drop _)
  have written : stream.taken.Sublist system.written := inside.trans (List.drop_sublist _ _)
  refine ⟨written, sound.numbered.increasing.sublist written, fun entry member => ?_⟩
  exact ⟨sound.numbered.lt_of_mem_drop (inside.subset member),
    sound.redacted entry (written.subset member)⟩

/-- Streams that keep up miss nothing. -/
theorem complete_run (room : 0 < capacity) {actions : List LogAction}
    (keepsUp : (machine isAlnum).Meets KeepsUp (start capacity) actions) :
    Complete ((machine isAlnum).run (start capacity) actions) := by
  refine ((machine isAlnum).run_invariant_of_meets KeepsUp
    (fun system => Sound isAlnum capacity system ∧ Complete system) ?_ (start capacity) actions
    ⟨sound_start isAlnum capacity, by rintro stream ⟨⟩⟩ keepsUp).2
  rintro system action after ⟨sound, complete⟩ near moved
  have next := (sound.complete_iff room complete action).mpr near
  rw [Machine.next, moved, Option.getD_some] at next
  exact ⟨sound.step moved, next⟩

/-- In all states of a run every stream has, without a gap, what was written between the
number it was opened with and the last entry it took, exactly if no stream ever looks for
new entries when more than the capacity of the buffer was written since its last one. -/
theorem streams_complete_iff (room : 0 < capacity) (actions : List LogAction) :
    (forall early, early <+: actions ->
        Complete ((machine isAlnum).run (start capacity) early)) ↔
      (machine isAlnum).Meets KeepsUp (start capacity) actions := by
  have exact_rule := (machine isAlnum).reached_iff_meets KeepsUp
    (fun system => Sound isAlnum capacity system ∧ Complete system)
    (fun system action kept => by
      rw [← kept.1.complete_iff room kept.2 action]
      refine and_iff_right ?_
      rcases (machine isAlnum).next_cases system action with refused | moved
      · rw [refused]
        exact kept.1
      · exact kept.1.step moved)
    (start capacity) actions ⟨sound_start isAlnum capacity, by rintro stream ⟨⟩⟩
  rw [← exact_rule]
  exact forall₂_congr fun early _ =>
    (and_iff_right (sound_run isAlnum capacity early)).symm

/-- Two entries written into a buffer for one, before the stream looks for the first time. -/
def overrun : List LogAction :=
  [.openStream 0, .emit ⟨0, "INFO", none, some "first", none, none⟩,
    .emit ⟨1, "INFO", none, some "second", none, none⟩, .next 0]

theorem streams_complete_iff_overrun :
    0 < 1 ∧ ¬ forall early, early <+: overrun ->
      Complete ((machine Char.isAlphanum).run (start 1) early) := by
  refine ⟨by decide, fun complete => ?_⟩
  have keepsUp := (streams_complete_iff Char.isAlphanum 1 (by decide) overrun).mp complete
  exact absurd keepsUp (by decide +kernel)

/-- A client that shows a snapshot and then follows the log from its last number on, while
the streams keep up, has seen a stretch of the log, each entry once. -/
theorem snapshot_then_stream (room : 0 < capacity) (earlier later : List LogAction) (limit : Int)
    (last : BufferedLogEntry) (stream : LogStream)
    (keepsUp : (machine isAlnum).Meets KeepsUp (start capacity) (earlier ++ later))
    (shown : (((machine isAlnum).run (start capacity) earlier).handler.snapshot limit).getLast? =
      some last)
    (opened : stream ∈ ((machine isAlnum).run (start capacity) (earlier ++ later)).streams)
    (follows : stream.after = last.sequence) :
    exists count,
      ((machine isAlnum).run (start capacity) earlier).handler.snapshot limit ++ stream.taken =
        (((machine isAlnum).run (start capacity) (earlier ++ later)).written.take
          stream.reach).drop count := by
  have soundBefore := sound_run isAlnum capacity earlier
  have sound := sound_run isAlnum capacity (earlier ++ later)
  have complete := complete_run isAlnum capacity room keepsUp stream opened
  have grown : ((machine isAlnum).run (start capacity) earlier).written <+:
      ((machine isAlnum).run (start capacity) (earlier ++ later)).written := by
    rw [Machine.run_append]
    exact written_run _ later
  obtain ⟨count, snapshot_eq⟩ := soundBefore.snapshot_eq limit
  generalize (machine isAlnum).run (start capacity) earlier = before at *
  generalize (machine isAlnum).run (start capacity) (earlier ++ later) = system at *
  obtain ⟨more, written_eq⟩ := grown
  have inside : count < before.written.length := by
    by_contra beyond
    rw [snapshot_eq, List.drop_eq_nil_of_le (Nat.not_lt.mp beyond)] at shown
    cases shown
  have number : last.sequence = before.written.length := by
    have ends := soundBefore.numbered.getLast?_drop inside
    rw [← snapshot_eq, shown, Option.map_some, Option.some_inj] at ends
    exact ends
  have ordered := (sound.placed stream opened).1
  rw [follows, number] at ordered
  rw [NumberedLog.ReadsAll, follows, number] at complete
  refine ⟨count, ?_⟩
  rw [snapshot_eq, complete, ← written_eq]
  have atSeam : (before.written ++ more).take stream.reach =
      before.written ++ more.take (stream.reach - before.written.length) := by
    rw [List.take_append, List.take_of_length_le ordered]
  rw [atSeam, List.drop_left, List.drop_append_of_le_length inside.le]

/-- A record before the snapshot and one that is streamed after it. -/
def shownThenFollowed : List LogAction × List LogAction :=
  ([.emit ⟨0, "INFO", none, some "first", none, none⟩],
    [.openStream 1, .emit ⟨1, "INFO", none, some "second", none, none⟩, .next 0])

theorem snapshot_then_stream_one :
    exists count,
      ((machine Char.isAlphanum).run (start 2) shownThenFollowed.1).handler.snapshot 10 ++
          [⟨2, 1, "INFO", "system", "second", none, none⟩] =
        (((machine Char.isAlphanum).run (start 2)
          (shownThenFollowed.1 ++ shownThenFollowed.2)).written.take 2).drop count :=
  snapshot_then_stream Char.isAlphanum 2 (by decide) shownThenFollowed.1 shownThenFollowed.2 10
    ⟨1, 0, "INFO", "system", "first", none, none⟩
    ⟨1, 2, [], [.log ⟨2, 1, "INFO", "system", "second", none, none⟩]⟩
    (by decide +kernel) (by decide +kernel) (by decide +kernel) rfl

end Runs

end LogSystem

end Dashboard
end PetlibroRelay
