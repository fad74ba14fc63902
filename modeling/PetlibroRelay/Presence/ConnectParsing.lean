import PetlibroRelay.Presence.CaptureForwarding

namespace PetlibroRelay
namespace Presence

open Foundations

/-!
# Which packets are read, and what is read of them

The layout of a CONNECT packet, apart from how it is read.  A stream is read exactly
when it begins with a packet whose body begins with a layout, and then the fields of
the layout are what is returned.  Both hold for every way the stream arrives, because
an exact read depends on the stream alone.
-/

/-! ## Layouts -/

/-- A field with its length prefix. -/
def prefixed (field : Bytes) : Bytes :=
  UInt8.ofNat (field.length / 256) :: UInt8.ofNat (field.length % 256) :: field

/-- A field that is there when a flag announces it. -/
def prefixedAnnounced : Option Bytes -> Bytes
  | none => []
  | some field => prefixed field

/-- The contents of a CONNECT body.  The optional fields are those that the flags announce. -/
structure ConnectLayout where
  protocolName : Bytes
  level : UInt8
  flags : UInt8
  keepAliveHigh : UInt8
  keepAliveLow : UInt8
  clientId : Bytes
  willTopic : Option Bytes
  willMessage : Option Bytes
  username : Option Bytes
  password : Option Bytes
  topicAnnounced : willTopic.isSome = hasFlag flags WILL_FLAG_BIT
  messageAnnounced : willMessage.isSome = hasFlag flags WILL_FLAG_BIT
  usernameAnnounced : username.isSome = hasFlag flags USERNAME_FLAG_BIT
  passwordAnnounced : password.isSome = hasFlag flags PASSWORD_FLAG_BIT
  shortName : protocolName.length ≤ 65535
  shortClientId : clientId.length ≤ 65535
  shortTopic : forall field, field ∈ willTopic -> field.length ≤ 65535
  shortMessage : forall field, field ∈ willMessage -> field.length ≤ 65535
  shortUsername : forall field, field ∈ username -> field.length ≤ 65535
  shortPassword : forall field, field ∈ password -> field.length ≤ 65535

/-- The body of the packet. -/
def ConnectLayout.body (layout : ConnectLayout) : Bytes :=
  prefixed layout.protocolName ++
    ([layout.level, layout.flags, layout.keepAliveHigh, layout.keepAliveLow] ++
      (prefixed layout.clientId ++ (prefixedAnnounced layout.willTopic ++
        (prefixedAnnounced layout.willMessage ++ (prefixedAnnounced layout.username ++
          prefixedAnnounced layout.password)))))

/-- A remaining length, lowest digits first, with a continuation bit on every byte but the
last. -/
inductive EncodesLength : Bytes -> Nat -> Prop where
  | last {byte : UInt8} (ends : byte &&& CONTINUATION_BIT = 0) :
      EncodesLength [byte] (byte &&& REMAINING_LENGTH_VALUE_MASK).toNat
  | more {byte : UInt8} {rest : Bytes} {value : Nat} (continues : byte &&& CONTINUATION_BIT ≠ 0)
      (further : EncodesLength rest value) :
      EncodesLength (byte :: rest) ((byte &&& REMAINING_LENGTH_VALUE_MASK).toNat + 128 * value)

/-! ## Reading a field -/

/-- A field is read off what stands at the offset. -/
theorem readLengthPrefixedString_eq (buffer : Bytes) (offset : Nat) (rawPacket : Bytes) :
    readLengthPrefixedString buffer offset rawPacket =
      match buffer.drop offset with
      | high :: low :: rest =>
          if rest.length < high.toNat * 256 + low.toNat then
            .error (.malformedConnectPacket "truncated field" rawPacket)
          else
            .ok (Utf8.decode (rest.take (high.toNat * 256 + low.toNat)),
              offset + 2 + (high.toNat * 256 + low.toNat))
      | _ => .error (.malformedConnectPacket "truncated length prefix" rawPacket) := by
  have size : (buffer.drop offset).length = buffer.length - offset := List.length_drop
  rw [readLengthPrefixedString]
  rcases found : buffer.drop offset with _ | ⟨high, _ | ⟨low, rest⟩⟩
  · rw [found, List.length_nil] at size
    rw [if_pos (by omega)]
  · rw [found, List.length_singleton] at size
    rw [if_pos (by omega)]
  · rw [found, List.length_cons, List.length_cons] at size
    have first : byteAt buffer offset = .ok high := by
      rw [byteAt, ← Nat.add_zero offset, ← List.getElem?_drop, found]
      rfl
    have second : byteAt buffer (offset + 1) = .ok low := by
      rw [byteAt, ← List.getElem?_drop, found]
      rfl
    have start : buffer.drop (offset + 2) = rest := by
      rw [← List.drop_drop, found]
      rfl
    have number : high.toNat <<< 8 ||| low.toNat = high.toNat * 256 + low.toNat := by
      rw [← Nat.shiftLeft_add_eq_or_of_lt low.toNat_lt, Nat.shiftLeft_eq]
    rw [if_neg (by omega), first, second]
    simp only [bind, Except.bind, number, start]
    by_cases long : rest.length < high.toNat * 256 + low.toNat
    · rw [if_pos long, if_pos (by omega)]
    · rw [if_neg long, if_neg (by omega)]

/-- A field that stands at the offset is read. -/
theorem readLengthPrefixedString_field {buffer field after : Bytes} {offset : Nat}
    (found : buffer.drop offset = prefixed field ++ after) (short : field.length ≤ 65535)
    (rawPacket : Bytes) :
    exists stop, readLengthPrefixedString buffer offset rawPacket = .ok (Utf8.decode field, stop) ∧
      buffer.drop stop = after := by
  have length : (UInt8.ofNat (field.length / 256)).toNat * 256 +
      (UInt8.ofNat (field.length % 256)).toNat = field.length := by
    rw [UInt8.toNat_ofNat', UInt8.toNat_ofNat']
    omega
  refine ⟨offset + 2 + field.length, ?_, ?_⟩
  · rw [readLengthPrefixedString_eq, found, prefixed, List.cons_append, List.cons_append]
    simp only [length]
    rw [if_neg (by rw [List.length_append]; omega), List.take_left]
  · rw [Nat.add_assoc, ← List.drop_drop, found, prefixed, List.cons_append, List.cons_append,
      Nat.add_comm 2, List.drop_succ_cons, List.drop_succ_cons, List.drop_left]

/-- What is read is a field that stands at the offset. -/
theorem field_of_readLengthPrefixedString {buffer rawPacket : Bytes} {offset : Nat}
    {text : String × Nat} (done : readLengthPrefixedString buffer offset rawPacket = .ok text) :
    exists field, field.length ≤ 65535 ∧
      buffer.drop offset = prefixed field ++ buffer.drop text.2 := by
  rw [readLengthPrefixedString_eq] at done
  rcases found : buffer.drop offset with _ | ⟨high, _ | ⟨low, rest⟩⟩
  · rw [found] at done
    cases done
  · rw [found] at done
    cases done
  · simp only [found] at done
    split at done
    · cases done
    · next long =>
        cases done
        have highBound := high.toNat_lt
        have lowBound := low.toNat_lt
        have length : (rest.take (high.toNat * 256 + low.toNat)).length =
            high.toNat * 256 + low.toNat := by
          rw [List.length_take]
          omega
        refine ⟨rest.take (high.toNat * 256 + low.toNat), by omega, ?_⟩
        have first : UInt8.ofNat ((high.toNat * 256 + low.toNat) / 256) = high := by
          rw [show (high.toNat * 256 + low.toNat) / 256 = high.toNat by omega, UInt8.ofNat_toNat]
        have second : UInt8.ofNat ((high.toNat * 256 + low.toNat) % 256) = low := by
          rw [show (high.toNat * 256 + low.toNat) % 256 = low.toNat by omega, UInt8.ofNat_toNat]
        have after : buffer.drop (offset + 2 + (high.toNat * 256 + low.toNat)) =
            rest.drop (high.toNat * 256 + low.toNat) := by
          rw [Nat.add_assoc, ← List.drop_drop, found, Nat.add_comm 2, List.drop_succ_cons,
            List.drop_succ_cons]
        rw [after, prefixed, length, first, second, List.cons_append, List.cons_append,
          List.take_append_drop]

/-- A field that a flag announces. -/
theorem readAnnounced_field {buffer after : Bytes} {field : Option Bytes} {offset : Nat}
    {announced : Bool} (known : field.isSome = announced)
    (found : buffer.drop offset = prefixedAnnounced field ++ after)
    (short : forall bytes, bytes ∈ field -> bytes.length ≤ 65535) (rawPacket : Bytes) :
    exists stop, readAnnounced announced buffer offset rawPacket =
        .ok (field.map Utf8.decode, stop) ∧ buffer.drop stop = after := by
  subst known
  cases field with
  | none => exact ⟨offset, rfl, found⟩
  | some bytes =>
      obtain ⟨stop, read, rest⟩ := readLengthPrefixedString_field found (short bytes rfl) rawPacket
      refine ⟨stop, ?_, rest⟩
      rw [readAnnounced, Option.isSome_some, if_pos rfl, read]
      rfl

theorem field_of_readAnnounced {buffer rawPacket : Bytes} {offset : Nat} {announced : Bool}
    {text : Option String × Nat}
    (done : readAnnounced announced buffer offset rawPacket = .ok text) :
    exists field : Option Bytes, field.isSome = announced ∧
      (forall bytes, bytes ∈ field -> bytes.length ≤ 65535) ∧
        buffer.drop offset = prefixedAnnounced field ++ buffer.drop text.2 := by
  rw [readAnnounced] at done
  split at done
  · next present =>
      rcases read : readLengthPrefixedString buffer offset rawPacket with failed | value
      · rw [read] at done
        cases done
      · rw [read] at done
        cases done
        obtain ⟨field, short, found⟩ := field_of_readLengthPrefixedString read
        refine ⟨some field, present.symm, ?_, found⟩
        rintro bytes ⟨rfl⟩
        exact short
  · next missing =>
      cases done
      exact ⟨none, (Bool.not_eq_true _ ▸ missing).symm, by rintro _ ⟨⟩, rfl⟩

/-! ## Reading a body -/

/-- The fields of a layout. -/
def ConnectLayout.fields (layout : ConnectLayout) : ConnectPacketFields where
  clientId := Utf8.decode layout.clientId
  username := layout.username.map Utf8.decode
  password := layout.password.map Utf8.decode

/-- A body that begins with a layout is read. -/
theorem readFields_layout (layout : ConnectLayout) (trailing rawPacket : Bytes) :
    readFields (layout.body ++ trailing) rawPacket = .ok layout.fields := by
  generalize whole : layout.body ++ trailing = body
  rw [ConnectLayout.body, List.append_assoc, List.append_assoc, List.append_assoc,
    List.append_assoc, List.append_assoc, List.append_assoc] at whole
  obtain ⟨named, readName, afterName⟩ := readLengthPrefixedString_field
    (List.drop_zero.trans whole.symm) layout.shortName rawPacket
  have inside : named + 2 ≤ body.length := by
    have size := congrArg List.length afterName
    rw [List.length_drop, List.length_append] at size
    simp only [List.length_cons] at size
    omega
  have flags : byteAt body (named + 1) = .ok layout.flags := by
    rw [byteAt, ← List.getElem?_drop, afterName]
    rfl
  have payload : body.drop (named + 2 + 2) =
      prefixed layout.clientId ++ (prefixedAnnounced layout.willTopic ++
        (prefixedAnnounced layout.willMessage ++ (prefixedAnnounced layout.username ++
          (prefixedAnnounced layout.password ++ trailing)))) := by
    rw [Nat.add_assoc, ← List.drop_drop, afterName]
    rfl
  obtain ⟨identified, readId, afterId⟩ :=
    readLengthPrefixedString_field payload layout.shortClientId rawPacket
  obtain ⟨topical, readTopic, afterTopic⟩ :=
    readAnnounced_field layout.topicAnnounced afterId layout.shortTopic rawPacket
  obtain ⟨willed, readMessage, afterMessage⟩ :=
    readAnnounced_field layout.messageAnnounced afterTopic layout.shortMessage rawPacket
  obtain ⟨authorised, readUsername, afterUsername⟩ :=
    readAnnounced_field layout.usernameAnnounced afterMessage layout.shortUsername rawPacket
  obtain ⟨ended, readPassword, -⟩ :=
    readAnnounced_field layout.passwordAnnounced afterUsername layout.shortPassword rawPacket
  simp only [readFields, readName, bind, Except.bind, if_neg (Nat.not_lt.mpr inside), gt_iff_lt,
    flags, readId, readTopic, readMessage, readUsername, readPassword]
  rfl

/-- A sequence that gives a value has given one in its first part. -/
theorem ok_of_bind {α β : Type} {first : Except ReadError α} {next : α -> Except ReadError β}
    {value : β} (done : first >>= next = .ok value) :
    exists result, first = .ok result ∧ next result = .ok value := by
  cases first with
  | error failed => cases done
  | ok result => exact ⟨result, rfl, done⟩

/-- The four bytes between the protocol name and a field that has been read. -/
theorem header_of_flags {body field rest : Bytes} {offset : Nat} {flags : UInt8}
    (read : byteAt body (offset + 1) = .ok flags)
    (found : body.drop (offset + 2 + 2) = prefixed field ++ rest) :
    exists level keepAliveHigh keepAliveLow,
      body.drop offset = [level, flags, keepAliveHigh, keepAliveLow] ++
        body.drop (offset + 2 + 2) := by
  rw [byteAt, ← List.getElem?_drop] at read
  rw [Nat.add_assoc, ← List.drop_drop] at found ⊢
  generalize body.drop offset = header at read found ⊢
  rcases header with _ | ⟨level, _ | ⟨byte, _ | ⟨high, _ | ⟨low, after⟩⟩⟩⟩
  · cases read
  · cases read
  · cases found
  · cases found
  · cases read
    exact ⟨level, high, low, rfl⟩

/-- A body that is read begins with a layout. -/
theorem layout_of_readFields {body rawPacket : Bytes} {fields : ConnectPacketFields}
    (done : readFields body rawPacket = .ok fields) :
    exists (layout : ConnectLayout) (trailing : Bytes), body = layout.body ++ trailing := by
  rw [readFields] at done
  obtain ⟨name, readName, done⟩ := ok_of_bind done
  dsimp only at done
  split at done
  · cases done
  · next inside =>
      obtain ⟨flags, readFlags, done⟩ := ok_of_bind done
      obtain ⟨clientId, readId, done⟩ := ok_of_bind done
      obtain ⟨topic, readTopic, done⟩ := ok_of_bind done
      obtain ⟨message, readMessage, done⟩ := ok_of_bind done
      obtain ⟨username, readUsername, done⟩ := ok_of_bind done
      obtain ⟨password, readPassword, -⟩ := ok_of_bind done
      obtain ⟨protocolName, shortName, foundName⟩ := field_of_readLengthPrefixedString readName
      obtain ⟨id, shortId, foundId⟩ := field_of_readLengthPrefixedString readId
      obtain ⟨willTopic, topicAnnounced, shortTopic, foundTopic⟩ :=
        field_of_readAnnounced readTopic
      obtain ⟨willMessage, messageAnnounced, shortMessage, foundMessage⟩ :=
        field_of_readAnnounced readMessage
      obtain ⟨user, usernameAnnounced, shortUsername, foundUsername⟩ :=
        field_of_readAnnounced readUsername
      obtain ⟨secret, passwordAnnounced, shortPassword, foundPassword⟩ :=
        field_of_readAnnounced readPassword
      obtain ⟨level, keepAliveHigh, keepAliveLow, found⟩ := header_of_flags readFlags foundId
      refine ⟨⟨protocolName, level, flags, keepAliveHigh, keepAliveLow, id, willTopic, willMessage,
        user, secret, topicAnnounced, messageAnnounced, usernameAnnounced, passwordAnnounced,
        shortName, shortId, shortTopic, shortMessage, shortUsername, shortPassword⟩,
        body.drop password.2, ?_⟩
      rw [List.drop_zero, found, foundId, foundTopic, foundMessage, foundUsername,
        foundPassword] at foundName
      simp only [ConnectLayout.body, List.append_assoc]
      exact foundName

/-! ## Reading the remaining length -/

theorem readByte_of_cons {reader : TrackingReader} {byte : UInt8} {rest : Bytes}
    (content : reader.sock.content = byte :: rest) :
    exists sock, sock.content = rest ∧ forall {β : Type} (next : UInt8 -> SocketRead β),
      (do
        let received ← recvExact 1
        let byte ← SocketRead.lift (byteAt received 0)
        next byte) reader = next byte ⟨sock, reader.raw ++ [byte]⟩ := by
  have enough : 1 ≤ reader.sock.content.length := by
    rw [content, List.length_cons]
    omega
  obtain ⟨sock, left, result⟩ := recvExact_of_enough enough
  rw [content] at left result
  refine ⟨sock, left, ?_⟩
  intro β next
  rw [SocketRead.bind_ok result]
  exact SocketRead.bind_ok rfl

theorem readByte_of_nil {β : Type} (next : UInt8 -> SocketRead β) {reader : TrackingReader}
    (content : reader.sock.content = []) :
    exists error moved,
      (do
        let received ← recvExact 1
        let byte ← SocketRead.lift (byteAt received 0)
        next byte) reader = (.error error, moved) := by
  have short : reader.sock.content.length < 1 := by
    rw [content]
    exact Nat.one_pos
  obtain ⟨sock, message, -, result⟩ := recvExact_of_short short
  exact ⟨_, _, SocketRead.bind_error result⟩

/-- A remaining length is read for what it encodes. -/
theorem remainingLengthLoop_encodes {field : Bytes} {value : Nat}
    (encodes : EncodesLength field value) {rounds : Nat} (bounded : field.length ≤ rounds)
    (multiplier start : Nat) {reader : TrackingReader} {rest : Bytes}
    (content : reader.sock.content = field ++ rest) :
    exists sock, sock.content = rest ∧
      remainingLengthLoop rounds multiplier start reader =
        (.ok (start + value * multiplier), ⟨sock, reader.raw ++ field⟩) := by
  induction encodes generalizing rounds multiplier start reader with
  | @last byte ends =>
      cases rounds with
      | zero => cases bounded
      | succ rounds =>
          obtain ⟨sock, left, result⟩ := readByte_of_cons content
          refine ⟨sock, left, ?_⟩
          rw [remainingLengthLoop, result]
          simp only [if_pos ends]
          rfl
  | @more byte further value continues _ inductionHypothesis =>
      cases rounds with
      | zero => cases bounded
      | succ rounds =>
          obtain ⟨sock, left, result⟩ := readByte_of_cons content
          obtain ⟨last, after, later⟩ := @inductionHypothesis rounds
            (Nat.le_of_succ_le_succ bounded) (multiplier * 128)
            (start + (byte &&& REMAINING_LENGTH_VALUE_MASK).toNat * multiplier)
            ⟨sock, reader.raw ++ [byte]⟩ left
          refine ⟨last, after, ?_⟩
          rw [remainingLengthLoop, result]
          simp only [if_neg continues, later, List.append_assoc, List.singleton_append,
            Prod.mk.injEq, Except.ok.injEq, and_true]
          rw [Nat.add_mul, Nat.add_assoc, Nat.mul_comm multiplier, ← Nat.mul_assoc,
            Nat.mul_comm value]

/-- Every byte has its continuation bit set. -/
def Continues (field : Bytes) : Prop := forall byte, byte ∈ field -> byte &&& CONTINUATION_BIT ≠ 0

/-- A reading step raises an error. -/
def Raises {α : Type} (step : SocketRead α) (reader : TrackingReader) : Prop :=
  exists error moved, step reader = (.error error, moved)

/-- A stream begins with a remaining length, or it ends within one, or there is no end to its
continuation bits. -/
theorem remainingLengthLoop_cases (rounds multiplier start : Nat) (reader : TrackingReader) :
    (exists field value rest, EncodesLength field value ∧ field.length ≤ rounds ∧
        reader.sock.content = field ++ rest) ∨
      ((reader.sock.content.length < rounds ∧ Continues reader.sock.content ∨
          exists field rest, field.length = rounds ∧ Continues field ∧
            reader.sock.content = field ++ rest) ∧
        Raises (remainingLengthLoop rounds multiplier start) reader) := by
  induction rounds generalizing multiplier start reader with
  | zero => exact Or.inr ⟨Or.inr ⟨[], _, rfl, nofun, rfl⟩, _, _, rfl⟩
  | succ rounds inductionHypothesis =>
      rcases content : reader.sock.content with _ | ⟨byte, rest⟩
      · exact Or.inr ⟨Or.inl ⟨Nat.succ_pos _, nofun⟩, readByte_of_nil _ content⟩
      · by_cases ends : byte &&& CONTINUATION_BIT = 0
        · exact Or.inl ⟨[byte], _, rest, .last ends, Nat.succ_le_succ (Nat.zero_le _), rfl⟩
        · obtain ⟨sock, left, result⟩ := readByte_of_cons content
          rcases inductionHypothesis (multiplier * 128)
              (start + (byte &&& REMAINING_LENGTH_VALUE_MASK).toNat * multiplier)
              ⟨sock, reader.raw ++ [byte]⟩ with
            ⟨field, value, after, encodes, bounded, found⟩ | ⟨endless, raises⟩
          · refine Or.inl ⟨byte :: field, _, after, .more ends encodes,
              Nat.succ_le_succ bounded, ?_⟩
            rw [← left, found, List.cons_append]
          · right
            constructor
            · rw [left] at endless
              rcases endless with ⟨short, continues⟩ | ⟨field, after, long, continues, found⟩
              · exact Or.inl ⟨Nat.succ_lt_succ short, List.forall_mem_cons.mpr ⟨ends, continues⟩⟩
              · refine Or.inr ⟨byte :: field, after, congrArg Nat.succ long,
                  List.forall_mem_cons.mpr ⟨ends, continues⟩, ?_⟩
                rw [found, List.cons_append]
            · obtain ⟨error, moved, failed⟩ := raises
              refine ⟨error, moved, ?_⟩
              rw [remainingLengthLoop, result]
              simp only [if_neg ends]
              exact failed

/-- No remaining length goes on after another. -/
theorem EncodesLength.unique {field other : Bytes} {value number : Nat}
    (encodes : EncodesLength field value) (otherEncodes : EncodesLength other number)
    {rest otherRest : Bytes} (same : field ++ rest = other ++ otherRest) :
    field = other ∧ value = number := by
  induction encodes generalizing other number with
  | last ends =>
      cases otherEncodes with
      | last _ =>
          injection same with head _
          subst head
          exact ⟨rfl, rfl⟩
      | more continues _ =>
          injection same with head _
          subst head
          exact absurd ends continues
  | more continues _ inductionHypothesis =>
      cases otherEncodes with
      | last ends =>
          injection same with head _
          subst head
          exact absurd ends continues
      | more _ further =>
          injection same with head tail
          subst head
          obtain ⟨rfl, rfl⟩ := inductionHypothesis further tail
          exact ⟨rfl, rfl⟩

/-- The last byte of a remaining length has no continuation bit. -/
theorem EncodesLength.not_continues {field : Bytes} {value : Nat}
    (encodes : EncodesLength field value) : ¬ Continues field := by
  induction encodes with
  | last ends => exact fun continues => continues _ List.mem_cons_self ends
  | more _ _ inductionHypothesis =>
      exact fun continues =>
        inductionHypothesis (fun byte member => continues byte (List.mem_cons_of_mem _ member))

/-- Bytes with continuation bits begin a remaining length. -/
theorem Continues.completed {field : Bytes} (continues : Continues field) :
    exists value, EncodesLength (field ++ [0]) value := by
  induction field with
  | nil => exact ⟨_, .last (by decide)⟩
  | cons byte rest inductionHypothesis =>
      rw [Continues, List.forall_mem_cons] at continues
      obtain ⟨value, encodes⟩ := inductionHypothesis continues.2
      exact ⟨_, .more continues.1 encodes⟩

/-! ## Reading a packet -/

/-- The bytes of one packet: a first byte, a remaining length of at most four bytes, and a
body of that length. -/
def IsPacket (packet body : Bytes) : Prop :=
  exists first field, EncodesLength field body.length ∧
    field.length ≤ MAX_REMAINING_LENGTH_BYTES ∧ packet = first :: (field ++ body)

/-- The first byte is that of a CONNECT packet. -/
def IsConnect (stream : Bytes) : Prop :=
  forall byte, byte ∈ stream.head? -> byte &&& CONNECT_PACKET_TYPE_MASK = CONNECT_PACKET_TYPE

/-- The stream ends inside a packet. -/
def EndsInsidePacket (stream : Bytes) : Prop :=
  exists missing body, missing ≠ [] ∧ IsPacket (stream ++ missing) body

/-- The fourth byte of the remaining length has its continuation bit set. -/
def HasEndlessLength (stream : Bytes) : Prop :=
  exists first field rest, stream = first :: (field ++ rest) ∧
    field.length = MAX_REMAINING_LENGTH_BYTES ∧ Continues field

/-- The body of the packet does not begin with a layout. -/
def LacksField (stream : Bytes) : Prop :=
  exists packet body rest, IsPacket packet body ∧ stream = packet ++ rest ∧
    forall (layout : ConnectLayout) trailing, body ≠ layout.body ++ trailing

/-- A packet at the start of the stream is consumed, and its body is read. -/
theorem readConnectPacket_packet {reader : TrackingReader} {packet body rest : Bytes}
    (framed : IsPacket packet body) (connect : IsConnect reader.sock.content)
    (content : reader.sock.content = packet ++ rest) :
    exists sock, sock.content = rest ∧
      readConnectPacket reader =
        ((readFields body (reader.raw ++ packet)).map
            (fun fields => (reader.raw ++ packet, fields)),
          ⟨sock, reader.raw ++ packet⟩) := by
  obtain ⟨first, field, encodes, bounded, rfl⟩ := framed
  rw [List.cons_append] at content
  have isConnect := connect first (by rw [content]; rfl)
  obtain ⟨opened, afterFirst, readFirst⟩ := readByte_of_cons content
  rw [List.append_assoc] at afterFirst
  obtain ⟨measured, afterLength, looped⟩ :=
    @remainingLengthLoop_encodes _ _ encodes _ bounded 1 0 ⟨opened, reader.raw ++ [first]⟩ _
      afterFirst
  have readLength : readRemainingLength ⟨opened, reader.raw ++ [first]⟩ =
      (.ok body.length, ⟨measured, reader.raw ++ [first] ++ field⟩) := by
    rw [readRemainingLength, looped, Nat.zero_add, Nat.mul_one]
  have enough : body.length ≤ measured.content.length := by
    rw [afterLength, List.length_append]
    omega
  obtain ⟨complete, afterBody, readBody⟩ :=
    @recvExact_of_enough _ ⟨measured, reader.raw ++ [first] ++ field⟩ enough
  simp only [afterLength, List.take_left, List.drop_left] at afterBody readBody
  have raw : reader.raw ++ [first] ++ field ++ body = reader.raw ++ first :: (field ++ body) := by
    simp only [List.append_assoc, List.cons_append, List.nil_append]
  refine ⟨complete, afterBody, ?_⟩
  rw [readConnectPacket, readFirst, if_neg (not_not_intro isConnect),
    SocketRead.bind_ok readLength, SocketRead.bind_ok readBody, raw]
  refine (SocketRead.bind_ok (rfl : SocketRead.consumed _ = _)).trans ?_
  rcases parsed : readFields body (reader.raw ++ first :: (field ++ body)) with failed | fields
  · exact SocketRead.bind_error rfl
  · exact SocketRead.bind_ok rfl

/-- A stream begins with at most one packet. -/
theorem IsPacket.unique {packet body other otherBody rest otherRest : Bytes}
    (framed : IsPacket packet body) (otherFramed : IsPacket other otherBody)
    (same : packet ++ rest = other ++ otherRest) : body = otherBody ∧ rest = otherRest := by
  obtain ⟨first, field, encodes, -, rfl⟩ := framed
  obtain ⟨otherFirst, otherField, otherEncodes, -, rfl⟩ := otherFramed
  rw [List.cons_append, List.cons_append, List.append_assoc, List.append_assoc] at same
  injection same with _ tail
  obtain ⟨rfl, length⟩ := encodes.unique otherEncodes tail
  exact List.append_inj (List.append_cancel_left tail) length

/-- The remaining length of a packet has an end. -/
theorem IsPacket.not_endless {packet body rest stream : Bytes} (framed : IsPacket packet body)
    (found : stream = packet ++ rest) : ¬ HasEndlessLength stream := by
  rintro ⟨first, field, after, same, long, continues⟩
  obtain ⟨other, length, encodes, bounded, rfl⟩ := framed
  rw [found, List.cons_append, List.append_assoc] at same
  injection same with _ tail
  have inside : length <+: field :=
    List.prefix_of_prefix_length_le ⟨_, tail⟩ (List.prefix_append _ _) (long ▸ bounded)
  exact encodes.not_continues (fun byte member => continues byte (inside.subset member))

/-- A stream that ends within the body of a packet ends inside the packet. -/
theorem endsInside_of_short_body {first : UInt8} {field after : Bytes} {value : Nat}
    (encodes : EncodesLength field value) (bounded : field.length ≤ MAX_REMAINING_LENGTH_BYTES)
    (short : after.length < value) : EndsInsidePacket (first :: (field ++ after)) := by
  have filled : (after ++ List.replicate (value - after.length) 0).length = value := by
    rw [List.length_append, List.length_replicate]
    omega
  refine ⟨List.replicate (value - after.length) 0, after ++ List.replicate (value - after.length) 0,
    ?_, first, field, filled.symm ▸ encodes, bounded, ?_⟩
  · rw [Ne, List.replicate_eq_nil_iff]
    omega
  · rw [List.cons_append, List.append_assoc]

/-- A stream that ends within the remaining length of a packet ends inside the packet. -/
theorem endsInside_of_continues {first : UInt8} {field : Bytes} (continues : Continues field)
    (short : field.length < MAX_REMAINING_LENGTH_BYTES) : EndsInsidePacket (first :: field) := by
  obtain ⟨value, encodes⟩ := continues.completed
  have filled : (List.replicate value (0 : UInt8)).length = value := List.length_replicate
  refine ⟨0 :: List.replicate value 0, List.replicate value 0, nofun, first, field ++ [0],
    filled.symm ▸ encodes, ?_, ?_⟩
  · rw [List.length_append, List.length_singleton]
    exact short
  · rw [List.cons_append, List.append_assoc, List.singleton_append]

/-- A stream begins with a CONNECT packet, or reading it raises an error for what is at its
start. -/
theorem packet_or_raises (reader : TrackingReader) :
    (IsConnect reader.sock.content ∧ exists packet body rest, IsPacket packet body ∧
        reader.sock.content = packet ++ rest) ∨
      ((¬ IsConnect reader.sock.content ∨ EndsInsidePacket reader.sock.content ∨
          HasEndlessLength reader.sock.content) ∧ Raises readConnectPacket reader) := by
  rcases content : reader.sock.content with _ | ⟨first, rest⟩
  · refine Or.inr ⟨Or.inr (Or.inl ⟨[0, 0], [], nofun, 0, [0], .last (by decide), by decide, rfl⟩),
      readByte_of_nil _ content⟩
  · obtain ⟨opened, afterFirst, readFirst⟩ := readByte_of_cons content
    by_cases connect : first &&& CONNECT_PACKET_TYPE_MASK = CONNECT_PACKET_TYPE
    · have isConnect : IsConnect (first :: rest) := by
        rintro byte ⟨rfl⟩
        exact connect
      rcases remainingLengthLoop_cases MAX_REMAINING_LENGTH_BYTES 1 0
          ⟨opened, reader.raw ++ [first]⟩ with
        ⟨field, value, after, encodes, bounded, found⟩ | ⟨endless, error, moved, failed⟩
      · dsimp only at found
        rw [afterFirst] at found
        subst found
        by_cases complete : value ≤ after.length
        · refine Or.inl ⟨isConnect, first :: (field ++ after.take value), after.take value,
            after.drop value, ⟨first, field, ?_, bounded, rfl⟩, ?_⟩
          · rw [List.length_take, Nat.min_eq_left complete]
            exact encodes
          · rw [List.cons_append, List.append_assoc, List.take_append_drop]
        · have short := Nat.lt_of_not_le complete
          right
          refine ⟨Or.inr (Or.inl (endsInside_of_short_body encodes bounded short)), ?_⟩
          obtain ⟨measured, afterLength, looped⟩ :=
            @remainingLengthLoop_encodes _ _ encodes _ bounded 1 0
              ⟨opened, reader.raw ++ [first]⟩ _ afterFirst
          rw [Nat.zero_add, Nat.mul_one] at looped
          obtain ⟨sock, message, -, failed⟩ := @recvExact_of_short value
            ⟨measured, reader.raw ++ [first] ++ field⟩ (afterLength ▸ short)
          rw [Raises, readConnectPacket, readFirst, if_neg (not_not_intro connect),
            readRemainingLength, SocketRead.bind_ok looped]
          exact ⟨_, _, SocketRead.bind_error failed⟩
      · right
        constructor
        · right
          rw [afterFirst] at endless
          rcases endless with ⟨short, continues⟩ | ⟨field, after, long, continues, rfl⟩
          · exact Or.inl (endsInside_of_continues continues short)
          · exact Or.inr ⟨first, field, after, rfl, long, continues⟩
        · refine ⟨error, moved, ?_⟩
          rw [readConnectPacket, readFirst, if_neg (not_not_intro connect)]
          exact SocketRead.bind_error failed
    · right
      refine ⟨Or.inl (fun isConnect => connect (isConnect first rfl)), ?_⟩
      rw [Raises, readConnectPacket, readFirst, if_pos connect]
      exact ⟨_, _, rfl⟩

/-- Reading raises an error exactly for a stream that ends inside a packet, that does not
begin with a CONNECT packet, whose remaining length does not end, or whose body lacks a
field. -/
theorem readConnectPacket_raises_iff (reader : TrackingReader) :
    Raises readConnectPacket reader ↔
      EndsInsidePacket reader.sock.content ∨ ¬ IsConnect reader.sock.content ∨
        HasEndlessLength reader.sock.content ∨ LacksField reader.sock.content := by
  rcases packet_or_raises reader with
    ⟨connect, packet, body, rest, framed, content⟩ | ⟨faulty, raises⟩
  · obtain ⟨sock, -, result⟩ := readConnectPacket_packet framed connect content
    constructor
    · rintro ⟨error, moved, failed⟩
      right; right; right
      refine ⟨packet, body, rest, framed, content, ?_⟩
      rintro layout trailing rfl
      rw [result, readFields_layout] at failed
      cases failed
    · rintro (⟨missing, other, something, otherFramed⟩ | other | ⟨first, field, after, found, long,
        continues⟩ | ⟨other, otherBody, after, otherFramed, found, lacks⟩)
      · rw [content, List.append_assoc] at otherFramed
        have nothing := (framed.unique otherFramed
          (List.append_nil _ ▸ rfl : packet ++ (rest ++ missing) = _ ++ [])).2
        exact absurd (List.append_eq_nil_iff.mp nothing).2 something
      · exact absurd connect other
      · exact absurd ⟨first, field, after, found, long, continues⟩
          (framed.not_endless content)
      · rw [content] at found
        obtain ⟨rfl, -⟩ := framed.unique otherFramed found
        rcases parsed : readFields body (reader.raw ++ packet) with failed | fields
        · rw [Raises, result, parsed]
          exact ⟨_, _, rfl⟩
        · obtain ⟨layout, trailing, whole⟩ := layout_of_readFields parsed
          exact absurd whole (lacks layout trailing)
  · refine ⟨fun _ => ?_, fun _ => raises⟩
    rcases faulty with other | ends | endless
    · exact Or.inr (Or.inl other)
    · exact Or.inl ends
    · exact Or.inr (Or.inr (Or.inl endless))

/-- A packet of a layout is read as it was built, and nothing after it is consumed.  For every
stream there is a result or the error of a malformed packet, and the error exactly for the
four faults. -/
theorem connect_parsing_correct :
    (forall (sock : ChunkedInput UInt8) (layout : ConnectLayout) (packet rest : Bytes)
        (clientId : String) (username password : Option String),
      IsPacket packet layout.body -> IsConnect packet -> sock.content = packet ++ rest ->
        layout.clientId = utf8 clientId -> layout.username = username.map utf8 ->
          layout.password = password.map utf8 ->
            exists after, after.content = rest ∧
              readConnectPacket { sock := sock } =
                (.ok (packet, ⟨clientId, username, password⟩), ⟨after, packet⟩)) ∧
      forall sock : ChunkedInput UInt8,
        (Raises readConnectPacket { sock := sock } ↔
          EndsInsidePacket sock.content ∨ ¬ IsConnect sock.content ∨
            HasEndlessLength sock.content ∨ LacksField sock.content) ∧
          forall error moved, readConnectPacket { sock := sock } = (.error error, moved) ->
            exists message rawSoFar, error = .malformedConnectPacket message rawSoFar := by
  constructor
  · intro sock layout packet rest clientId username password framed connect content client user
      secret
    have isConnect : IsConnect sock.content := by
      rw [content]
      obtain ⟨first, field, -, -, rfl⟩ := framed
      exact connect
    obtain ⟨after, left, result⟩ :=
      @readConnectPacket_packet { sock := sock } packet layout.body rest framed isConnect content
    refine ⟨after, left, ?_⟩
    have fields : layout.fields = ⟨clientId, username, password⟩ := by
      have decoded : Utf8.decode ∘ utf8 = id := funext Utf8.decode_utf8
      rw [ConnectLayout.fields, client, user, secret, Option.map_map, Option.map_map, decoded,
        Utf8.decode_utf8, Option.map_id, id_eq, id_eq]
    have read := readFields_layout layout [] packet
    rw [List.append_nil] at read
    rw [result, List.nil_append, read, fields]
    rfl
  · intro sock
    refine ⟨readConnectPacket_raises_iff _, ?_⟩
    intro error moved failed
    have accounts := (Accounts.readConnectPacket { sock := sock }).2
    rw [failed] at accounts
    obtain ⟨message, same⟩ := accounts error rfl
    exact ⟨message, _, same⟩

/-- A feeder's layout, with a username and a password. -/
def feederLayout : ConnectLayout where
  protocolName := utf8 "MQTT"
  level := 4
  flags := 0xC2
  keepAliveHigh := 0
  keepAliveLow := 60
  clientId := utf8 "feeder"
  willTopic := none
  willMessage := none
  username := some (utf8 "user")
  password := some (utf8 "pass")
  topicAnnounced := by decide
  messageAnnounced := by decide
  usernameAnnounced := by decide
  passwordAnnounced := by decide
  shortName := by decide
  shortClientId := by decide
  shortTopic := nofun
  shortMessage := nofun
  shortUsername := by decide
  shortPassword := by decide

/-- The packet of the layout, and one more byte, in two pieces. -/
def feederSocket : ChunkedInput UInt8 where
  chunks := [[0x10], 30 :: (feederLayout.body ++ [0xC0])]
  nonempty := by decide

theorem feeder_packet_read :
    exists after : ChunkedInput UInt8, after.content = [0xC0] ∧
      readConnectPacket { sock := feederSocket } =
        (.ok (0x10 :: ([30] ++ feederLayout.body), ⟨"feeder", some "user", some "pass"⟩),
          ⟨after, 0x10 :: ([30] ++ feederLayout.body)⟩) :=
  connect_parsing_correct.1 feederSocket feederLayout (0x10 :: ([30] ++ feederLayout.body)) [0xC0]
    "feeder" (some "user") (some "pass")
    ⟨0x10, [30], .last (by decide), by decide, rfl⟩ (by rintro byte ⟨rfl⟩; decide) (by decide)
    rfl rfl rfl

end Presence
end PetlibroRelay
