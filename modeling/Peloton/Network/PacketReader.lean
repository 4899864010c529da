import Peloton.Lib.ByteOrder
import Peloton.Lib.Framing
import Mathlib.Data.List.Infix

set_option autoImplicit false

/-!
# The read side of a connection

ConnectionHandle::FillReadBuffer reads what the socket has into the read buffer, and
PostgresProtocolHandler::ParseInputPacket takes packets off it: the header first, then the body,
either in place in the buffer or, for a body longer than the buffer, through the packet's extended
buffer. Seen through `pending`, the bytes the two hold between them, a fill appends what the
socket gave and a parse takes exactly one frame of the protocol's wire format off the front, so
the reader refines the framer of `Framing` for the frontend protocol's code.
-/

namespace Peloton.Network

open ByteOrder Framing

/-! ## Constants and results (common/internal_types.h, network/network_state.h) -/

def SOCKET_BUFFER_SIZE : Nat := 8192

def NULL_COMMAND : UInt8 := 48

def BYTEBUF_MAX_SIZE : Nat := 2 ^ 63 - 1

inductive Transition
  | NONE | WAKEUP | PROCEED | NEED_DATA | GET_RESULT | FINISH | RETRY | NEED_SSL_HANDSHAKE
  deriving DecidableEq, Repr

/-- The exceptions of the network layer: what throws them, and who catches them. -/
inductive Thrown
  -- thrown by the socket calls, caught by StateMachine::Accept, which closes the socket
  | NetworkProcessException
  -- std::length_error from vector::reserve, caught nowhere
  | length_error
  -- "undefined transition" from StateMachine::Delta_, caught nowhere
  | runtime_error
  deriving DecidableEq, Repr

/-! ## Buffer (network/marshal.h) -/

/-- buf stands for the SOCKET_BUFFER_SIZE bytes the constructor reserves. -/
structure Buffer where
  buf_ptr : Nat
  buf_size : Nat
  buf_flush_ptr : Nat
  buf : List UInt8
  deriving DecidableEq, Repr

namespace Buffer

def Reset (b : Buffer) : Buffer := { b with buf_ptr := 0, buf_size := 0, buf_flush_ptr := 0 }

def GetByte (b : Buffer) (index : Nat) : UInt8 := b.buf.getD index 0

def GetMaxSize : Nat := SOCKET_BUFFER_SIZE

-- num = (num << 8) | GetByte(i) for i from buf_ptr to buf_ptr + 3.
def GetUInt32BigEndian (b : Buffer) : Nat :=
  (List.range' b.buf_ptr 4).foldl (fun num i => num * 256 + (b.GetByte i).toNat) 0

def IsReadDataAvailable (b : Buffer) (bytes : Nat) : Bool :=
  (b.buf_ptr + (2 ^ 64 - 1) + bytes) % 2 ^ 64 < b.buf_size

def unread (b : Buffer) : List UInt8 := (b.buf.take b.buf_size).drop b.buf_ptr

/-- The cursors stay inside the reserved bytes. -/
structure Valid (b : Buffer) : Prop where
  length_eq : b.buf.length = SOCKET_BUFFER_SIZE
  ptr_le : b.buf_ptr ≤ b.buf_size
  size_le : b.buf_size ≤ SOCKET_BUFFER_SIZE

end Buffer

/-! ## The packet being read (network/marshal.h) -/

/-- The InputPacket request_ that the protocol handler reads into; contents are its bytes from
Begin() to End(). -/
structure RequestPacket where
  msg_type : UInt8
  len : Nat
  ptr : Nat
  header_parsed : Bool
  is_initialized : Bool
  is_extended : Bool
  extended_buffer : List UInt8
  contents : List UInt8
  deriving DecidableEq, Repr

namespace RequestPacket

def Reset (rpkt : RequestPacket) : RequestPacket :=
  { rpkt with is_initialized := false, header_parsed := false, is_extended := false, len := 0,
              ptr := 0, msg_type := NULL_COMMAND, extended_buffer := [] }

-- reserve only grows the capacity, and throws when asked for more than max_size().
def ReserveExtendedBuffer (rpkt : RequestPacket) : Except Thrown RequestPacket :=
  if BYTEBUF_MAX_SIZE < rpkt.len then .error .length_error else .ok rpkt

def ExtendedBytesRequired (rpkt : RequestPacket) : Nat := rpkt.len - rpkt.extended_buffer.length

def AppendToExtendedBuffer (rpkt : RequestPacket) (bytes : List UInt8) : RequestPacket :=
  { rpkt with extended_buffer := rpkt.extended_buffer ++ bytes }

def InitializePacketAt (rpkt : RequestPacket) (pkt_start_index : Nat) (rbuf : List UInt8) :
    RequestPacket :=
  { rpkt with contents := (rbuf.drop pkt_start_index).take rpkt.len, is_initialized := true }

def InitializePacket (rpkt : RequestPacket) : RequestPacket :=
  { rpkt with contents := rpkt.extended_buffer, is_initialized := true }

end RequestPacket

/-! ## PostgresProtocolHandler's packet reader -/

-- rbuf.GetUInt32BigEndian() - sizeof(uint32_t) is a size_t difference, which wraps below 4.
def ReadPacketHeader (rbuf : Buffer) (rpkt : RequestPacket) (startup : Bool) :
    Except Thrown (Bool × Buffer × RequestPacket) :=
  if !rbuf.IsReadDataAvailable (if startup then 4 else 4 + 1) then .ok (false, rbuf, rpkt)
  else
    -- every packet but the startup packet starts with its type byte
    let typed : Buffer × RequestPacket := if startup then (rbuf, rpkt)
      else ({ rbuf with buf_ptr := rbuf.buf_ptr + 1 }, { rpkt with msg_type := rbuf.GetByte rbuf.buf_ptr })
    let len := (typed.1.GetUInt32BigEndian + (2 ^ 64 - 4)) % 2 ^ 64
    let rpkt := { typed.2 with len, is_extended := decide (SOCKET_BUFFER_SIZE < len) }
    (if rpkt.is_extended then rpkt.ReserveExtendedBuffer else .ok rpkt).map fun rpkt =>
      (true, { typed.1 with buf_ptr := typed.1.buf_ptr + 4 }, { rpkt with header_parsed := true })

def ReadPacket (rbuf : Buffer) (rpkt : RequestPacket) : Bool × Buffer × RequestPacket :=
  if rpkt.is_extended then
    let bytes_available := rbuf.buf_size - rbuf.buf_ptr
    let bytes_required := rpkt.ExtendedBytesRequired
    let read_size := min bytes_available bytes_required
    let rpkt := rpkt.AppendToExtendedBuffer ((rbuf.buf.drop rbuf.buf_ptr).take read_size)
    let rbuf := { rbuf with buf_ptr := rbuf.buf_ptr + read_size }
    if bytes_required > bytes_available then (false, rbuf, rpkt) else (true, rbuf, rpkt.InitializePacket)
  else if !rbuf.IsReadDataAvailable rpkt.len then (false, rbuf, rpkt)
  else (true, { rbuf with buf_ptr := rbuf.buf_ptr + rpkt.len }, rpkt.InitializePacketAt rbuf.buf_ptr rbuf.buf)

def ParseInputPacket (rbuf : Buffer) (rpkt : RequestPacket) (startup_format : Bool) :
    Except Thrown (Bool × Buffer × RequestPacket) :=
  (if rpkt.header_parsed then .ok (true, rbuf, rpkt) else ReadPacketHeader rbuf rpkt startup_format).map
    fun (parsed, rbuf, rpkt) =>
      if !parsed then (false, rbuf, rpkt)
      else if !rpkt.is_initialized then ReadPacket rbuf rpkt
      else (true, rbuf, rpkt)

/-! ## ConnectionHandle::FillReadBuffer, over a non-blocking socket -/

/-- The peer's side of the socket as read(2) sees it. -/
structure Socket where
  incoming : List UInt8
  closed : Bool
  deriving DecidableEq, Repr

/-- How one read(2) turns out, as the kernel decides. -/
inductive ReadEvent
  -- up to n + 1 of the bytes that have arrived are handed over
  | ready (n : Nat)
  -- EAGAIN, whether or not bytes are on the way
  | wouldBlock
  | interrupted
  -- any other errno
  | failed
  deriving DecidableEq, Repr

/-- What read(2) returns: the bytes read (none at the end of the stream), or -1 with errno
EAGAIN, EINTR or another. -/
inductive ReadResult
  | data (bytes : List UInt8)
  | again
  | intr
  | error
  deriving DecidableEq, Repr

def read (sock : Socket) (count : Nat) : ReadEvent → ReadResult × Socket
  | .ready n =>
    -- an empty socket reports the end of the stream once the peer has closed, EAGAIN before
    if sock.incoming = [] ∧ sock.closed = false then (.again, sock)
    else
      let bytes := sock.incoming.take (min (n + 1) count)
      (.data bytes, { sock with incoming := sock.incoming.drop bytes.length })
  | .wouldBlock => (.again, sock)
  | .interrupted => (.intr, sock)
  | .failed => (.error, sock)

def FillReadBufferLoop (result : Transition) (rbuf : Buffer) (sock : Socket) :
    List ReadEvent → Except Thrown (Transition × Buffer × Socket)
  | [] => .ok (result, rbuf, sock)
  | event :: events =>
    if rbuf.buf_size = Buffer.GetMaxSize then .ok (result, rbuf, sock)
    else
      match read sock (Buffer.GetMaxSize - rbuf.buf_size) event with
      | (.data [], sock) => .ok (.FINISH, rbuf, sock)
      | (.data bytes, sock) =>
        FillReadBufferLoop .PROCEED
          { rbuf with buf := writeBytes rbuf.buf rbuf.buf_size bytes, buf_size := rbuf.buf_size + bytes.length }
          sock events
      | (.again, sock) => .ok (result, rbuf, sock)
      | (.intr, sock) => FillReadBufferLoop result rbuf sock events
      | (.error, _) => .error .NetworkProcessException

def compact (rbuf : Buffer) : Buffer :=
  if rbuf.buf_ptr < rbuf.buf_size ∧ rbuf.buf_size = Buffer.GetMaxSize then
    let unprocessed_len := rbuf.buf_size - rbuf.buf_ptr
    { rbuf with buf := writeBytes rbuf.buf 0 ((rbuf.buf.drop rbuf.buf_ptr).take unprocessed_len),
                buf_ptr := 0, buf_size := unprocessed_len }
  else rbuf

-- The SSL_read branch is not modelled: the connection reads with read(2).
def FillReadBuffer (rbuf : Buffer) (sock : Socket) (events : List ReadEvent) :
    Except Thrown (Transition × Buffer × Socket) :=
  let rbuf := if rbuf.buf_ptr = rbuf.buf_size then rbuf.Reset else rbuf
  FillReadBufferLoop .NEED_DATA (compact rbuf) sock events

/-! ## The buffer's cursors -/

namespace Buffer

variable {b : Buffer}

theorem length_unread (hb : b.Valid) : b.unread.length = b.buf_size - b.buf_ptr := by
  have within := hb.size_le
  simp [unread, hb.length_eq, SOCKET_BUFFER_SIZE] at within ⊢
  omega

theorem unread_advance (k : Nat) : { b with buf_ptr := b.buf_ptr + k }.unread = b.unread.drop k := by
  simp [unread, List.drop_drop]

theorem IsReadDataAvailable_iff {bytes : Nat} (positive : 0 < b.buf_ptr + bytes)
    (small : b.buf_ptr + bytes ≤ 2 ^ 64) :
    b.IsReadDataAvailable bytes = true ↔ b.buf_ptr + bytes ≤ b.buf_size := by
  have wrapped : (b.buf_ptr + (2 ^ 64 - 1) + bytes) % 2 ^ 64 = b.buf_ptr + bytes - 1 := by
    rw [show b.buf_ptr + (2 ^ 64 - 1) + bytes = b.buf_ptr + bytes - 1 + 2 ^ 64 by omega,
      Nat.add_mod_right, Nat.mod_eq_of_lt (by omega)]
  simp only [IsReadDataAvailable, wrapped, decide_eq_true_eq]
  omega

theorem map_getD_range' (l : List UInt8) (n : Nat) : ∀ p, p + n ≤ l.length →
    (List.range' p n).map (fun i => l.getD i 0) = (l.drop p).take n := by
  induction n with
  | zero => simp
  | succ n ih =>
    intro p fits
    have split : l.drop p = l[p] :: l.drop (p + 1) := List.drop_eq_getElem_cons (by omega)
    rw [List.range'_succ, List.map_cons, ih (p + 1) (by omega), split, List.take_succ_cons, List.getD_eq_getElem?_getD, List.getElem?_eq_getElem (by omega),
      Option.getD_some]

theorem drop_take_eq_unread {k : Nat} (whole : b.buf_ptr + k ≤ b.buf_size) :
    (b.buf.drop b.buf_ptr).take k = b.unread.take k := by
  rw [unread, List.drop_take, List.take_take, min_eq_left (by omega)]

theorem GetUInt32BigEndian_eq (hb : b.Valid) (whole : b.buf_ptr + 4 ≤ b.buf_size) :
    b.GetUInt32BigEndian = ofBigEndian (b.unread.take 4) := by
  have fits : b.buf_ptr + 4 ≤ b.buf.length := by
    rw [hb.length_eq]
    exact whole.trans hb.size_le
  rw [GetUInt32BigEndian, ofBigEndian, ← drop_take_eq_unread whole,
    ← map_getD_range' b.buf _ _ fits, List.foldl_map]
  rfl

theorem GetByte_ptr (hb : b.Valid) (nonempty : b.buf_ptr < b.buf_size) :
    b.GetByte b.buf_ptr = b.unread.headD 0 := by
  have first := @drop_take_eq_unread b 1 nonempty
  have fits : b.buf_ptr < b.buf.length := by
    rw [hb.length_eq]
    exact Nat.lt_of_lt_of_le nonempty hb.size_le
  have nonempty' : b.unread ≠ [] := by
    rw [← List.length_pos_iff, length_unread hb]
    omega
  obtain ⟨x, rest, hx⟩ := List.exists_cons_of_ne_nil nonempty'
  rw [List.drop_eq_getElem_cons fits, hx] at first
  simp only [List.take_succ_cons, List.take_zero, List.cons.injEq, and_true] at first
  rw [GetByte, List.getD_eq_getElem?_getD, List.getElem?_eq_getElem fits, Option.getD_some, first, hx,
    List.headD_cons]

end Buffer

/-! ## The wire format of the frontend protocol -/

/-- A message as the reader hands it over: its type and its body. -/
structure Message where
  msg_type : UInt8
  body : List UInt8
  deriving DecidableEq, Repr

def typeByte (startup : Bool) (msg_type : UInt8) : List UInt8 := if startup then [] else [msg_type]

def typeBytes (startup : Bool) : Nat := if startup then 0 else 1

def encodeMessage (startup : Bool) (m : Message) : List UInt8 :=
  typeByte startup m.msg_type ++ toBigEndian 4 (m.body.length + 4) ++ m.body

def decodeMessage (startup : Bool) (bytes : List UInt8) : Option (Message × List UInt8) :=
  let length := ofBigEndian ((bytes.drop (typeBytes startup)).take 4)
  if typeBytes startup + 4 ≤ bytes.length ∧ 4 ≤ length ∧ typeBytes startup + length ≤ bytes.length then
    some (⟨if startup then NULL_COMMAND else bytes.headD 0,
      (bytes.drop (typeBytes startup + 4)).take (length - 4)⟩, bytes.drop (typeBytes startup + length))
  else none

/-- The length fits its four bytes, and a startup packet carries the type it reads with. -/
def Message.WellFormed (startup : Bool) (m : Message) : Prop :=
  m.body.length + 4 < 2 ^ 32 ∧ (startup = true → m.msg_type = NULL_COMMAND)

@[simp] theorem length_typeByte (startup : Bool) (msg_type : UInt8) :
    (typeByte startup msg_type).length = typeBytes startup := by
  cases startup <;> rfl

theorem decodeMessage_header (startup : Bool) (msg_type : UInt8) {len : Nat} (fits : len + 4 < 2 ^ 32)
    (rest : List UInt8) :
    decodeMessage startup (typeByte startup msg_type ++ toBigEndian 4 (len + 4) ++ rest) =
      if len ≤ rest.length then
        some (⟨if startup then NULL_COMMAND else msg_type, rest.take len⟩, rest.drop len)
      else none := by
  have length : ofBigEndian (toBigEndian 4 (len + 4)) = len + 4 :=
    ofBigEndian_toBigEndian (by norm_num; omega)
  cases startup <;> simp [decodeMessage, typeByte, typeBytes, length, List.drop_append,
    List.drop_of_length_le, Nat.add_comm, Nat.add_left_comm]

theorem decodeMessage_encodeMessage {startup : Bool} {m : Message} (wf : m.WellFormed startup)
    (t : List UInt8) : decodeMessage startup (encodeMessage startup m ++ t) = some (m, t) := by
  rw [encodeMessage, List.append_assoc, decodeMessage_header startup _ wf.1, if_pos (by simp)]
  cases startup with
  | false => simp
  | true => simp [← wf.2 rfl]

theorem eq_header (startup : Bool) {bytes : List UInt8} (long : typeBytes startup + 4 ≤ bytes.length) :
    bytes = typeByte startup (bytes.headD 0) ++
      toBigEndian 4 (ofBigEndian ((bytes.drop (typeBytes startup)).take 4)) ++
      bytes.drop (typeBytes startup + 4) := by
  have four : ((bytes.drop (typeBytes startup)).take 4).length = 4 := by simp; omega
  have header := toBigEndian_ofBigEndian ((bytes.drop (typeBytes startup)).take 4)
  rw [four] at header
  rw [header]
  cases startup with
  | true => simp [typeByte, typeBytes]
  | false =>
    cases bytes with
    | nil => simp [typeBytes] at long
    | cons x rest => simp [typeByte, typeBytes]

theorem decodeMessage_short {startup : Bool} {bytes : List UInt8}
    (short : bytes.length < typeBytes startup + 4) : decodeMessage startup bytes = none := by
  simp only [decodeMessage]
  rw [if_neg fun whole => absurd whole.1 (by omega)]

theorem decodeMessage_malformed {startup : Bool} {bytes : List UInt8}
    (malformed : ofBigEndian ((bytes.drop (typeBytes startup)).take 4) < 4) :
    decodeMessage startup bytes = none := by
  simp only [decodeMessage]
  rw [if_neg fun whole => absurd whole.2.1 (by omega)]

theorem decodeMessage_eq_some {startup : Bool} {bytes rest : List UInt8} {m : Message} :
    decodeMessage startup bytes = some (m, rest) ↔
      m.WellFormed startup ∧ bytes = encodeMessage startup m ++ rest := by
  constructor
  · intro decoded
    have long : typeBytes startup + 4 ≤ bytes.length := by
      by_contra short
      rw [decodeMessage_short (by omega)] at decoded
      cases decoded
    have lengthOK : 4 ≤ ofBigEndian ((bytes.drop (typeBytes startup)).take 4) := by
      by_contra malformed
      rw [decodeMessage_malformed (by omega)] at decoded
      cases decoded
    have small := ofBigEndian_lt ((bytes.drop (typeBytes startup)).take 4)
    have split := eq_header startup long
    generalize ofBigEndian ((bytes.drop (typeBytes startup)).take 4) = L at lengthOK small split
    simp only [List.length_take, List.length_drop] at small
    rw [min_eq_left (by omega)] at small
    rw [show L = L - 4 + 4 by omega] at split
    rw [split, decodeMessage_header startup _ (by norm_num at small; omega)] at decoded
    by_cases whole : L - 4 ≤ (bytes.drop (typeBytes startup + 4)).length
    · rw [if_pos whole] at decoded
      obtain ⟨rfl, rfl⟩ := Prod.mk.inj (Option.some_inj.mp decoded).symm
      simp only [List.length_drop] at whole
      refine ⟨⟨by simp only [List.length_take, List.length_drop]; omega, by cases startup <;> simp⟩, ?_⟩
      conv_lhs => rw [split]
      have body : ((bytes.drop (typeBytes startup + 4)).take (L - 4)).length = L - 4 := by simp; omega
      simp only [encodeMessage, body, List.append_assoc, List.take_append_drop]
      cases startup <;> rfl
    · rw [if_neg whole] at decoded
      cases decoded
  · rintro ⟨wf, rfl⟩
    exact decodeMessage_encodeMessage wf rest

def frontendCodec (advance : Bool → Message → Bool) : Codec UInt8 Message Bool where
  decode := decodeMessage
  encode := encodeMessage
  advance := advance
  WellFormed startup m := m.WellFormed startup
  exact decoded := by
    obtain ⟨wf, rfl⟩ := decodeMessage_eq_some.mp decoded
    exact ⟨_, rfl, decodeMessage_encodeMessage wf⟩
  decodes wf t := decodeMessage_encodeMessage wf t
  decode_nil startup := by cases startup <;> rfl

/-! ## What the reader holds -/

namespace RequestPacket

def header (startup : Bool) (rpkt : RequestPacket) : List UInt8 :=
  typeByte startup rpkt.msg_type ++ toBigEndian 4 (rpkt.len + 4)

/-- The packet between two calls of Process: not handed over; a length that fits the header; and an
extended buffer only for a body longer than the read buffer, holding less than that body. -/
structure Valid (startup : Bool) (rpkt : RequestPacket) : Prop where
  not_initialized : rpkt.is_initialized = false
  fresh : rpkt.header_parsed = false → rpkt.len = 0 ∧ rpkt.extended_buffer = []
  startup_type : startup = true → rpkt.msg_type = NULL_COMMAND
  fits : rpkt.len + 4 < 2 ^ 32
  extended_eq : rpkt.is_extended = decide (SOCKET_BUFFER_SIZE < rpkt.len)
  extended_nil : rpkt.is_extended = false → rpkt.extended_buffer = []
  extended_lt : rpkt.is_extended = true → rpkt.extended_buffer.length < rpkt.len

def Waiting (rpkt : RequestPacket) : Prop := rpkt.header_parsed = true → 0 < rpkt.len

theorem valid_Reset (startup : Bool) (rpkt : RequestPacket) : rpkt.Reset.Valid startup :=
  ⟨rfl, fun _ => ⟨rfl, rfl⟩, fun _ => rfl, by simp [Reset], rfl, fun _ => rfl,
    by simp [Reset]⟩

theorem waiting_Reset (rpkt : RequestPacket) : rpkt.Reset.Waiting := by simp [Waiting, Reset]

end RequestPacket

def pending (startup : Bool) (rbuf : Buffer) (rpkt : RequestPacket) : List UInt8 :=
  (if rpkt.header_parsed then rpkt.header startup ++ rpkt.extended_buffer else []) ++ rbuf.unread

def LengthOK (startup : Bool) (bytes : List UInt8) : Prop :=
  typeBytes startup + 4 ≤ bytes.length → 4 ≤ ofBigEndian ((bytes.drop (typeBytes startup)).take 4)

def ParseOutcome (startup : Bool) (held : List UInt8) : Bool × Buffer × RequestPacket → Prop
  | (true, rbuf, rpkt) =>
    rbuf.Valid ∧ decodeMessage startup held = some (⟨rpkt.msg_type, rpkt.contents⟩, rbuf.unread)
  | (false, rbuf, rpkt) =>
    rbuf.Valid ∧ rpkt.Valid startup ∧ rpkt.Waiting ∧ pending startup rbuf rpkt = held ∧
      decodeMessage startup held = none

section Parse

variable {startup : Bool} {rbuf : Buffer} {rpkt : RequestPacket}

theorem pending_fresh (fresh : rpkt.header_parsed = false) : pending startup rbuf rpkt = rbuf.unread := by
  simp [pending, fresh]

@[simp] theorem pending_Reset (rpkt : RequestPacket) : pending startup rbuf rpkt.Reset = rbuf.unread :=
  pending_fresh rfl

theorem decodeMessage_pending (parsed : rpkt.header_parsed = true) (fits : rpkt.len + 4 < 2 ^ 32) :
    decodeMessage startup (pending startup rbuf rpkt) =
      if rpkt.len ≤ (rpkt.extended_buffer ++ rbuf.unread).length then
        some (⟨if startup then NULL_COMMAND else rpkt.msg_type, (rpkt.extended_buffer ++ rbuf.unread).take rpkt.len⟩,
          (rpkt.extended_buffer ++ rbuf.unread).drop rpkt.len)
      else none := by
  rw [pending, if_pos parsed, RequestPacket.header, List.append_assoc, decodeMessage_header startup _ fits]

theorem valid_advance (hb : rbuf.Valid) {k : Nat} (within : rbuf.buf_ptr + k ≤ rbuf.buf_size) :
    ({ rbuf with buf_ptr := rbuf.buf_ptr + k } : Buffer).Valid :=
  ⟨hb.length_eq, within, hb.size_le⟩

theorem type_eq (hp : rpkt.Valid startup) :
    (if startup then NULL_COMMAND else rpkt.msg_type) = rpkt.msg_type := by
  cases startup with
  | true => exact (hp.startup_type rfl).symm
  | false => rfl

theorem ReadPacket_outcome (hb : rbuf.Valid) (hp : rpkt.Valid startup) (parsed : rpkt.header_parsed = true)
    (positive : 0 < rbuf.buf_ptr + rpkt.len) :
    ParseOutcome startup (pending startup rbuf rpkt) (ReadPacket rbuf rpkt) := by
  have unread_length := Buffer.length_unread hb
  have size_le := hb.size_le
  have ptr_le := hb.ptr_le
  cases extended : rpkt.is_extended with
  | true =>
    have long : SOCKET_BUFFER_SIZE < rpkt.len := by simpa [extended] using hp.extended_eq
    have short := hp.extended_lt extended
    by_cases more : rpkt.len - rpkt.extended_buffer.length > rbuf.buf_size - rbuf.buf_ptr
    · -- the whole window goes to the extended buffer, and more is needed
      have all : min (rbuf.buf_size - rbuf.buf_ptr) (rpkt.len - rpkt.extended_buffer.length) =
          rbuf.unread.length := by omega
      have copied : (rbuf.buf.drop rbuf.buf_ptr).take rbuf.unread.length = rbuf.unread := by
        rw [Buffer.drop_take_eq_unread (by omega), List.take_length]
      have step : ReadPacket rbuf rpkt = (false, { rbuf with buf_ptr := rbuf.buf_ptr + rbuf.unread.length },
          { rpkt with extended_buffer := rpkt.extended_buffer ++ rbuf.unread }) := by
        simp only [ReadPacket, extended, if_true, RequestPacket.ExtendedBytesRequired, if_pos more, all, copied,
          RequestPacket.AppendToExtendedBuffer]
      rw [step]
      refine ⟨valid_advance hb (by omega), ⟨hp.not_initialized, by simp [parsed], hp.startup_type, hp.fits,
        hp.extended_eq, by simp [extended], fun _ => by dsimp only; rw [List.length_append, unread_length]; omega⟩,
        fun _ => by dsimp only; omega, ?_, ?_⟩
      · simp [pending, parsed, RequestPacket.header, Buffer.unread_advance]
      · rw [decodeMessage_pending parsed hp.fits, if_neg (by simp; omega)]
    · -- the rest of the body is in the window
      have rest : min (rbuf.buf_size - rbuf.buf_ptr) (rpkt.len - rpkt.extended_buffer.length) =
          rpkt.len - rpkt.extended_buffer.length := min_eq_right (by omega)
      have copied : (rbuf.buf.drop rbuf.buf_ptr).take (rpkt.len - rpkt.extended_buffer.length) =
          rbuf.unread.take (rpkt.len - rpkt.extended_buffer.length) :=
        Buffer.drop_take_eq_unread (by omega)
      have step : ReadPacket rbuf rpkt = (true,
          { rbuf with buf_ptr := rbuf.buf_ptr + (rpkt.len - rpkt.extended_buffer.length) },
          { rpkt with extended_buffer := rpkt.extended_buffer ++ rbuf.unread.take (rpkt.len - rpkt.extended_buffer.length),
                      contents := rpkt.extended_buffer ++ rbuf.unread.take (rpkt.len - rpkt.extended_buffer.length),
                      is_initialized := true }) := by
        simp only [ReadPacket, extended, if_true, RequestPacket.ExtendedBytesRequired, if_neg more, rest, copied,
          RequestPacket.AppendToExtendedBuffer, RequestPacket.InitializePacket]
      rw [step]
      refine ⟨valid_advance hb (by omega), ?_⟩
      rw [decodeMessage_pending parsed hp.fits, if_pos (by simp; omega), type_eq hp, Buffer.unread_advance,
        List.take_append, List.drop_append, List.take_of_length_le (by omega), List.drop_of_length_le (by omega)]
      simp
  | false =>
    have nil := hp.extended_nil extended
    have small : rpkt.len ≤ SOCKET_BUFFER_SIZE := by simpa [extended] using hp.extended_eq
    by_cases whole : rbuf.buf_ptr + rpkt.len ≤ rbuf.buf_size
    · have available : rbuf.IsReadDataAvailable rpkt.len = true :=
        (Buffer.IsReadDataAvailable_iff positive (by simp [SOCKET_BUFFER_SIZE] at *; omega)).mpr whole
      have step : ReadPacket rbuf rpkt = (true, { rbuf with buf_ptr := rbuf.buf_ptr + rpkt.len },
          rpkt.InitializePacketAt rbuf.buf_ptr rbuf.buf) := by
        simp [ReadPacket, extended, available]
      rw [step]
      refine ⟨valid_advance hb whole, ?_⟩
      rw [decodeMessage_pending parsed hp.fits, if_pos (by simp [nil]; omega), type_eq hp, Buffer.unread_advance]
      simp [RequestPacket.InitializePacketAt, nil, Buffer.drop_take_eq_unread whole]
    · have unavailable : rbuf.IsReadDataAvailable rpkt.len = false := by
        rw [← Bool.not_eq_true, Buffer.IsReadDataAvailable_iff positive (by simp [SOCKET_BUFFER_SIZE] at *; omega)]
        exact whole
      have step : ReadPacket rbuf rpkt = (false, rbuf, rpkt) := by simp [ReadPacket, extended, unavailable]
      rw [step]
      refine ⟨hb, hp, fun _ => by omega, rfl, ?_⟩
      rw [decodeMessage_pending parsed hp.fits, if_neg (by simp [nil]; omega)]

theorem IsReadDataAvailable_header (hb : rbuf.Valid) :
    rbuf.IsReadDataAvailable (if startup then 4 else 4 + 1) = true ↔
      typeBytes startup + 4 ≤ rbuf.unread.length := by
  have ptr_le := hb.ptr_le
  have size_le := hb.size_le
  rw [Buffer.length_unread hb]
  cases startup with
  | true =>
    show rbuf.IsReadDataAvailable 4 = true ↔ 0 + 4 ≤ rbuf.buf_size - rbuf.buf_ptr
    rw [Buffer.IsReadDataAvailable_iff (by omega) (by simp [SOCKET_BUFFER_SIZE] at *; omega)]
    omega
  | false =>
    show rbuf.IsReadDataAvailable (4 + 1) = true ↔ 1 + 4 ≤ rbuf.buf_size - rbuf.buf_ptr
    rw [Buffer.IsReadDataAvailable_iff (by omega) (by simp [SOCKET_BUFFER_SIZE] at *; omega)]
    omega

theorem ReadPacketHeader_short (hb : rbuf.Valid) (short : rbuf.unread.length < typeBytes startup + 4) :
    ReadPacketHeader rbuf rpkt startup = .ok (false, rbuf, rpkt) := by
  have unavailable : rbuf.IsReadDataAvailable (if startup then 4 else 4 + 1) = false := by
    rw [← Bool.not_eq_true, IsReadDataAvailable_header hb]
    omega
  simp [ReadPacketHeader, unavailable]

def lengthField (startup : Bool) (rbuf : Buffer) : Nat :=
  ofBigEndian ((rbuf.unread.drop (typeBytes startup)).take 4)

theorem lengthField_lt (startup : Bool) (rbuf : Buffer) : lengthField startup rbuf < 2 ^ 32 := by
  have within := ofBigEndian_lt ((rbuf.unread.drop (typeBytes startup)).take 4)
  have four : ((rbuf.unread.drop (typeBytes startup)).take 4).length ≤ 4 := by simp
  calc lengthField startup rbuf < 256 ^ ((rbuf.unread.drop (typeBytes startup)).take 4).length := within
    _ ≤ 256 ^ 4 := Nat.pow_le_pow_right (by decide) four
    _ = 2 ^ 32 := by norm_num

theorem ReadPacketHeader_typed (hb : rbuf.Valid) (long : typeBytes startup + 4 ≤ rbuf.unread.length) :
    ∃ typed : Buffer × RequestPacket,
      typed = (if startup then (rbuf, rpkt) else
        ({ rbuf with buf_ptr := rbuf.buf_ptr + 1 }, { rpkt with msg_type := rbuf.GetByte rbuf.buf_ptr })) ∧
      typed.1 = { rbuf with buf_ptr := rbuf.buf_ptr + typeBytes startup } ∧
      typed.2 = { rpkt with msg_type := if startup then rpkt.msg_type else rbuf.unread.headD 0 } ∧
      typed.1.GetUInt32BigEndian = lengthField startup rbuf := by
  have unread_length := Buffer.length_unread hb
  refine ⟨_, rfl, ?_, ?_, ?_⟩
  · cases startup <;> rfl
  · cases startup with
    | true => rfl
    | false => simp [Buffer.GetByte_ptr hb (by simp [typeBytes] at long; omega)]
  · have advanced : ({ rbuf with buf_ptr := rbuf.buf_ptr + typeBytes startup } : Buffer).GetUInt32BigEndian =
        lengthField startup rbuf := by
      rw [Buffer.GetUInt32BigEndian_eq (valid_advance hb (by omega)) (by simp; omega),
        Buffer.unread_advance, lengthField]
    cases startup with
    | true => simpa [typeBytes] using advanced
    | false => simpa [typeBytes] using advanced

theorem ReadPacketHeader_taken (hb : rbuf.Valid) (hp : rpkt.Valid startup) (fresh : rpkt.header_parsed = false)
    (long : typeBytes startup + 4 ≤ rbuf.unread.length) (lengthOK : 4 ≤ lengthField startup rbuf) :
    ∃ rbuf' rpkt', ReadPacketHeader rbuf rpkt startup = .ok (true, rbuf', rpkt') ∧ rbuf'.Valid ∧
      rpkt'.Valid startup ∧ rpkt'.header_parsed = true ∧ 0 < rbuf'.buf_ptr + rpkt'.len ∧
      pending startup rbuf' rpkt' = rbuf.unread := by
  have available := (IsReadDataAvailable_header hb).mpr long
  obtain ⟨typed, htyped, buffer, packet, length⟩ := @ReadPacketHeader_typed startup rbuf rpkt hb long
  obtain ⟨-, nil⟩ := hp.fresh fresh
  have small := lengthField_lt startup rbuf
  have wrap : (lengthField startup rbuf + (2 ^ 64 - 4)) % 2 ^ 64 = lengthField startup rbuf - 4 := by
    rw [show lengthField startup rbuf + (2 ^ 64 - 4) = lengthField startup rbuf - 4 + 2 ^ 64 by omega,
      Nat.add_mod_right, Nat.mod_eq_of_lt (by omega)]
  have fits : ¬ BYTEBUF_MAX_SIZE < lengthField startup rbuf - 4 := by simp [BYTEBUF_MAX_SIZE]; omega
  refine ⟨{ rbuf with buf_ptr := rbuf.buf_ptr + (typeBytes startup + 4) },
    { rpkt with msg_type := if startup then rpkt.msg_type else rbuf.unread.headD 0,
                len := lengthField startup rbuf - 4,
                is_extended := decide (SOCKET_BUFFER_SIZE < lengthField startup rbuf - 4),
                header_parsed := true }, ?_, valid_advance hb (by rw [Buffer.length_unread hb] at long; omega),
    ⟨hp.not_initialized, by simp, fun startup_true => by simp [startup_true, hp.startup_type startup_true],
      by simp; omega, rfl, fun _ => nil, fun extended => by simp at extended; simp [nil]; omega⟩,
    rfl, by simp, ?_⟩
  · simp only [ReadPacketHeader, available, Bool.not_true, Bool.false_eq_true, if_false, ← htyped, length, wrap]
    by_cases extended : SOCKET_BUFFER_SIZE < lengthField startup rbuf - 4 <;>
      simp [extended, fits, RequestPacket.ReserveExtendedBuffer, Except.map, buffer, packet, Nat.add_assoc]
  · -- the header goes from the buffer to the packet
    conv_rhs => rw [eq_header startup long]
    simp only [pending, if_true, RequestPacket.header, nil, List.append_nil, Buffer.unread_advance]
    rw [Nat.sub_add_cancel lengthOK]
    cases startup <;> rfl

theorem ReadPacketHeader_malformed (hb : rbuf.Valid) (long : typeBytes startup + 4 ≤ rbuf.unread.length)
    (malformed : lengthField startup rbuf < 4) :
    ReadPacketHeader rbuf rpkt startup = .error .length_error := by
  have available := (IsReadDataAvailable_header hb).mpr long
  obtain ⟨typed, htyped, -, -, length⟩ := @ReadPacketHeader_typed startup rbuf rpkt hb long
  have wrap : (lengthField startup rbuf + (2 ^ 64 - 4)) % 2 ^ 64 = lengthField startup rbuf + (2 ^ 64 - 4) :=
    Nat.mod_eq_of_lt (by omega)
  have huge : BYTEBUF_MAX_SIZE < lengthField startup rbuf + (2 ^ 64 - 4) := by
    unfold BYTEBUF_MAX_SIZE
    omega
  have extended : SOCKET_BUFFER_SIZE < lengthField startup rbuf + (2 ^ 64 - 4) := by
    unfold SOCKET_BUFFER_SIZE
    omega
  simp only [ReadPacketHeader, available, Bool.not_true, Bool.false_eq_true, if_false, ← htyped, length, wrap,
    if_pos (decide_eq_true extended)]
  simp only [RequestPacket.ReserveExtendedBuffer, if_pos huge]
  rfl

theorem ParseInputPacket_outcome (hb : rbuf.Valid) (hp : rpkt.Valid startup) (waiting : rpkt.Waiting)
    (lengthOK : LengthOK startup (pending startup rbuf rpkt)) :
    ∃ result, ParseInputPacket rbuf rpkt startup = .ok result ∧
      ParseOutcome startup (pending startup rbuf rpkt) result := by
  cases parsed : rpkt.header_parsed with
  | true =>
    -- the header came in an earlier call: only the body is read
    refine ⟨ReadPacket rbuf rpkt, ?_, ReadPacket_outcome hb hp parsed (by have := waiting parsed; omega)⟩
    simp [ParseInputPacket, parsed, hp.not_initialized, Except.map]
  | false =>
    rw [pending_fresh parsed] at lengthOK ⊢
    by_cases long : typeBytes startup + 4 ≤ rbuf.unread.length
    · obtain ⟨rbuf', rpkt', header, hb', hp', parsed', positive, same⟩ :=
        ReadPacketHeader_taken hb hp parsed long (lengthOK long)
      refine ⟨ReadPacket rbuf' rpkt', ?_, ?_⟩
      · simp [ParseInputPacket, parsed, header, Except.map, hp'.not_initialized]
      · rw [← same]
        exact ReadPacket_outcome hb' hp' parsed' positive
    · have short := @ReadPacketHeader_short startup rbuf rpkt hb (by omega)
      refine ⟨(false, rbuf, rpkt), by simp [ParseInputPacket, parsed, short, Except.map], hb, hp, waiting,
        pending_fresh parsed, decodeMessage_short (by omega)⟩

end Parse

/-! ## Filling the buffer -/

section Fill

variable {rbuf : Buffer} {sock : Socket}

theorem read_data {count : Nat} {event : ReadEvent} {bytes : List UInt8} {sock' : Socket}
    (h : read sock count event = (.data bytes, sock')) :
    sock.incoming = bytes ++ sock'.incoming ∧ bytes.length ≤ count ∧ sock'.closed = sock.closed ∧
      (bytes = [] → (sock.incoming = [] ∧ sock.closed = true) ∨ count = 0) := by
  cases event with
  | ready n =>
    simp only [read] at h
    split at h
    · cases h
    · rename_i arrived
      simp only [Prod.mk.injEq, ReadResult.data.injEq] at h
      obtain ⟨rfl, rfl⟩ := h
      have split : ∀ (l : List UInt8) (k : Nat), l = l.take k ++ l.drop (l.take k).length := by
        intro l k
        rw [List.length_take]
        by_cases le : k ≤ l.length
        · rw [min_eq_left le, List.take_append_drop]
        · rw [min_eq_right (by omega), List.take_of_length_le (by omega), List.drop_length, List.append_nil]
      refine ⟨split _ _, by simp, rfl, fun empty => ?_⟩
      rcases List.take_eq_nil_iff.mp empty with zero | nil
      · exact Or.inr (by omega)
      · refine Or.inl ⟨nil, ?_⟩
        cases closed : sock.closed with
        | false => exact absurd ⟨nil, closed⟩ arrived
        | true => rfl
  | wouldBlock | interrupted | failed => cases h

theorem read_other {count : Nat} {event : ReadEvent} {result : ReadResult} {sock' : Socket}
    (h : read sock count event = (result, sock')) (other : ∀ bytes, result ≠ .data bytes) : sock' = sock := by
  cases event with
  | ready n =>
    simp only [read] at h
    split at h
    · exact (Prod.mk.inj h).2.symm
    · exact absurd (Prod.mk.inj h).1.symm (other _)
  | wouldBlock | interrupted | failed => exact (Prod.mk.inj h).2.symm

theorem valid_Reset (b : Buffer) (hb : b.Valid) : b.Reset.Valid :=
  ⟨hb.length_eq, le_refl 0, Nat.zero_le _⟩

theorem unread_Reset (b : Buffer) (empty : b.buf_ptr = b.buf_size) : b.Reset.unread = b.unread := by
  simp [Buffer.Reset, Buffer.unread, empty]

theorem compact_spec (hb : rbuf.Valid) : (compact rbuf).Valid ∧ (compact rbuf).unread = rbuf.unread := by
  by_cases full : rbuf.buf_ptr < rbuf.buf_size ∧ rbuf.buf_size = Buffer.GetMaxSize
  · have size_le := hb.size_le
    have length_eq := hb.length_eq
    have moved : (rbuf.buf.drop rbuf.buf_ptr).take (rbuf.buf_size - rbuf.buf_ptr) = rbuf.unread := by
      rw [Buffer.unread, List.drop_take]
    have moved_length :
        ((rbuf.buf.drop rbuf.buf_ptr).take (rbuf.buf_size - rbuf.buf_ptr)).length = rbuf.buf_size - rbuf.buf_ptr := by
      simp only [List.length_take, List.length_drop]
      omega
    have fits :
        0 + ((rbuf.buf.drop rbuf.buf_ptr).take (rbuf.buf_size - rbuf.buf_ptr)).length ≤ rbuf.buf.length := by
      omega
    rw [compact, if_pos full]
    refine ⟨⟨by simp [length_eq], Nat.zero_le _, by dsimp only; omega⟩, ?_⟩
    simp only [Buffer.unread, writeBytes_eq _ _ _ fits, List.take_zero, List.nil_append, List.drop_zero,
      Nat.zero_add]
    rw [List.take_append_of_le_length (by omega), List.take_of_length_le (by omega), moved]
    rfl
  · rw [compact, if_neg full]
    exact ⟨hb, rfl⟩

theorem unread_append (hb : rbuf.Valid) {bytes : List UInt8}
    (room : rbuf.buf_size + bytes.length ≤ SOCKET_BUFFER_SIZE) :
    ({ rbuf with buf := writeBytes rbuf.buf rbuf.buf_size bytes, buf_size := rbuf.buf_size + bytes.length } :
      Buffer).Valid ∧
    ({ rbuf with buf := writeBytes rbuf.buf rbuf.buf_size bytes, buf_size := rbuf.buf_size + bytes.length } :
      Buffer).unread = rbuf.unread ++ bytes := by
  have fits : rbuf.buf_size + bytes.length ≤ rbuf.buf.length := by rw [hb.length_eq]; exact room
  have ptr_le := hb.ptr_le
  refine ⟨⟨by simp [hb.length_eq], by dsimp only; omega, room⟩, ?_⟩
  have prefix_length : (rbuf.buf.take rbuf.buf_size).length = rbuf.buf_size := by
    simp only [List.length_take]
    omega
  simp only [Buffer.unread, writeBytes_eq _ _ _ fits]
  rw [List.take_append_of_le_length (by simp only [List.length_append, prefix_length]; omega),
    List.take_of_length_le (by simp only [List.length_append, prefix_length]; omega),
    List.drop_append_of_le_length (by omega)]

theorem FillReadBufferLoop_spec (events : List ReadEvent) :
    ∀ (result : Transition) (rbuf : Buffer) (sock : Socket), rbuf.Valid →
    ∀ t rbuf' sock', FillReadBufferLoop result rbuf sock events = .ok (t, rbuf', sock') →
      rbuf'.Valid ∧ ∃ taken, rbuf'.unread = rbuf.unread ++ taken ∧
        sock.incoming = taken ++ sock'.incoming ∧ sock'.closed = sock.closed := by
  induction events with
  | nil =>
    intro result rbuf sock hb t rbuf' sock' run
    cases run
    exact ⟨hb, [], by simp, by simp, rfl⟩
  | cons event events ih =>
    intro result rbuf sock hb t rbuf' sock' run
    unfold FillReadBufferLoop at run
    split at run
    · cases run
      exact ⟨hb, [], by simp, by simp, rfl⟩
    · rename_i not_full
      split at run
      · -- end of the stream
        rename_i s' heq
        cases run
        obtain ⟨incoming, -, closed, -⟩ := read_data heq
        exact ⟨hb, [], by simp, by simpa using incoming, closed⟩
      · -- bytes arrived: they go in at buf_size and the loop goes on
        rename_i bytes s' nonempty heq
        obtain ⟨incoming, room, closed, -⟩ := read_data heq
        have fits : rbuf.buf_size + bytes.length ≤ SOCKET_BUFFER_SIZE := by
          simp only [Buffer.GetMaxSize] at room
          have := hb.size_le
          omega
        obtain ⟨hb1, unread1⟩ := unread_append hb fits
        obtain ⟨hb', taken, unread', incoming', closed'⟩ := ih _ _ _ hb1 t rbuf' sock' run
        exact ⟨hb', bytes ++ taken, by rw [unread', unread1, List.append_assoc],
          by rw [incoming, incoming', List.append_assoc], closed'.trans closed⟩
      · rename_i s' heq
        cases run
        rw [read_other heq (by simp)]
        exact ⟨hb, [], by simp, by simp, rfl⟩
      · rename_i s' heq
        rw [read_other heq (by simp)] at run
        exact ih _ _ _ hb t rbuf' sock' run
      · cases run

theorem FillReadBuffer_spec {events : List ReadEvent} {t : Transition} {rbuf' : Buffer} {sock' : Socket}
    (hb : rbuf.Valid) (run : FillReadBuffer rbuf sock events = .ok (t, rbuf', sock')) :
    rbuf'.Valid ∧ ∃ taken, rbuf'.unread = rbuf.unread ++ taken ∧
      sock.incoming = taken ++ sock'.incoming ∧ sock'.closed = sock.closed := by
  have reset : (if rbuf.buf_ptr = rbuf.buf_size then rbuf.Reset else rbuf).Valid ∧
      (if rbuf.buf_ptr = rbuf.buf_size then rbuf.Reset else rbuf).unread = rbuf.unread := by
    split
    · rename_i empty
      exact ⟨valid_Reset rbuf hb, unread_Reset rbuf empty⟩
    · exact ⟨hb, rfl⟩
  obtain ⟨hc, unread_c⟩ := compact_spec reset.1
  obtain ⟨hb', taken, unread', rest⟩ := FillReadBufferLoop_spec events _ _ _ hc t rbuf' sock' run
  exact ⟨hb', taken, by rw [unread', unread_c, reset.2], rest⟩

theorem FillReadBufferLoop_error (events : List ReadEvent) :
    ∀ (result : Transition) (rbuf : Buffer) (sock : Socket) (e : Thrown),
      FillReadBufferLoop result rbuf sock events = .error e → e = .NetworkProcessException ∧ .failed ∈ events := by
  induction events with
  | nil => intro result rbuf sock e run; cases run
  | cons event events ih =>
    intro result rbuf sock e run
    unfold FillReadBufferLoop at run
    split at run
    · cases run
    · split at run
      · cases run
      · obtain ⟨same, failed⟩ := ih _ _ _ e run
        exact ⟨same, List.mem_cons_of_mem _ failed⟩
      · cases run
      · obtain ⟨same, failed⟩ := ih _ _ _ e run
        exact ⟨same, List.mem_cons_of_mem _ failed⟩
      · rename_i s' heq
        cases run
        refine ⟨rfl, ?_⟩
        cases event with
        | failed => exact List.mem_cons_self
        | ready n =>
          simp only [read] at heq
          split at heq <;> simp at heq
        | wouldBlock | interrupted => simp [read] at heq

end Fill

/-! ## The read side as a system -/

theorem lengthOK_of_isPrefix {advance : Bool → Message → Bool} {startup : Bool} {rest : List Message}
    (wf : (frontendCodec advance).AllWellFormed startup rest) {q : List UInt8}
    (prefix_ : q <+: (frontendCodec advance).encodeAll startup rest) : LengthOK startup q := by
  intro long
  obtain ⟨t, ht⟩ := prefix_
  cases rest with
  | nil =>
    have empty : q = [] := List.append_eq_nil_iff.mp ht |>.1
    simp [empty] at long
  | cons m later =>
    have within : typeBytes startup ≤ q.length := by omega
    have header : (q.drop (typeBytes startup)).take 4 = toBigEndian 4 (m.body.length + 4) := by
      have same := congrArg (fun bytes => (bytes.drop (typeBytes startup)).take 4) ht
      simp only [Codec.encodeAll_cons] at same
      rw [List.drop_append_of_le_length within, List.take_append_of_le_length (by simp; omega)] at same
      rw [same]
      show ((encodeMessage startup m ++ _).drop (typeBytes startup)).take 4 = _
      rw [encodeMessage, List.append_assoc, List.append_assoc,
        List.drop_append_of_le_length (by simp), List.drop_of_length_le (by simp), List.nil_append,
        List.take_append_of_le_length (by simp), List.take_of_length_le (by simp)]
    rw [header, ofBigEndian_toBigEndian (by have := wf.1.1; norm_num; omega)]
    omega

end Peloton.Network
