import Peloton.Network.Marshal
import Peloton.Network.PacketReader

set_option autoImplicit false

/-!
# The write side of a connection

ConnectionHandle::WritePackets copies the protocol handler's responses into the write buffer, each
packet's header by BufferWriteBytesHeader and its contents by BufferWriteBytesContent, flushing the
buffer to the socket by FlushWriteBuffer when it fills and, if the handler asks, at the end. write(2)
may take part of what it is offered, be interrupted, or find that the socket would block; then
WritePackets returns NOT_READY and is called again once the socket is writable.

Seen through what the peer has received followed by the bytes still in the buffer, every call
appends the wire form of the packets it gets through, whatever write(2) does, as long as the socket
does not block while a packet's contents are being flushed. If it does, the resumed call restarts
the contents from the packet's full length at the advanced cursor, and copies them where bytes not
yet flushed still are: it sends a later window of the packet where an earlier one was due, and reads
past the packet's buffer.
-/

namespace Peloton.Network

open ByteOrder

inductive WriteState
  | COMPLETE | NOT_READY
  deriving DecidableEq, Repr

/-- What one write(2) on the socket does with the bytes it is offered. -/
inductive WriteEvent
  -- takes the first n + 1 of them, or all when fewer are offered
  | accepted (n : Nat)
  -- EAGAIN or EWOULDBLOCK
  | wouldBlock
  | interrupted
  -- any other errno
  | failed
  deriving DecidableEq, Repr

inductive WriteFault
  -- thrown when write(2) fails, caught by StateMachine::Accept
  | NetworkProcessException
  -- a copy or a write(2) reads outside the vector it is handed, which C++ leaves undefined
  | readOutOfRange
  deriving DecidableEq, Repr

def readRange (data : List UInt8) (start count : Nat) : Option (List UInt8) :=
  if start + count ≤ data.length then some ((data.drop start).take count) else none

/-- An OutputPacket of responses_ with the fields the writer reads; new OutputPacket() leaves the
flags false and write_ptr 0. -/
structure ResponsePacket extends OutputPacket where
  msg_type : UInt8
  single_type_pkt : Bool
  skip_header_write : Bool
  write_ptr : Nat
  deriving DecidableEq, Repr

/-- The connection's side of writing: wbuf_, the bytes the peer has received, and the protocol
handler's responses_, next_response_ and force_flush_. -/
structure Writer where
  wbuf : Buffer
  wire : List UInt8
  responses : List ResponsePacket
  next_response_ : Nat
  force_flush_ : Bool
  deriving DecidableEq, Repr

/-! ## ConnectionHandle's writers (network/connection_handle.cpp) -/

/-- One pass of the non-SSL loop of FlushWriteBuffer per event, while bytes are left; once the
events run out the socket would block. -/
def FlushWriteBuffer (w : Writer) (events : List WriteEvent) :
    Except WriteFault (WriteState × Writer × List WriteEvent) :=
  if w.wbuf.buf_size = 0 then .ok (.COMPLETE, { w with wbuf := w.wbuf.Reset }, events)
  else
    match events with
    | [] => .ok (.NOT_READY, w, [])
    | .accepted n :: events =>
      let written_bytes := min (n + 1) w.wbuf.buf_size
      match readRange w.wbuf.buf w.wbuf.buf_flush_ptr written_bytes with
      | none => .error .readOutOfRange
      | some data =>
        FlushWriteBuffer
          { w with wbuf := { w.wbuf with buf_flush_ptr := w.wbuf.buf_flush_ptr + written_bytes,
                                          buf_size := w.wbuf.buf_size - written_bytes },
                   wire := w.wire ++ data } events
    | .wouldBlock :: events => .ok (.NOT_READY, w, events)
    | .interrupted :: events => FlushWriteBuffer w events
    | .failed :: _ => .error .NetworkProcessException
termination_by structural events

def ResponsePacket.headerBytes (pkt : ResponsePacket) : List UInt8 :=
  (if pkt.msg_type ≠ 0 then [pkt.msg_type] else []) ++
    if pkt.single_type_pkt then [] else toBigEndian 4 ((pkt.len + 4) % 2 ^ 32)

def BufferWriteBytesHeader (w : Writer) (pkt : ResponsePacket) (events : List WriteEvent) :
    Except WriteFault (WriteState × Writer × ResponsePacket × List WriteEvent) :=
  if pkt.skip_header_write then .ok (.COMPLETE, w, pkt, events)
  else
    let flushed := if Buffer.GetMaxSize - w.wbuf.buf_ptr < 1 + 4 then FlushWriteBuffer w events
      else .ok (.COMPLETE, w, events)
    flushed.bind fun (result, w, events) =>
      if result = .NOT_READY then .ok (.NOT_READY, w, pkt, events)
      else
        let header := pkt.headerBytes
        .ok (.COMPLETE,
          { w with wbuf := { w.wbuf with buf := writeBytes w.wbuf.buf w.wbuf.buf_ptr header,
                                          buf_ptr := w.wbuf.buf_ptr + header.length,
                                          buf_size := w.wbuf.buf_ptr + header.length } },
          { pkt with skip_header_write := true }, events)

def BufferWriteBytesContentLoop : Nat → Nat → Writer → ResponsePacket → List WriteEvent →
    Except WriteFault (WriteState × Writer × ResponsePacket × List WriteEvent)
  | 0, _, w, pkt, events => .ok (.COMPLETE, w, pkt, events)
  | fuel + 1, len, w, pkt, events =>
    if len = 0 then .ok (.COMPLETE, w, pkt, events)
    else
      let window := Buffer.GetMaxSize - w.wbuf.buf_ptr
      if len ≤ window then
        match readRange pkt.buf pkt.write_ptr len with
        | none => .error .readOutOfRange
        | some content =>
          .ok (.COMPLETE,
            { w with wbuf := { w.wbuf with buf := writeBytes w.wbuf.buf w.wbuf.buf_ptr content,
                                            buf_ptr := w.wbuf.buf_ptr + len, buf_size := w.wbuf.buf_ptr + len } },
            pkt, events)
      else
        match readRange pkt.buf pkt.write_ptr window with
        | none => .error .readOutOfRange
        | some content =>
          -- the window is filled, but buf_ptr is left where it was
          let pkt := { pkt with write_ptr := pkt.write_ptr + window }
          let w := { w with wbuf := { w.wbuf with buf := writeBytes w.wbuf.buf w.wbuf.buf_ptr content,
                                                  buf_size := Buffer.GetMaxSize } }
          (FlushWriteBuffer w events).bind fun (result, w, events) =>
            if result = .NOT_READY then .ok (.NOT_READY, w, pkt, events)
            else BufferWriteBytesContentLoop fuel (len - window) w pkt events

/-- The contents are copied from write_ptr on, len = pkt->len of them. -/
def BufferWriteBytesContent (w : Writer) (pkt : ResponsePacket) (events : List WriteEvent) :
    Except WriteFault (WriteState × Writer × ResponsePacket × List WriteEvent) :=
  BufferWriteBytesContentLoop (events.length + 1) pkt.len w pkt events

def WritePacketsLoop : List ResponsePacket → Writer → List WriteEvent →
    Except WriteFault (WriteState × Writer × List WriteEvent)
  | [], w, events =>
    -- done writing all packets: clear them, then flush if the handler asked to
    let w := { w with responses := [], next_response_ := 0 }
    if w.force_flush_ then FlushWriteBuffer w events
    else .ok (.COMPLETE, { w with force_flush_ := false }, events)
  | pkt :: rest, w, events =>
    (BufferWriteBytesHeader w pkt events).bind fun (result, w, pkt, events) =>
      let w := { w with responses := w.responses.set w.next_response_ pkt }
      if result = .NOT_READY then .ok (.NOT_READY, w, events)
      else
        (BufferWriteBytesContent w pkt events).bind fun (result, w, pkt, events) =>
          let w := { w with responses := w.responses.set w.next_response_ pkt }
          if result = .NOT_READY then .ok (.NOT_READY, w, events)
          else WritePacketsLoop rest { w with next_response_ := w.next_response_ + 1 } events

def WritePackets (w : Writer) (events : List WriteEvent) : Except WriteFault (WriteState × Writer × List WriteEvent) :=
  WritePacketsLoop (w.responses.drop w.next_response_) w events

def ProcessWrite (w : Writer) (events : List WriteEvent) : Except WriteFault (Transition × Writer) :=
  (WritePackets w events).map fun (result, w, _) =>
    match result with
    | .COMPLETE => (.PROCEED, w)
    | .NOT_READY => (.NONE, w)

/-! ## What the writer holds -/

namespace Buffer

def unflushed (b : Buffer) : List UInt8 := (b.buf.drop b.buf_flush_ptr).take b.buf_size

end Buffer

namespace Writer

def output (w : Writer) : List UInt8 := w.wire ++ w.wbuf.unflushed

def flushed (w : Writer) (k : Nat) : Writer :=
  { w with wbuf := { w.wbuf with buf_flush_ptr := w.wbuf.buf_flush_ptr + k, buf_size := w.wbuf.buf_size - k },
           wire := w.wire ++ w.wbuf.unflushed.take k }

def InRange (w : Writer) : Prop := w.wbuf.buf_flush_ptr + w.wbuf.buf_size ≤ w.wbuf.buf.length

variable {w : Writer} {k j : Nat}

@[simp] theorem flushed_zero (w : Writer) : w.flushed 0 = w := by
  simp [flushed]

theorem unflushed_flushed : (w.flushed k).wbuf.unflushed = w.wbuf.unflushed.drop k := by
  simp only [flushed, Buffer.unflushed, List.drop_take, List.drop_drop]

theorem flushed_flushed : (w.flushed k).flushed j = w.flushed (k + j) := by
  conv_lhs => rw [flushed, unflushed_flushed]
  simp only [flushed, List.append_assoc, ← List.take_add, Nat.add_assoc, Nat.sub_sub]

theorem output_flushed : (w.flushed k).output = w.output := by
  rw [output, unflushed_flushed, flushed, List.append_assoc, List.take_append_drop]
  rfl

theorem Reset_flushed : (w.flushed k).wbuf.Reset = w.wbuf.Reset := rfl

theorem InRange.flushed (h : w.InRange) (le : k ≤ w.wbuf.buf_size) : (w.flushed k).InRange := by
  simp only [InRange, Writer.flushed] at h ⊢
  omega

theorem output_Reset (empty : w.wbuf.buf_size = 0) : { w with wbuf := w.wbuf.Reset, wire := w.output } =
    { w with wbuf := w.wbuf.Reset } := by
  simp [output, Buffer.unflushed, empty]

end Writer

/-! ## FlushWriteBuffer -/

theorem readRange_eq {data : List UInt8} {start count : Nat} (fits : start + count ≤ data.length) :
    readRange data start count = some ((data.drop start).take count) := by
  simp [readRange, fits]

theorem readRange_eq_none {data : List UInt8} {start count : Nat} (past : data.length < start + count) :
    readRange data start count = none := by
  simp [readRange]
  omega

theorem length_take_drop_of_le {l : List UInt8} {start count : Nat} (fits : start + count ≤ l.length) :
    ((l.drop start).take count).length = count := by
  simp only [List.length_take, List.length_drop]
  omega

theorem writeBytes_over {pre rest block : List UInt8} (same : block.length = rest.length) :
    writeBytes (pre ++ rest) pre.length block = pre ++ block := by
  rw [writeBytes_eq _ _ _ (by simp [same])]
  simp [same]

theorem FlushWriteBuffer_empty {w : Writer} (empty : w.wbuf.buf_size = 0) (events : List WriteEvent) :
    FlushWriteBuffer w events = .ok (.COMPLETE, { w with wbuf := w.wbuf.Reset, wire := w.output }, events) := by
  rw [Writer.output_Reset empty, FlushWriteBuffer.eq_def, if_pos empty]

theorem FlushWriteBuffer_accepted {w : Writer} (inRange : w.InRange) (nonempty : w.wbuf.buf_size ≠ 0)
    (n : Nat) (events : List WriteEvent) :
    FlushWriteBuffer w (.accepted n :: events) = FlushWriteBuffer (w.flushed (min (n + 1) w.wbuf.buf_size)) events := by
  have fits : w.wbuf.buf_flush_ptr + min (n + 1) w.wbuf.buf_size ≤ w.wbuf.buf.length := by
    have := min_le_right (n + 1) w.wbuf.buf_size
    unfold Writer.InRange at inRange
    omega
  have data : (w.wbuf.buf.drop w.wbuf.buf_flush_ptr).take (min (n + 1) w.wbuf.buf_size) =
      w.wbuf.unflushed.take (min (n + 1) w.wbuf.buf_size) := by
    rw [Buffer.unflushed, List.take_take, min_eq_left (min_le_right _ _)]
  rw [FlushWriteBuffer, if_neg nonempty]
  simp only [readRange_eq fits, data]
  rfl

theorem FlushWriteBuffer_short {w : Writer} {n : Nat} (inRange : w.InRange) (short : n + 1 < w.wbuf.buf_size) :
    FlushWriteBuffer w [.accepted n, .wouldBlock] = .ok (.NOT_READY, w.flushed (n + 1), []) := by
  rw [FlushWriteBuffer_accepted inRange (by omega), min_eq_left short.le]
  have left : (w.flushed (n + 1)).wbuf.buf_size ≠ 0 := by simp only [Writer.flushed]; omega
  rw [FlushWriteBuffer, if_neg left]

theorem FlushWriteBuffer_cases (events : List WriteEvent) : ∀ w : Writer, w.InRange →
    (∃ events', events' <:+ events ∧ (w.wbuf.buf_size ≠ 0 → events'.length < events.length) ∧
        FlushWriteBuffer w events = .ok (.COMPLETE, { w with wbuf := w.wbuf.Reset, wire := w.output }, events')) ∨
    (∃ k < w.wbuf.buf_size, ∃ events', FlushWriteBuffer w events = .ok (.NOT_READY, w.flushed k, events')) ∨
    (.failed ∈ events ∧ FlushWriteBuffer w events = .error .NetworkProcessException) := by
  induction events with
  | nil =>
    intro w _
    by_cases empty : w.wbuf.buf_size = 0
    · exact .inl ⟨[], List.suffix_refl _, absurd empty, FlushWriteBuffer_empty empty []⟩
    · exact .inr (.inl ⟨0, by omega, [], by simp [FlushWriteBuffer, empty]⟩)
  | cons event events ih =>
    intro w inRange
    by_cases empty : w.wbuf.buf_size = 0
    · exact .inl ⟨event :: events, List.suffix_refl _, absurd empty, FlushWriteBuffer_empty empty _⟩
    -- every event but a successful write(2) leaves the buffer as it was
    have shorter : ∀ events' : List WriteEvent, events' <:+ events →
        events' <:+ event :: events ∧ events'.length < (event :: events).length := fun events' suffix =>
      ⟨suffix.trans (List.suffix_cons _ _), Nat.lt_succ_of_le suffix.length_le⟩
    cases event with
    | accepted n =>
      have le : min (n + 1) w.wbuf.buf_size ≤ w.wbuf.buf_size := min_le_right _ _
      rw [FlushWriteBuffer_accepted inRange empty]
      rcases ih _ (inRange.flushed le) with ⟨events', suffix, -, run⟩ | ⟨k, lt, events', run⟩ | ⟨failed, run⟩
      · refine .inl ⟨events', (shorter _ suffix).1, fun _ => (shorter _ suffix).2, ?_⟩
        rw [run, Writer.output_flushed, Writer.Reset_flushed]
        rfl
      · refine .inr (.inl ⟨min (n + 1) w.wbuf.buf_size + k, ?_, events', ?_⟩)
        · simp only [Writer.flushed] at lt
          omega
        · rw [run, Writer.flushed_flushed]
      · exact .inr (.inr ⟨List.mem_cons_of_mem _ failed, run⟩)
    | wouldBlock => exact .inr (.inl ⟨0, by omega, events, by simp [FlushWriteBuffer, empty]⟩)
    | interrupted =>
      have step : FlushWriteBuffer w (.interrupted :: events) = FlushWriteBuffer w events := by
        rw [FlushWriteBuffer, if_neg empty]
      rw [step]
      rcases ih w inRange with ⟨events', suffix, -, run⟩ | ⟨k, lt, events', run⟩ | ⟨failed, run⟩
      · exact .inl ⟨events', (shorter _ suffix).1, fun _ => (shorter _ suffix).2, run⟩
      · exact .inr (.inl ⟨k, lt, events', run⟩)
      · exact .inr (.inr ⟨List.mem_cons_of_mem _ failed, run⟩)
    | failed => exact .inr (.inr ⟨List.mem_cons_self, by simp [FlushWriteBuffer, empty]⟩)

/-! ## The buffer between flushes -/

namespace Writer

/-- wbuf_ is a SOCKET_BUFFER_SIZE buffer whose unflushed bytes run from buf_flush_ptr to buf_ptr. -/
structure Sound (w : Writer) : Prop where
  length_eq : w.wbuf.buf.length = SOCKET_BUFFER_SIZE
  flush_add : w.wbuf.buf_flush_ptr + w.wbuf.buf_size = w.wbuf.buf_ptr
  ptr_le : w.wbuf.buf_ptr ≤ SOCKET_BUFFER_SIZE

variable {w : Writer} {k : Nat}

theorem Sound.inRange (h : w.Sound) : w.InRange := by
  unfold InRange
  rw [h.length_eq, h.flush_add]
  exact h.ptr_le

theorem Sound.flushed (h : w.Sound) (le : k ≤ w.wbuf.buf_size) : (w.flushed k).Sound := by
  refine ⟨h.length_eq, ?_, h.ptr_le⟩
  have := h.flush_add
  simp only [Writer.flushed]
  omega

theorem output_reset : ({ w with wbuf := w.wbuf.Reset, wire := w.output } : Writer).output = w.output := by
  simp [output, Buffer.Reset, Buffer.unflushed]

theorem sound_reset (length_eq : w.wbuf.buf.length = SOCKET_BUFFER_SIZE) :
    ({ w with wbuf := w.wbuf.Reset, wire := w.output } : Writer).Sound :=
  ⟨length_eq, rfl, Nat.zero_le _⟩

theorem unflushed_eq (h : w.Sound) (clean : w.wbuf.buf_flush_ptr = 0) :
    w.wbuf.unflushed = w.wbuf.buf.take w.wbuf.buf_ptr := by
  have := h.flush_add
  rw [Buffer.unflushed, clean, List.drop_zero]
  congr 1
  omega

def copyIn (w : Writer) (bytes : List UInt8) : Writer :=
  { w with wbuf := { w.wbuf with buf := writeBytes w.wbuf.buf w.wbuf.buf_ptr bytes,
                                  buf_ptr := w.wbuf.buf_ptr + bytes.length,
                                  buf_size := w.wbuf.buf_ptr + bytes.length } }

theorem Sound.copyIn (h : w.Sound) (clean : w.wbuf.buf_flush_ptr = 0) (bytes : List UInt8)
    (room : w.wbuf.buf_ptr + bytes.length ≤ SOCKET_BUFFER_SIZE) :
    (w.copyIn bytes).Sound ∧ (w.copyIn bytes).wbuf.buf_flush_ptr = 0 ∧
      (w.copyIn bytes).output = w.output ++ bytes := by
  have fits : w.wbuf.buf_ptr + bytes.length ≤ w.wbuf.buf.length := by rw [h.length_eq]; exact room
  refine ⟨⟨by simp [Writer.copyIn, h.length_eq], by simp [Writer.copyIn, clean], room⟩, clean, ?_⟩
  have held : (w.copyIn bytes).wbuf.unflushed = w.wbuf.buf.take w.wbuf.buf_ptr ++ bytes := by
    simp only [Writer.copyIn, Buffer.unflushed, clean, List.drop_zero, writeBytes_eq _ _ _ fits]
    exact (take_drop_after_write fits 0).1
  rw [output, held, output, unflushed_eq h clean, List.append_assoc]
  rfl

end Writer

/-! ## BufferWriteBytesHeader -/

theorem length_headerBytes (pkt : ResponsePacket) : pkt.headerBytes.length ≤ 1 + 4 := by
  unfold ResponsePacket.headerBytes
  split <;> split <;> simp

theorem length_headerBytes_of_typed {pkt : ResponsePacket} (typed : pkt.msg_type ≠ 0)
    (framed : pkt.single_type_pkt = false) : pkt.headerBytes.length = 1 + 4 := by
  simp [ResponsePacket.headerBytes, typed, framed]

theorem BufferWriteBytesHeader_cases {w : Writer} {pkt : ResponsePacket} (events : List WriteEvent)
    (sound : w.Sound) (resumes : w.wbuf.buf_flush_ptr = 0 ∨ Buffer.GetMaxSize - w.wbuf.buf_ptr < 1 + 4)
    (pending : pkt.skip_header_write = false) :
    (∃ w' events', events' <:+ events ∧
        BufferWriteBytesHeader w pkt events = .ok (.COMPLETE, w', { pkt with skip_header_write := true }, events') ∧
        w'.Sound ∧ w'.wbuf.buf_flush_ptr = 0 ∧ w'.output = w.output ++ pkt.headerBytes ∧
        w' = { w with wbuf := w'.wbuf, wire := w'.wire }) ∨
    (Buffer.GetMaxSize - w.wbuf.buf_ptr < 1 + 4 ∧ ∃ k < w.wbuf.buf_size, ∃ events',
        BufferWriteBytesHeader w pkt events = .ok (.NOT_READY, w.flushed k, pkt, events')) ∨
    (.failed ∈ events ∧ BufferWriteBytesHeader w pkt events = .error .NetworkProcessException) := by
  have header_le := length_headerBytes pkt
  by_cases full : Buffer.GetMaxSize - w.wbuf.buf_ptr < 1 + 4
  · rcases FlushWriteBuffer_cases events w sound.inRange with
      ⟨events', suffix, -, flushed⟩ | ⟨k, lt, events', flushed⟩ | ⟨failed, flushed⟩
    · -- the flush empties the buffer, and the header goes in at its start
      have appended := (Writer.sound_reset sound.length_eq).copyIn rfl pkt.headerBytes
        (by simp only [Buffer.Reset]; unfold SOCKET_BUFFER_SIZE; omega)
      refine .inl ⟨_, events', suffix, ?_, appended.1, appended.2.1, ?_, rfl⟩
      · simp only [BufferWriteBytesHeader, pending, Bool.false_eq_true, if_false, if_pos full, flushed]
        rfl
      · rw [appended.2.2]
        simp [Writer.output, Buffer.Reset, Buffer.unflushed]
    · refine .inr (.inl ⟨full, k, lt, events', ?_⟩)
      simp only [BufferWriteBytesHeader, pending, Bool.false_eq_true, if_false, if_pos full, flushed]
      rfl
    · refine .inr (.inr ⟨failed, ?_⟩)
      simp only [BufferWriteBytesHeader, pending, Bool.false_eq_true, if_false, if_pos full, flushed]
      rfl
  · have clean := resumes.resolve_right full
    have appended := sound.copyIn clean pkt.headerBytes
      (by unfold Buffer.GetMaxSize at full; omega)
    refine .inl ⟨_, events, List.suffix_refl _, ?_, appended.1, appended.2.1, appended.2.2, rfl⟩
    simp only [BufferWriteBytesHeader, pending, Bool.false_eq_true, if_false, if_neg full]
    rfl

/-! ## BufferWriteBytesContent -/

theorem BufferWriteBytesContentLoop_cases (fuel : Nat) : ∀ (len : Nat) (w : Writer) (pkt : ResponsePacket)
    (events : List WriteEvent), w.Sound → w.wbuf.buf_flush_ptr = 0 → pkt.write_ptr + len = pkt.buf.length →
    events.length < fuel →
    (∃ w' pkt' events', events' <:+ events ∧
        BufferWriteBytesContentLoop fuel len w pkt events = .ok (.COMPLETE, w', pkt', events') ∧
        w'.Sound ∧ w'.wbuf.buf_flush_ptr = 0 ∧ w'.output = w.output ++ pkt.buf.drop pkt.write_ptr ∧
        w' = { w with wbuf := w'.wbuf, wire := w'.wire } ∧ pkt' = { pkt with write_ptr := pkt'.write_ptr }) ∨
    (∃ w' pkt' events', BufferWriteBytesContentLoop fuel len w pkt events = .ok (.NOT_READY, w', pkt', events') ∧
        (∃ j, w'.output = w.output ++ (pkt.buf.drop pkt.write_ptr).take j) ∧
        w' = { w with wbuf := w'.wbuf, wire := w'.wire } ∧ pkt' = { pkt with write_ptr := pkt'.write_ptr }) ∨
    (.failed ∈ events ∧ BufferWriteBytesContentLoop fuel len w pkt events = .error .NetworkProcessException) := by
  induction fuel with
  | zero => intro _ _ _ events _ _ _ enough; exact absurd enough (Nat.not_lt_zero _)
  | succ fuel ih =>
    intro len w pkt events sound clean rest enough
    by_cases done : len = 0
    · refine .inl ⟨w, pkt, events, List.suffix_refl _, ?_, sound, clean, ?_, rfl, rfl⟩
      · rw [BufferWriteBytesContentLoop, if_pos done]
      · rw [List.drop_eq_nil_of_le (by omega), List.append_nil]
    by_cases fits : len ≤ Buffer.GetMaxSize - w.wbuf.buf_ptr
    · -- the rest fits in the window
      have inside : pkt.write_ptr + len ≤ pkt.buf.length := by omega
      have length_rest : (pkt.buf.drop pkt.write_ptr).length = len := by simp only [List.length_drop]; omega
      have content : (pkt.buf.drop pkt.write_ptr).take len = pkt.buf.drop pkt.write_ptr :=
        List.take_of_length_le (by omega)
      have copied := sound.copyIn clean (pkt.buf.drop pkt.write_ptr)
        (by rw [length_rest]; unfold Buffer.GetMaxSize at fits; omega)
      refine .inl ⟨_, pkt, events, List.suffix_refl _, ?_, copied.1, copied.2.1, copied.2.2, rfl, rfl⟩
      simp only [BufferWriteBytesContentLoop, if_neg done, if_pos fits, readRange_eq inside, content,
        Writer.copyIn, length_rest]
    · -- the window is filled and flushed, and the loop goes round with what is left
      have beyond : Buffer.GetMaxSize - w.wbuf.buf_ptr < len := by omega
      have inside : pkt.write_ptr + (Buffer.GetMaxSize - w.wbuf.buf_ptr) ≤ pkt.buf.length := by omega
      obtain ⟨content, hcontent⟩ : ∃ content,
          content = (pkt.buf.drop pkt.write_ptr).take (Buffer.GetMaxSize - w.wbuf.buf_ptr) := ⟨_, rfl⟩
      obtain ⟨w₁, hw₁⟩ : ∃ w₁ : Writer, w₁ = { w with wbuf := { w.wbuf with
          buf := writeBytes w.wbuf.buf w.wbuf.buf_ptr content, buf_size := Buffer.GetMaxSize } } := ⟨_, rfl⟩
      obtain ⟨pkt₁, hpkt₁⟩ : ∃ pkt₁ : ResponsePacket,
          pkt₁ = { pkt with write_ptr := pkt.write_ptr + (Buffer.GetMaxSize - w.wbuf.buf_ptr) } := ⟨_, rfl⟩
      have step : BufferWriteBytesContentLoop (fuel + 1) len w pkt events =
          (FlushWriteBuffer w₁ events).bind fun (result, w', events) =>
            if result = .NOT_READY then .ok (.NOT_READY, w', pkt₁, events)
            else BufferWriteBytesContentLoop fuel (len - (Buffer.GetMaxSize - w.wbuf.buf_ptr)) w' pkt₁ events := by
        simp only [BufferWriteBytesContentLoop, if_neg done, if_neg fits, readRange_eq inside, hw₁, hcontent, hpkt₁]
      have length_content : content.length = Buffer.GetMaxSize - w.wbuf.buf_ptr := by
        rw [hcontent, List.length_take, List.length_drop]
        omega
      have max : Buffer.GetMaxSize = SOCKET_BUFFER_SIZE := rfl
      have fits_buf : w.wbuf.buf_ptr + content.length ≤ w.wbuf.buf.length := by
        have := sound.ptr_le
        rw [sound.length_eq, length_content]
        omega
      -- the buffer holds what it held, then the window's worth of contents
      have held : w₁.output = w.output ++ content := by
        have whole : Buffer.GetMaxSize = w.wbuf.buf_ptr + content.length := by
          have := sound.ptr_le
          rw [length_content]
          omega
        have unflushed₁ : w₁.wbuf.unflushed = w.wbuf.buf.take w.wbuf.buf_ptr ++ content := by
          simp only [hw₁, Buffer.unflushed, clean, List.drop_zero, writeBytes_eq _ _ _ fits_buf, whole]
          exact (take_drop_after_write fits_buf 0).1
        rw [Writer.output, unflushed₁, Writer.output, Writer.unflushed_eq sound clean, hw₁, List.append_assoc]
      have inRange : w₁.InRange := by
        simp only [Writer.InRange, hw₁, clean, length_writeBytes, sound.length_eq, Nat.zero_add]
        exact le_refl _
      have length₁ : w₁.wbuf.buf.length = SOCKET_BUFFER_SIZE := by
        rw [hw₁, length_writeBytes, sound.length_eq]
      rw [step]
      rcases FlushWriteBuffer_cases events w₁ inRange with
        ⟨events', suffix, shorter, flushed⟩ | ⟨k, lt, events', flushed⟩ | ⟨failed, flushed⟩
      · -- the flush empties the buffer: round the loop again
        have size₁ : w₁.wbuf.buf_size ≠ 0 := by
          rw [hw₁]
          show Buffer.GetMaxSize ≠ 0
          decide
        have rest₁ : pkt₁.write_ptr + (len - (Buffer.GetMaxSize - w.wbuf.buf_ptr)) = pkt₁.buf.length := by
          rw [hpkt₁]
          dsimp only
          omega
        have enough₁ : events'.length < fuel := by
          have := shorter size₁
          omega
        have next := ih _ _ pkt₁ events' (Writer.sound_reset length₁) rfl rest₁ enough₁
        simp only [flushed, Except.bind, reduceCtorEq, if_false]
        rcases next with ⟨w', pkt', events'', suffix', run, sound', clean', output', same, samePkt⟩ |
          ⟨w', pkt', events'', run, ⟨j, output'⟩, same, samePkt⟩ | ⟨failed, run⟩
        · refine .inl ⟨w', pkt', events'', suffix'.trans suffix, run, sound', clean', ?_, ?_, ?_⟩
          · rw [output', hpkt₁, Writer.output_reset, held, hcontent, List.append_assoc, ← List.drop_drop,
              List.take_append_drop]
          · rw [same, hw₁]
          · rw [samePkt, hpkt₁]
        · refine .inr (.inl ⟨w', pkt', events'', run, ⟨Buffer.GetMaxSize - w.wbuf.buf_ptr + j, ?_⟩, ?_, ?_⟩)
          · rw [output', hpkt₁, Writer.output_reset, held, hcontent, List.append_assoc, ← List.drop_drop,
              List.take_add]
          · rw [same, hw₁]
          · rw [samePkt, hpkt₁]
        · exact .inr (.inr ⟨suffix.subset failed, run⟩)
      · -- write(2) would block: the window's worth is out or in the buffer
        refine .inr (.inl ⟨w₁.flushed k, pkt₁, events', ?_, ⟨Buffer.GetMaxSize - w.wbuf.buf_ptr, ?_⟩, ?_, ?_⟩)
        · simp only [flushed, Except.bind, if_true]
        · rw [Writer.output_flushed, held, hcontent]
        · rw [hw₁]
          rfl
        · rw [hpkt₁]
      · exact .inr (.inr ⟨failed, by simp only [flushed, Except.bind]⟩)

theorem BufferWriteBytesContent_cases {w : Writer} {pkt : ResponsePacket} (events : List WriteEvent)
    (sound : w.Sound) (clean : w.wbuf.buf_flush_ptr = 0) (unstarted : pkt.write_ptr = 0)
    (length_eq : pkt.buf.length = pkt.len) :
    (∃ w' pkt' events', events' <:+ events ∧
        BufferWriteBytesContent w pkt events = .ok (.COMPLETE, w', pkt', events') ∧
        w'.Sound ∧ w'.wbuf.buf_flush_ptr = 0 ∧ w'.output = w.output ++ pkt.buf ∧
        w' = { w with wbuf := w'.wbuf, wire := w'.wire } ∧ pkt' = { pkt with write_ptr := pkt'.write_ptr }) ∨
    (∃ w' pkt' events', BufferWriteBytesContent w pkt events = .ok (.NOT_READY, w', pkt', events') ∧
        (∃ j, w'.output = w.output ++ pkt.buf.take j) ∧
        w' = { w with wbuf := w'.wbuf, wire := w'.wire } ∧ pkt' = { pkt with write_ptr := pkt'.write_ptr }) ∨
    (.failed ∈ events ∧ BufferWriteBytesContent w pkt events = .error .NetworkProcessException) := by
  have cases := BufferWriteBytesContentLoop_cases (events.length + 1) pkt.len w pkt events sound clean
    (by rw [unstarted, length_eq, Nat.zero_add]) (Nat.lt_succ_self _)
  rw [unstarted, List.drop_zero] at cases
  exact cases

/-! ## WritePackets -/

/-- A response as the protocol handler queues it: its header not written, its contents not started,
and buf holding its len bytes. -/
structure ResponsePacket.Fresh (pkt : ResponsePacket) : Prop where
  header_pending : pkt.skip_header_write = false
  unstarted : pkt.write_ptr = 0
  length_eq : pkt.buf.length = pkt.len

def ResponsePacket.wireBytes (pkt : ResponsePacket) : List UInt8 := pkt.headerBytes ++ pkt.buf

namespace Writer

def expected (w : Writer) : List UInt8 :=
  w.output ++ (w.responses.drop w.next_response_).flatMap ResponsePacket.wireBytes

/-- A writer WritePackets can start or resume from: its buffer sound, its flush cursor at the start
unless the call begins by flushing, before a header that does not fit or at the end, and every
response still to write fresh. -/
structure Ready (w : Writer) : Prop where
  sound : w.Sound
  resumes : w.wbuf.buf_flush_ptr = 0 ∨
    (w.next_response_ < w.responses.length ∧ Buffer.GetMaxSize - w.wbuf.buf_ptr < 1 + 4) ∨
    (w.responses.length ≤ w.next_response_ ∧ w.force_flush_ = true)
  fresh : ∀ pkt ∈ w.responses.drop w.next_response_, pkt.Fresh

def InContent (w : Writer) : Prop :=
  ∃ pkt, w.responses[w.next_response_]? = some pkt ∧ pkt.skip_header_write = true

variable {w : Writer}

theorem Sound.of_wbuf {w' : Writer} (h : w.Sound) (same : w'.wbuf = w.wbuf) : w'.Sound :=
  ⟨by rw [same]; exact h.length_eq, by rw [same]; exact h.flush_add, by rw [same]; exact h.ptr_le⟩

end Writer

theorem WritePacketsLoop_nil_cases {w : Writer} (events : List WriteEvent) (ready : w.Ready)
    (done : w.responses.drop w.next_response_ = []) :
    (∃ w' events', WritePacketsLoop [] w events = .ok (.COMPLETE, w', events') ∧ w'.Ready ∧
        w'.responses = [] ∧ w'.output = w.expected ∧ w'.force_flush_ = w.force_flush_ ∧
        (w.force_flush_ = true → w'.wbuf.unflushed = [])) ∨
    (∃ w' events', WritePacketsLoop [] w events = .ok (.NOT_READY, w', events') ∧
        w'.Ready ∧ w'.expected = w.expected) ∨
    (.failed ∈ events ∧ WritePacketsLoop [] w events = .error .NetworkProcessException) := by
  have expected : w.expected = w.output := by rw [Writer.expected, done, List.flatMap_nil, List.append_nil]
  obtain ⟨w₀, hw₀⟩ : ∃ w₀ : Writer, w₀ = { w with responses := [], next_response_ := 0 } := ⟨_, rfl⟩
  have sound₀ : w₀.Sound := ready.sound.of_wbuf (by rw [hw₀])
  have cleared : ∀ pkt ∈ w₀.responses.drop w₀.next_response_, pkt.Fresh := by simp [hw₀]
  by_cases flag : w.force_flush_ = true
  · have step : WritePacketsLoop [] w events = FlushWriteBuffer w₀ events := by
      simp only [WritePacketsLoop, flag, if_true, hw₀]
    rw [step]
    rcases FlushWriteBuffer_cases events w₀ sound₀.inRange with
      ⟨events', -, -, flushed⟩ | ⟨k, lt, events', flushed⟩ | ⟨failed, flushed⟩
    · refine .inl ⟨_, events', flushed, ⟨Writer.sound_reset sound₀.length_eq, .inl rfl, cleared⟩, by rw [hw₀],
        ?_, by rw [hw₀], fun _ => by simp [Buffer.Reset, Buffer.unflushed]⟩
      rw [Writer.output_reset, expected, hw₀]
      rfl
    · refine .inr (.inl ⟨_, events', flushed, ⟨sound₀.flushed lt.le, .inr (.inr ⟨by simp [Writer.flushed, hw₀], ?_⟩),
        cleared⟩, ?_⟩)
      · simp [Writer.flushed, hw₀, flag]
      · rw [expected, Writer.expected, Writer.output_flushed]
        simp [Writer.flushed, hw₀, Writer.output]
    · exact .inr (.inr ⟨failed, flushed⟩)
  · -- no flush: the flush cursor was at the start
    have clean : w.wbuf.buf_flush_ptr = 0 := by
      rcases ready.resumes with clean | ⟨lt, -⟩ | ⟨-, flagged⟩
      · exact clean
      · rw [List.drop_eq_nil_iff] at done
        omega
      · exact absurd flagged flag
    refine .inl ⟨{ w₀ with force_flush_ := false }, events, ?_, ⟨sound₀.of_wbuf rfl, .inl (by rw [hw₀]; exact clean),
      by simp [hw₀]⟩, by rw [hw₀], ?_, by simp [flag], fun flagged => absurd flagged flag⟩
    · simp [WritePacketsLoop, flag, hw₀]
    · rw [expected, hw₀]
      rfl

theorem WritePacketsLoop_cases (pkts : List ResponsePacket) : ∀ (w : Writer) (events : List WriteEvent),
    w.Ready → pkts = w.responses.drop w.next_response_ →
    (∃ w' events', WritePacketsLoop pkts w events = .ok (.COMPLETE, w', events') ∧ w'.Ready ∧
        w'.responses = [] ∧ w'.output = w.expected ∧ w'.force_flush_ = w.force_flush_ ∧
        (w.force_flush_ = true → w'.wbuf.unflushed = [])) ∨
    (∃ w' events', WritePacketsLoop pkts w events = .ok (.NOT_READY, w', events') ∧
        ((w'.Ready ∧ w'.expected = w.expected) ∨ (w'.InContent ∧ w'.output <+: w.expected))) ∨
    (.failed ∈ events ∧ WritePacketsLoop pkts w events = .error .NetworkProcessException) := by
  induction pkts with
  | nil =>
    intro w events ready done
    rcases WritePacketsLoop_nil_cases events ready done.symm with
      complete | ⟨w', events', run, ready', same⟩ | failed
    · exact .inl complete
    · exact .inr (.inl ⟨w', events', run, .inl ⟨ready', same⟩⟩)
    · exact .inr (.inr failed)
  | cons pkt rest ih =>
    intro w events ready hpkts
    have fresh : pkt.Fresh := ready.fresh pkt (by rw [← hpkts]; exact List.mem_cons_self)
    have at_next : w.responses[w.next_response_]? = some pkt := by rw [← List.head?_drop, ← hpkts]; rfl
    obtain ⟨lt, pkt_eq⟩ := List.getElem?_eq_some_iff.mp at_next
    have after : w.responses.drop (w.next_response_ + 1) = rest := by
      rw [← List.drop_drop, ← hpkts, List.drop_one, List.tail_cons]
    have resumes : w.wbuf.buf_flush_ptr = 0 ∨ Buffer.GetMaxSize - w.wbuf.buf_ptr < 1 + 4 := by
      rcases ready.resumes with clean | ⟨-, full⟩ | ⟨past, -⟩
      · exact .inl clean
      · exact .inr full
      · omega
    have expected : w.expected = w.output ++ pkt.wireBytes ++ rest.flatMap ResponsePacket.wireBytes := by
      rw [Writer.expected, ← hpkts, List.flatMap_cons, List.append_assoc]
    rcases BufferWriteBytesHeader_cases events ready.sound resumes fresh.header_pending with
      ⟨w₁, events₁, suffix₁, header, sound₁, clean₁, output₁, same₁⟩ | ⟨full, k, lt_k, events₁, header⟩ |
      ⟨failed, header⟩
    · -- the header is in, and the packet goes back into responses_ marked so
      obtain ⟨pkt₁, hpkt₁⟩ : ∃ pkt₁ : ResponsePacket, pkt₁ = { pkt with skip_header_write := true } := ⟨_, rfl⟩
      obtain ⟨w₁', hw₁'⟩ : ∃ w₁' : Writer,
          w₁' = { w₁ with responses := w₁.responses.set w₁.next_response_ pkt₁ } := ⟨_, rfl⟩
      have step : WritePacketsLoop (pkt :: rest) w events =
          (BufferWriteBytesContent w₁' pkt₁ events₁).bind fun (result, w, pkt, events) =>
            let w := { w with responses := w.responses.set w.next_response_ pkt }
            if result = .NOT_READY then .ok (.NOT_READY, w, events)
            else WritePacketsLoop rest { w with next_response_ := w.next_response_ + 1 } events := by
        simp only [WritePacketsLoop, header, Except.bind, reduceCtorEq, if_false, hpkt₁, hw₁']
      have responses₁ : w₁'.responses = w.responses.set w.next_response_ pkt₁ := by rw [hw₁', same₁]
      have next₁ : w₁'.next_response_ = w.next_response_ := by rw [hw₁', same₁]
      have output₁' : w₁'.output = w.output ++ pkt.headerBytes := by rw [← output₁, hw₁']; rfl
      rw [step]
      rcases @BufferWriteBytesContent_cases w₁' pkt₁ events₁ (sound₁.of_wbuf (by rw [hw₁'])) (by rw [hw₁']; exact clean₁)
          (by rw [hpkt₁]; exact fresh.unstarted) (by rw [hpkt₁]; exact fresh.length_eq) with
        ⟨w₂, pkt₂, events₂, suffix₂, content, sound₂, clean₂, output₂, same₂, -⟩ |
        ⟨w₂, pkt₂, events₂, content, ⟨j, output₂⟩, same₂, samePkt₂⟩ | ⟨failed, content⟩
      · -- the contents are in: on to the next packet
        obtain ⟨w₃, hw₃⟩ : ∃ w₃ : Writer, w₃ = { w₂ with responses := w₂.responses.set w₂.next_response_ pkt₂,
                                                         next_response_ := w₂.next_response_ + 1 } := ⟨_, rfl⟩
        have next₃ : w₃.next_response_ = w.next_response_ + 1 := by rw [hw₃, same₂, next₁]
        have rest₃ : rest = w₃.responses.drop w₃.next_response_ := by
          rw [next₃, hw₃, same₂, responses₁]
          simp [List.drop_set, after, next₁]
        have ready₃ : w₃.Ready :=
          ⟨sound₂.of_wbuf (by rw [hw₃]), .inl (by rw [hw₃]; exact clean₂),
            fun p member => ready.fresh p (by rw [← hpkts]; exact List.mem_cons_of_mem _ (rest₃ ▸ member))⟩
        have expected₃ : w₃.expected = w.expected := by
          have output₃ : w₃.output = w.output ++ pkt.wireBytes := by
            rw [show w₃.output = w₂.output by rw [hw₃]; rfl, output₂, output₁', hpkt₁, ResponsePacket.wireBytes,
              List.append_assoc]
          rw [Writer.expected, ← rest₃, output₃, expected]
        have flag₃ : w₃.force_flush_ = w.force_flush_ := by rw [hw₃, same₂, hw₁', same₁]
        have run_rest : ∀ r, WritePacketsLoop rest w₃ events₂ = r →
            ((BufferWriteBytesContent w₁' pkt₁ events₁).bind fun (result, w, pkt, events) =>
              let w := { w with responses := w.responses.set w.next_response_ pkt }
              if result = .NOT_READY then .ok (.NOT_READY, w, events)
              else WritePacketsLoop rest { w with next_response_ := w.next_response_ + 1 } events) = r := by
          intro r run
          simp only [content, Except.bind, reduceCtorEq, if_false]
          rw [← run, hw₃]
        rcases ih w₃ events₂ ready₃ rest₃ with
          ⟨w', events', run, ready', cleared', output', flag', flushed'⟩ | ⟨w', events', run, stopped⟩ | ⟨failed, run⟩
        · refine .inl ⟨w', events', run_rest _ run, ready', cleared', by rw [output', expected₃],
            by rw [flag', flag₃], fun flagged => flushed' (by rw [flag₃]; exact flagged)⟩
        · refine .inr (.inl ⟨w', events', run_rest _ run, ?_⟩)
          rw [← expected₃]
          exact stopped
        · exact .inr (.inr ⟨suffix₁.subset (suffix₂.subset failed), run_rest _ run⟩)
      · -- write(2) would block inside the contents
        have length₂ : w.next_response_ < w₂.responses.length := by
          rw [same₂, responses₁, List.length_set]
          exact lt
        obtain ⟨w₃, hw₃⟩ : ∃ w₃ : Writer, w₃ = { w₂ with responses := w₂.responses.set w₂.next_response_ pkt₂ } :=
          ⟨_, rfl⟩
        refine .inr (.inl ⟨w₃, events₂, by simp only [content, Except.bind, if_true, hw₃], .inr ⟨?_, ?_⟩⟩)
        · have next₂ : w₂.next_response_ = w.next_response_ := by rw [same₂, next₁]
          refine ⟨pkt₂, ?_, by rw [samePkt₂, hpkt₁]⟩
          rw [hw₃]
          exact List.getElem?_set_self (by rw [next₂]; exact length₂)
        · have output₂' : w₃.output = w.output ++ pkt.headerBytes ++ pkt.buf.take j := by
            rw [show w₃.output = w₂.output by rw [hw₃]; rfl, output₂, output₁', hpkt₁]
          have inner : w.output ++ pkt.headerBytes ++ pkt.buf.take j <+: w.output ++ pkt.headerBytes ++ pkt.buf :=
            (List.prefix_append_right_inj _).mpr (List.take_prefix _ _)
          rw [output₂', expected, ResponsePacket.wireBytes, ← List.append_assoc w.output]
          exact inner.trans (List.prefix_append _ _)
      · exact .inr (.inr ⟨suffix₁.subset failed, by simp only [content, Except.bind]⟩)
    · -- write(2) would block in the flush before the header: resume there
      have back : w.responses.set w.next_response_ pkt = w.responses := by rw [← pkt_eq, List.set_getElem_self]
      refine .inr (.inl ⟨w.flushed k, events₁, ?_, .inl ⟨⟨ready.sound.flushed lt_k.le, .inr (.inl ⟨lt, full⟩),
        ready.fresh⟩, ?_⟩⟩)
      · simp only [WritePacketsLoop, header, Except.bind, if_true, Writer.flushed, back]
      · rw [Writer.expected, Writer.output_flushed]
        rfl
    · exact .inr (.inr ⟨failed, by simp only [WritePacketsLoop, header, Except.bind]⟩)

theorem WritePackets_cases {w : Writer} (events : List WriteEvent) (ready : w.Ready) :
    (∃ w' events', WritePackets w events = .ok (.COMPLETE, w', events') ∧ w'.Ready ∧
        w'.responses = [] ∧ w'.output = w.expected ∧ w'.force_flush_ = w.force_flush_ ∧
        (w.force_flush_ = true → w'.wbuf.unflushed = [])) ∨
    (∃ w' events', WritePackets w events = .ok (.NOT_READY, w', events') ∧
        ((w'.Ready ∧ w'.expected = w.expected) ∨ (w'.InContent ∧ w'.output <+: w.expected))) ∨
    (.failed ∈ events ∧ WritePackets w events = .error .NetworkProcessException) :=
  WritePacketsLoop_cases _ w events ready rfl

theorem WritePackets_cases_of_ready_for_query :
    let w : Writer := ⟨⟨0, 0, 0, List.replicate SOCKET_BUFFER_SIZE 0⟩, [], [⟨⟨[73], 1⟩, 90, false, false, 0⟩], 0, true⟩
    (∃ w' events', WritePackets w [.accepted 5, .accepted 100] = .ok (.COMPLETE, w', events') ∧ w'.Ready ∧
        w'.responses = [] ∧ w'.output = w.expected ∧ w'.force_flush_ = w.force_flush_ ∧
        (w.force_flush_ = true → w'.wbuf.unflushed = [])) ∨
    (∃ w' events', WritePackets w [.accepted 5, .accepted 100] = .ok (.NOT_READY, w', events') ∧
        ((w'.Ready ∧ w'.expected = w.expected) ∨ (w'.InContent ∧ w'.output <+: w.expected))) ∨
    (.failed ∈ [WriteEvent.accepted 5, .accepted 100] ∧
      WritePackets w [.accepted 5, .accepted 100] = .error .NetworkProcessException) :=
  WritePackets_cases [.accepted 5, .accepted 100]
    ⟨⟨List.length_replicate, rfl, by decide⟩, .inl rfl, fun pkt member => by
      simp only [List.drop_zero, List.mem_singleton] at member
      exact member ▸ ⟨rfl, rfl, rfl⟩⟩

/-- BufferWriteBytesContent starts again from len = pkt->len after a NOT_READY in its flush, at
the write_ptr that flush left, and buf_ptr is where it was: when write(2) blocks on the first flush
of the contents of a packet that needs two windows or less, the next call copies from past the
packet's buffer, whatever write(2) then does. -/
theorem resumed_write_reads_past_packet {buf wire : List UInt8} {flush : Bool} {pkt : ResponsePacket}
    (length_eq : buf.length = SOCKET_BUFFER_SIZE) (fresh : pkt.Fresh) (typed : pkt.msg_type ≠ 0)
    (framed : pkt.single_type_pkt = false) (long : SOCKET_BUFFER_SIZE - (1 + 4) < pkt.len)
    (short : pkt.len < 2 * (SOCKET_BUFFER_SIZE - (1 + 4))) (events : List WriteEvent) :
    ∃ w', WritePackets ⟨⟨0, 0, 0, buf⟩, wire, [pkt], 0, flush⟩ [.wouldBlock] = .ok (.NOT_READY, w', []) ∧
      WritePackets w' events = .error .readOutOfRange := by
  have max : Buffer.GetMaxSize = SOCKET_BUFFER_SIZE := rfl
  have header := length_headerBytes_of_typed typed framed
  have roomy : ¬ Buffer.GetMaxSize - 0 < 1 + 4 := by decide
  have full : Buffer.GetMaxSize ≠ 0 := by decide
  have nonempty : pkt.len ≠ 0 := by omega
  -- the header leaves a window shorter than the contents
  have beyond : ¬ pkt.len ≤ Buffer.GetMaxSize - (0 + pkt.headerBytes.length) := by
    rw [header, max]
    omega
  have window : pkt.write_ptr + (Buffer.GetMaxSize - (0 + pkt.headerBytes.length)) ≤ pkt.buf.length := by
    rw [fresh.unstarted, fresh.length_eq, header, max]
    omega
  -- a second window from the advanced write_ptr runs past the packet
  have past : readRange pkt.buf (pkt.write_ptr + (Buffer.GetMaxSize - (0 + pkt.headerBytes.length)))
      (Buffer.GetMaxSize - (0 + pkt.headerBytes.length)) = none := by
    apply readRange_eq_none
    rw [fresh.unstarted, fresh.length_eq, header, max]
    omega
  simp only [WritePackets, List.drop_zero, WritePacketsLoop, BufferWriteBytesHeader, fresh.header_pending,
    Bool.false_eq_true, if_false, roomy, Except.bind, reduceCtorEq, BufferWriteBytesContent,
    BufferWriteBytesContentLoop, nonempty, beyond, readRange_eq window, FlushWriteBuffer, full, if_true,
    List.set_cons_zero]
  refine ⟨_, rfl, ?_⟩
  simp only [List.drop_zero, WritePacketsLoop, BufferWriteBytesHeader, if_true, Except.bind,
    BufferWriteBytesContent, BufferWriteBytesContentLoop, nonempty, if_false, beyond, past, reduceCtorEq]

theorem resumed_write_reads_past_packet_of_data_row :
    ∃ w', WritePackets ⟨⟨0, 0, 0, List.replicate SOCKET_BUFFER_SIZE 0⟩, [],
        [⟨⟨List.replicate 10000 0, 10000⟩, 68, false, false, 0⟩], 0, true⟩ [.wouldBlock] =
        .ok (.NOT_READY, w', []) ∧
      WritePackets w' [.accepted SOCKET_BUFFER_SIZE] = .error .readOutOfRange :=
  resumed_write_reads_past_packet (List.length_replicate) ⟨rfl, rfl, List.length_replicate⟩ (by decide) rfl
    (by decide) (by decide) _

theorem resumed_write_sends_later_block {buf wire : List UInt8} {flush : Bool} {pkt : ResponsePacket}
    (length_eq : buf.length = SOCKET_BUFFER_SIZE) (fresh : pkt.Fresh) (typed : pkt.msg_type ≠ 0)
    (framed : pkt.single_type_pkt = false) (long : 2 * (SOCKET_BUFFER_SIZE - (1 + 4)) ≤ pkt.len)
    {n : Nat} (past_header : 1 + 4 ≤ n + 1) (short_write : n + 1 < SOCKET_BUFFER_SIZE) :
    ∃ w₁, WritePackets ⟨⟨0, 0, 0, buf⟩, wire, [pkt], 0, flush⟩ [.wouldBlock] = .ok (.NOT_READY, w₁, []) ∧
      ∃ w₂, WritePackets w₁ [.accepted n, .wouldBlock] = .ok (.NOT_READY, w₂, []) ∧
      w₂.wire = wire ++ pkt.headerBytes ++ (pkt.buf.drop (SOCKET_BUFFER_SIZE - (1 + 4))).take (n + 1 - (1 + 4)) := by
  have max : Buffer.GetMaxSize = SOCKET_BUFFER_SIZE := rfl
  have header := length_headerBytes_of_typed typed framed
  have roomy : ¬ Buffer.GetMaxSize - 0 < 1 + 4 := by decide
  have full : Buffer.GetMaxSize ≠ 0 := by decide
  have nonempty : pkt.len ≠ 0 := by unfold SOCKET_BUFFER_SIZE at long; omega
  have beyond : ¬ pkt.len ≤ Buffer.GetMaxSize - (0 + pkt.headerBytes.length) := by
    rw [header, max]
    unfold SOCKET_BUFFER_SIZE at long ⊢
    omega
  have window : pkt.write_ptr + (Buffer.GetMaxSize - (0 + pkt.headerBytes.length)) ≤ pkt.buf.length := by
    rw [fresh.unstarted, fresh.length_eq, header, max]
    unfold SOCKET_BUFFER_SIZE at long ⊢
    omega
  -- the resumed call copies the second window, which the packet still holds
  have second : pkt.write_ptr + (Buffer.GetMaxSize - (0 + pkt.headerBytes.length)) +
      (Buffer.GetMaxSize - (0 + pkt.headerBytes.length)) ≤ pkt.buf.length := by
    rw [fresh.unstarted, fresh.length_eq, header, max]
    unfold SOCKET_BUFFER_SIZE at long ⊢
    omega
  simp only [WritePackets, List.drop_zero, WritePacketsLoop, BufferWriteBytesHeader, fresh.header_pending,
    Bool.false_eq_true, if_false, roomy, Except.bind, reduceCtorEq, BufferWriteBytesContent,
    BufferWriteBytesContentLoop, nonempty, beyond, readRange_eq window, FlushWriteBuffer, full, if_true,
    List.set_cons_zero]
  refine ⟨_, rfl, ?_⟩
  simp only [List.drop_zero, WritePacketsLoop, BufferWriteBytesHeader, if_true, Except.bind,
    BufferWriteBytesContent, BufferWriteBytesContentLoop, nonempty, if_false, beyond, readRange_eq second, reduceCtorEq]
  rw [FlushWriteBuffer_short]
  · simp only [if_true]
    refine ⟨_, rfl, ?_⟩
    simp only [Writer.flushed, Buffer.unflushed, List.drop_zero, Nat.zero_add]
    simp only [Nat.zero_add] at window second
    -- the header, then the first window over the rest of the buffer, then the second over the first
    have written : writeBytes buf 0 pkt.headerBytes = pkt.headerBytes ++ buf.drop pkt.headerBytes.length := by
      rw [writeBytes_eq _ _ _ (by rw [header, length_eq, ← max]; decide)]
      simp
    have rest_length : (buf.drop pkt.headerBytes.length).length = Buffer.GetMaxSize - pkt.headerBytes.length := by
      rw [List.length_drop, length_eq, max]
    have first_length := length_take_drop_of_le window
    have second_length := length_take_drop_of_le second
    rw [written, writeBytes_over (first_length.trans rest_length.symm),
      writeBytes_over (second_length.trans first_length.symm), List.take_take, min_eq_left (by rw [max]; omega),
      List.take_append, List.take_of_length_le (by omega), List.append_assoc, List.take_take, header,
      min_eq_left (by rw [max]; omega), fresh.unstarted, Nat.zero_add, max]
  · simp only [Writer.InRange, length_writeBytes, length_eq, max]
    omega
  · simp only [max]
    exact short_write
/-- So the peer receives bytes that are not the responses': what reaches the wire is no prefix of the
header and contents the packet is to send, whenever the two windows differ where the write stops. -/
theorem resumed_write_sends_wrong_bytes {buf wire : List UInt8} {flush : Bool} {pkt : ResponsePacket}
    (length_eq : buf.length = SOCKET_BUFFER_SIZE) (fresh : pkt.Fresh) (typed : pkt.msg_type ≠ 0)
    (framed : pkt.single_type_pkt = false) (long : 2 * (SOCKET_BUFFER_SIZE - (1 + 4)) ≤ pkt.len)
    {n : Nat} (past_header : 1 + 4 ≤ n + 1) (short_write : n + 1 < SOCKET_BUFFER_SIZE)
    (differs : (pkt.buf.drop (SOCKET_BUFFER_SIZE - (1 + 4))).take (n + 1 - (1 + 4)) ≠ pkt.buf.take (n + 1 - (1 + 4))) :
    ∃ w₁, WritePackets ⟨⟨0, 0, 0, buf⟩, wire, [pkt], 0, flush⟩ [.wouldBlock] = .ok (.NOT_READY, w₁, []) ∧
      ∃ w₂, WritePackets w₁ [.accepted n, .wouldBlock] = .ok (.NOT_READY, w₂, []) ∧
        ¬ w₂.wire <+: (⟨⟨0, 0, 0, buf⟩, wire, [pkt], 0, flush⟩ : Writer).expected := by
  obtain ⟨w₁, first, w₂, second, sent⟩ :=
    resumed_write_sends_later_block length_eq fresh typed framed long past_header short_write
  refine ⟨w₁, first, w₂, second, fun isPrefix => differs ?_⟩
  have expected : (⟨⟨0, 0, 0, buf⟩, wire, [pkt], 0, flush⟩ : Writer).expected =
      wire ++ pkt.headerBytes ++ pkt.buf := by
    simp [Writer.expected, Writer.output, Buffer.unflushed, ResponsePacket.wireBytes]
  rw [sent, expected, List.prefix_append_right_inj] at isPrefix
  have block_length : ((pkt.buf.drop (SOCKET_BUFFER_SIZE - (1 + 4))).take (n + 1 - (1 + 4))).length =
      n + 1 - (1 + 4) := length_take_drop_of_le (by rw [fresh.length_eq]; omega)
  rw [List.prefix_iff_eq_take, block_length] at isPrefix
  exact isPrefix
def longDataRow : ResponsePacket :=
  ⟨⟨List.replicate (SOCKET_BUFFER_SIZE - (1 + 4)) 0 ++ List.replicate (SOCKET_BUFFER_SIZE - (1 + 4)) 1,
    2 * (SOCKET_BUFFER_SIZE - (1 + 4))⟩, 68, false, false, 0⟩

theorem resumed_write_sends_wrong_bytes_of_long_data_row :
    ∃ w₁, WritePackets ⟨⟨0, 0, 0, List.replicate SOCKET_BUFFER_SIZE 0⟩, [], [longDataRow], 0, true⟩ [.wouldBlock] =
        .ok (.NOT_READY, w₁, []) ∧
      ∃ w₂, WritePackets w₁ [.accepted 5, .wouldBlock] = .ok (.NOT_READY, w₂, []) ∧
        ¬ w₂.wire <+: (⟨⟨0, 0, 0, List.replicate SOCKET_BUFFER_SIZE 0⟩, [], [longDataRow], 0, true⟩ : Writer).expected :=
  resumed_write_sends_wrong_bytes List.length_replicate ⟨rfl, rfl, by simp [longDataRow, Nat.two_mul]⟩ (by decide) rfl
    le_rfl (by decide) (by decide) (by decide +kernel)

end Peloton.Network