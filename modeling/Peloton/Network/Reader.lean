import Peloton.Network.PacketReader

set_option autoImplicit false

/-!
# The read side of a connection as a system

The peer sends bytes and may close its side; the connection fills its read buffer from the socket
and parses packets off it, handing each to the protocol handler, whose init_stage_ says in which
format the next one is read. Whatever the order of these steps and however read(2) cuts the
stream, the packets handed over are the peer's messages in order, no byte is lost or read twice,
and a parse hands over a packet whenever the next message is whole.
-/

namespace Peloton.Network

open Framing

/-- The read buffer, the packet being read, the format the handler reads in, the peer's socket, and
the packets handed to the handler so far. -/
structure Reader where
  rbuf : Buffer
  request : RequestPacket
  init_stage : Bool
  socket : Socket
  received : List Message

inductive ReaderStep
  | send (bytes : List UInt8)
  | close
  | fill (events : List ReadEvent)
  | parse

namespace Reader

def initial : Reader :=
  ⟨⟨0, 0, 0, List.replicate SOCKET_BUFFER_SIZE 0⟩, ⟨NULL_COMMAND, 0, 0, false, false, false, [], []⟩, true,
    ⟨[], false⟩, []⟩

variable (advance : Bool → Message → Bool)

/-- A parsed packet goes to the handler, which moves init_stage_ on as advance says; then the packet
is reset for the next one. -/
def step (r : Reader) : ReaderStep → Except Thrown Reader
  | .send bytes => .ok { r with socket := { r.socket with incoming := r.socket.incoming ++ bytes } }
  | .close => .ok { r with socket := { r.socket with closed := true } }
  | .fill events =>
    (FillReadBuffer r.rbuf r.socket events).map fun (_, rbuf, socket) => { r with rbuf, socket }
  | .parse =>
    (ParseInputPacket r.rbuf r.request r.init_stage).map fun (parsed, rbuf, rpkt) =>
      if parsed then
        { r with rbuf, request := rpkt.Reset, init_stage := advance r.init_stage ⟨rpkt.msg_type, rpkt.contents⟩,
                 received := r.received ++ [⟨rpkt.msg_type, rpkt.contents⟩] }
      else { r with rbuf, request := rpkt }

def run (r : Reader) : List ReaderStep → Except Thrown Reader
  | [] => .ok r
  | s :: rest => (r.step advance s).bind fun r => run r rest

def sent : List ReaderStep → List UInt8
  | [] => []
  | .send bytes :: rest => bytes ++ sent rest
  | _ :: rest => sent rest

def framer (r : Reader) : Framer UInt8 Message Bool :=
  ⟨r.init_stage, pending r.init_stage r.rbuf r.request, r.received⟩

/-- Between two steps: the buffer and the packet are sound, the reader tracks the messages as a
framer, and the bytes it handed over, the bytes it holds and the bytes still in the socket are
the bytes the peer sent. -/
structure Inv (msgs : List Message) (sentSoFar : List UInt8) (r : Reader) : Prop where
  rbuf_valid : r.rbuf.Valid
  request_valid : r.request.Valid r.init_stage
  waiting : r.request.Waiting
  tracks : Framer.Tracks (frontendCodec advance) msgs true
    ((frontendCodec advance).encodeAll true r.received ++ pending r.init_stage r.rbuf r.request) r.framer
  bytes_eq : (frontendCodec advance).encodeAll true r.received ++ pending r.init_stage r.rbuf r.request ++
    r.socket.incoming = sentSoFar

section Steps

variable {advance} {msgs : List Message} {sentSoFar : List UInt8} {r r' : Reader}

theorem sent_cons (s : ReaderStep) (rest : List ReaderStep) : sent (s :: rest) = sent [s] ++ sent rest := by
  cases s <;> simp [sent]

theorem inv_initial : Inv advance msgs [] initial where
  rbuf_valid := ⟨by simp [initial], le_refl 0, Nat.zero_le _⟩
  request_valid := ⟨rfl, fun _ => ⟨rfl, rfl⟩, fun _ => rfl, by simp [initial], rfl, fun _ => rfl,
    fun extended => by simp [initial] at extended⟩
  waiting := fun parsed => by simp [initial] at parsed
  tracks := ⟨List.nil_prefix, rfl, rfl⟩
  bytes_eq := by simp [initial, pending, Buffer.unread]

theorem pending_fill {startup : Bool} {rbuf rbuf' : Buffer} {rpkt : RequestPacket} {taken : List UInt8}
    (unread : rbuf'.unread = rbuf.unread ++ taken) :
    pending startup rbuf' rpkt = pending startup rbuf rpkt ++ taken := by
  simp [pending, unread]

-- The bytes sent so far are the messages handed over, then what waits in the buffer and the packet.
theorem Inv.fed (h : Inv advance msgs sentSoFar r)
    (sent_isPrefix : sentSoFar <+: (frontendCodec advance).encodeAll true msgs) :
    (frontendCodec advance).encodeAll true r.received ++ pending r.init_stage r.rbuf r.request <+:
      (frontendCodec advance).encodeAll true msgs :=
  (List.prefix_append _ _).trans (h.bytes_eq ▸ sent_isPrefix)

theorem Inv.lengthOK (h : Inv advance msgs sentSoFar r) (wf : (frontendCodec advance).AllWellFormed true msgs)
    (sent_isPrefix : sentSoFar <+: (frontendCodec advance).encodeAll true msgs) :
    LengthOK r.init_stage (pending r.init_stage r.rbuf r.request) := by
  have fed := h.fed sent_isPrefix
  obtain ⟨rest, hmsgs, queue⟩ := h.tracks.queue_isPrefix fed
  have wf_rest : (frontendCodec advance).AllWellFormed r.init_stage rest := by
    have format : r.init_stage = r.received.foldl (frontendCodec advance).advance true := h.tracks.format_eq
    rw [hmsgs, Codec.allWellFormed_append] at wf
    rw [format]
    exact wf.2
  exact lengthOK_of_isPrefix wf_rest queue

theorem Inv.step (h : Inv advance msgs sentSoFar r) (wf : (frontendCodec advance).AllWellFormed true msgs)
    {s : ReaderStep} (sent_isPrefix : sentSoFar ++ sent [s] <+: (frontendCodec advance).encodeAll true msgs)
    (stepped : r.step advance s = .ok r') : Inv advance msgs (sentSoFar ++ sent [s]) r' := by
  cases s with
  | send bytes =>
    cases stepped
    exact ⟨h.rbuf_valid, h.request_valid, h.waiting, h.tracks, by simp [sent, ← h.bytes_eq]⟩
  | close =>
    cases stepped
    exact ⟨h.rbuf_valid, h.request_valid, h.waiting, h.tracks, by simp [sent, ← h.bytes_eq]⟩
  | fill events =>
    -- what the fill takes off the socket is fed to the framer
    cases filled : FillReadBuffer r.rbuf r.socket events with
    | error e => simp [Reader.step, filled, Except.map] at stepped
    | ok result =>
      obtain ⟨t, rbuf', sock'⟩ := result
      simp only [Reader.step, filled, Except.map, Except.ok.injEq] at stepped
      subst stepped
      obtain ⟨hb', taken, unread, incoming, -⟩ := FillReadBuffer_spec h.rbuf_valid filled
      have held : pending r.init_stage rbuf' r.request = pending r.init_stage r.rbuf r.request ++ taken :=
        pending_fill unread
      refine ⟨hb', h.request_valid, h.waiting, ?_, ?_⟩
      · have fed := h.tracks.feed taken
        simp only [framer, Framer.feed] at fed ⊢
        rw [held, ← List.append_assoc]
        exact fed
      · simp only [sent, List.append_nil]
        rw [held, ← h.bytes_eq, incoming]
        simp
  | parse =>
    have sent_isPrefix' : sentSoFar <+: (frontendCodec advance).encodeAll true msgs := by
      simpa [sent] using sent_isPrefix
    obtain ⟨result, parsed, outcome⟩ :=
      ParseInputPacket_outcome h.rbuf_valid h.request_valid h.waiting (h.lengthOK wf sent_isPrefix')
    simp only [Reader.step, parsed, Except.map, Except.ok.injEq] at stepped
    subst stepped
    obtain ⟨done, rbuf', rpkt'⟩ := result
    cases done with
    | true =>
      -- a packet is handed over: the framer takes the same message
      obtain ⟨hb', decoded⟩ := outcome
      have taken : r.framer.next (frontendCodec advance) =
          some ⟨advance r.init_stage ⟨rpkt'.msg_type, rpkt'.contents⟩, rbuf'.unread,
            r.received ++ [⟨rpkt'.msg_type, rpkt'.contents⟩]⟩ :=
        Framer.next_eq_some.mpr ⟨_, _, decoded, rfl⟩
      have fed := h.fed sent_isPrefix'
      have tracks := h.tracks.next fed wf taken
      have fed_eq := tracks.fed_eq
      simp only [if_true, sent, List.append_nil]
      refine ⟨hb', RequestPacket.valid_Reset _ _, RequestPacket.waiting_Reset _, ?_, ?_⟩
      · simp only [framer, pending_Reset] at tracks ⊢
        simp only at fed_eq
        rw [fed_eq]
        exact tracks
      · simp only [pending_Reset]
        simp only at fed_eq
        rw [fed_eq, h.bytes_eq]
    | false =>
      obtain ⟨hb', hp', waiting', same, -⟩ := outcome
      simp only [Bool.false_eq_true, if_false, sent, List.append_nil]
      exact ⟨hb', hp', waiting', by simpa [framer, same] using h.tracks, by simpa [same] using h.bytes_eq⟩

theorem Inv.step_error (h : Inv advance msgs sentSoFar r) (wf : (frontendCodec advance).AllWellFormed true msgs)
    (sent_isPrefix : sentSoFar <+: (frontendCodec advance).encodeAll true msgs) {s : ReaderStep} {e : Thrown}
    (stepped : r.step advance s = .error e) :
    e = .NetworkProcessException ∧ ∃ events, s = .fill events ∧ .failed ∈ events := by
  cases s with
  | send bytes => cases stepped
  | close => cases stepped
  | fill events =>
    cases filled : FillReadBuffer r.rbuf r.socket events with
    | error e' =>
      simp only [Reader.step, filled, Except.map, Except.error.injEq] at stepped
      subst stepped
      exact (FillReadBufferLoop_error events _ _ _ e' filled).imp_right fun failed => ⟨events, rfl, failed⟩
    | ok result => simp [Reader.step, filled, Except.map] at stepped
  | parse =>
    obtain ⟨result, parsed, -⟩ :=
      ParseInputPacket_outcome h.rbuf_valid h.request_valid h.waiting (h.lengthOK wf sent_isPrefix)
    simp [Reader.step, parsed, Except.map] at stepped

theorem Inv.run (wf : (frontendCodec advance).AllWellFormed true msgs) (steps : List ReaderStep) :
    ∀ {sentSoFar : List UInt8} {r r' : Reader}, Inv advance msgs sentSoFar r →
      sentSoFar ++ sent steps <+: (frontendCodec advance).encodeAll true msgs →
      Reader.run advance r steps = .ok r' → Inv advance msgs (sentSoFar ++ sent steps) r' := by
  induction steps with
  | nil =>
    intro sentSoFar r r' h _ ran
    cases ran
    simpa [sent] using h
  | cons s rest ih =>
    intro sentSoFar r r' h sent_isPrefix ran
    rw [sent_cons, ← List.append_assoc] at sent_isPrefix ⊢
    cases stepped : r.step advance s with
    | error e => simp [Reader.run, stepped, Except.bind] at ran
    | ok r₁ =>
      simp only [Reader.run, stepped, Except.bind] at ran
      exact ih (h.step wf ((List.prefix_append _ _).trans sent_isPrefix) stepped) sent_isPrefix ran

theorem Inv.run_error (wf : (frontendCodec advance).AllWellFormed true msgs) (steps : List ReaderStep) :
    ∀ {sentSoFar : List UInt8} {r : Reader} {e : Thrown}, Inv advance msgs sentSoFar r →
      sentSoFar ++ sent steps <+: (frontendCodec advance).encodeAll true msgs →
      Reader.run advance r steps = .error e →
        e = .NetworkProcessException ∧ ∃ events, .fill events ∈ steps ∧ .failed ∈ events := by
  induction steps with
  | nil =>
    intro sentSoFar r e _ _ ran
    cases ran
  | cons s rest ih =>
    intro sentSoFar r e h sent_isPrefix ran
    rw [sent_cons, ← List.append_assoc] at sent_isPrefix
    have sent_first := (List.prefix_append _ _).trans sent_isPrefix
    cases stepped : r.step advance s with
    | error e' =>
      simp only [Reader.run, stepped, Except.bind, Except.error.injEq] at ran
      subst ran
      obtain ⟨same, events, rfl, failed⟩ :=
        h.step_error wf ((List.prefix_append _ _).trans sent_first) stepped
      exact ⟨same, events, List.mem_cons_self, failed⟩
    | ok r₁ =>
      simp only [Reader.run, stepped, Except.bind] at ran
      obtain ⟨same, events, member, failed⟩ := ih (h.step wf sent_first stepped) sent_isPrefix ran
      exact ⟨same, events, List.mem_cons_of_mem _ member, failed⟩

theorem Inv.parse_iff (h : Inv advance msgs sentSoFar r) (wf : (frontendCodec advance).AllWellFormed true msgs)
    (sent_isPrefix : sentSoFar <+: (frontendCodec advance).encodeAll true msgs) {m : Message}
    (next : r.received ++ [m] <+: msgs) :
    (∃ r', r.step advance .parse = .ok r' ∧ r'.received = r.received ++ [m]) ↔
      encodeMessage r.init_stage m <+: pending r.init_stage r.rbuf r.request := by
  have fed := h.fed sent_isPrefix
  have format : r.init_stage = r.received.foldl (frontendCodec advance).advance true := h.tracks.format_eq
  have wf_m : m.WellFormed r.init_stage := by
    obtain ⟨later, hlater⟩ := next
    rw [← hlater, Codec.allWellFormed_append, Codec.allWellFormed_append, ← format] at wf
    exact wf.1.2.1
  obtain ⟨result, parsed, outcome⟩ :=
    ParseInputPacket_outcome h.rbuf_valid h.request_valid h.waiting (h.lengthOK wf sent_isPrefix)
  obtain ⟨done, rbuf', rpkt'⟩ := result
  cases done with
  | true =>
    obtain ⟨-, decoded⟩ := outcome
    -- the framer takes the same message, which is the next one
    have taken : r.framer.next (frontendCodec advance) =
        some ⟨advance r.init_stage ⟨rpkt'.msg_type, rpkt'.contents⟩, rbuf'.unread,
          r.received ++ [⟨rpkt'.msg_type, rpkt'.contents⟩]⟩ :=
      Framer.next_eq_some.mpr ⟨_, _, decoded, rfl⟩
    obtain ⟨later, hlater⟩ := (h.tracks.next fed wf taken).delivered_isPrefix
    obtain ⟨later', hlater'⟩ := next
    have same : (⟨rpkt'.msg_type, rpkt'.contents⟩ : Message) = m := by
      rw [← hlater', List.append_assoc, List.append_assoc] at hlater
      simp at hlater
      exact hlater.1
    obtain ⟨-, split⟩ := decodeMessage_eq_some.mp decoded
    constructor
    · intro _
      exact ⟨rbuf'.unread, by rw [split, same]⟩
    · intro _
      refine ⟨{ r with rbuf := rbuf', request := rpkt'.Reset,
                       init_stage := advance r.init_stage ⟨rpkt'.msg_type, rpkt'.contents⟩,
                       received := r.received ++ [⟨rpkt'.msg_type, rpkt'.contents⟩] }, ?_, by simp [same]⟩
      simp [Reader.step, parsed, Except.map]
  | false =>
    obtain ⟨-, -, -, -, undecoded⟩ := outcome
    constructor
    · rintro ⟨r', stepped, grown⟩
      simp only [Reader.step, parsed, Except.map, Except.ok.injEq, Bool.false_eq_true, if_false] at stepped
      subst stepped
      simp at grown
    · rintro ⟨t, whole⟩
      rw [← whole, decodeMessage_encodeMessage wf_m] at undecoded
      cases undecoded

theorem step_parse_socket {r' : Reader} (stepped : r.step advance .parse = .ok r') : r'.socket = r.socket := by
  cases parsed : ParseInputPacket r.rbuf r.request r.init_stage with
  | error e => simp [Reader.step, parsed, Except.map] at stepped
  | ok result =>
    obtain ⟨done, rbuf', rpkt'⟩ := result
    simp only [Reader.step, parsed, Except.map, Except.ok.injEq] at stepped
    subst stepped
    cases done <;> rfl

theorem Inv.parses_deliver_rest (wf : (frontendCodec advance).AllWellFormed true msgs) :
    ∀ (n : Nat) {r : Reader}, n = msgs.length - r.received.length →
      Inv advance msgs ((frontendCodec advance).encodeAll true msgs) r → r.socket.incoming = [] →
      ∃ r', Reader.run advance r (List.replicate n .parse) = .ok r' ∧ r'.received = msgs := by
  intro n
  induction n with
  | zero =>
    intro r left h _
    obtain ⟨rest, hrest⟩ : r.received <+: msgs := h.tracks.delivered_isPrefix
    have empty : rest = [] := by
      rw [← hrest, List.length_append] at left
      exact List.eq_nil_of_length_eq_zero (by simp at left; omega)
    exact ⟨r, rfl, by simpa [empty] using hrest⟩
  | succ n ih =>
    intro r left h drained
    obtain ⟨rest, hrest⟩ : r.received <+: msgs := h.tracks.delivered_isPrefix
    cases rest with
    | nil => simp [← hrest] at left
    | cons m later =>
      -- every byte is in, so the next message is whole in what the reader holds
      have held : pending r.init_stage r.rbuf r.request =
          (frontendCodec advance).encodeAll r.init_stage (m :: later) := by
        have bytes := h.bytes_eq
        have format : r.init_stage = r.received.foldl (frontendCodec advance).advance true := h.tracks.format_eq
        rw [drained, List.append_nil, ← hrest, Codec.encodeAll_append, ← format] at bytes
        exact List.append_cancel_left bytes
      have next : r.received ++ [m] <+: msgs := ⟨later, by rw [← hrest, List.append_assoc, List.singleton_append]⟩
      obtain ⟨r₁, stepped, grown⟩ := (h.parse_iff wf (List.prefix_refl _) next).mpr
        ⟨_, by rw [held, Codec.encodeAll_cons]; rfl⟩
      have h₁ := h.step wf (by simp [sent]) stepped
      simp only [sent, List.append_nil] at h₁
      have total : msgs.length = r.received.length + later.length + 1 := by
        rw [← hrest, List.length_append, List.length_cons]
        omega
      obtain ⟨r', ran, done⟩ := ih (by rw [grown, List.length_append, List.length_singleton]; omega) h₁
        (by rw [step_parse_socket stepped, drained])
      exact ⟨r', by simp [List.replicate_succ, Reader.run, stepped, Except.bind, ran], done⟩

end Steps

end Reader

/-! ## What the read side guarantees -/

variable {advance : Bool → Message → Bool} {msgs : List Message}

/-- Whatever the order of sends, closes, fills and parses and however read(2) cuts the stream, the
read side of a connection whose peer sends a prefix of the encodings of well-formed messages
hands the handler a prefix of those messages, each read in the format the packets before it
left; and the bytes handed over, the bytes held and the bytes still in the socket are exactly the
bytes sent, none lost and none read twice. -/
theorem read_side_delivers_messages (wf : (frontendCodec advance).AllWellFormed true msgs)
    (steps : List ReaderStep) (sent_isPrefix : Reader.sent steps <+: (frontendCodec advance).encodeAll true msgs)
    {r : Reader} (ran : Reader.run advance Reader.initial steps = .ok r) :
    r.received <+: msgs ∧ r.init_stage = r.received.foldl advance true ∧
      (frontendCodec advance).encodeAll true r.received ++ pending r.init_stage r.rbuf r.request ++
        r.socket.incoming = Reader.sent steps := by
  have h := Reader.Inv.run wf steps Reader.inv_initial (by simpa using sent_isPrefix) ran
  rw [List.nil_append] at h
  exact ⟨h.tracks.delivered_isPrefix, h.tracks.format_eq, h.bytes_eq⟩

def startupThenQuery : List Message := [⟨NULL_COMMAND, [0, 3, 0, 0]⟩, ⟨81, [83, 0]⟩]

def sendStartupThenQuery : ReaderStep := .send ((frontendCodec fun _ _ => false).encodeAll true startupThenQuery)

theorem startupThenQuery_wellFormed :
    (frontendCodec fun _ _ => false).AllWellFormed true startupThenQuery := by
  simp only [startupThenQuery, Codec.AllWellFormed]
  exact ⟨⟨by decide, fun _ => rfl⟩, ⟨by decide, fun startup => absurd startup Bool.false_ne_true⟩, trivial⟩

theorem read_side_delivers_messages_of_startup_then_query :
    ∃ r, Reader.run (fun _ _ => false) Reader.initial
        [sendStartupThenQuery, .fill [.ready 100], .parse, .parse] = .ok r ∧
      r.received <+: startupThenQuery ∧ r.init_stage = r.received.foldl (fun _ _ => false) true ∧
      (frontendCodec fun _ _ => false).encodeAll true r.received ++ pending r.init_stage r.rbuf r.request ++
        r.socket.incoming = (frontendCodec fun _ _ => false).encodeAll true startupThenQuery :=
  ⟨_, rfl, @read_side_delivers_messages (fun _ _ => false) startupThenQuery startupThenQuery_wellFormed
    [sendStartupThenQuery, .fill [.ready 100], .parse, .parse] (List.prefix_refl _) _ rfl⟩

/-- In every state a run reaches, a parse hands over the next message exactly when its encoding is
whole in what the reader holds: no packet is reported before all its bytes arrived, and none is
waited for once they have. -/
theorem parse_delivers_iff_whole (wf : (frontendCodec advance).AllWellFormed true msgs)
    (steps : List ReaderStep) (sent_isPrefix : Reader.sent steps <+: (frontendCodec advance).encodeAll true msgs)
    {r : Reader} (ran : Reader.run advance Reader.initial steps = .ok r) {m : Message}
    (next : r.received ++ [m] <+: msgs) :
    (∃ r', r.step advance .parse = .ok r' ∧ r'.received = r.received ++ [m]) ↔
      encodeMessage r.init_stage m <+: pending r.init_stage r.rbuf r.request := by
  have h := Reader.Inv.run wf steps Reader.inv_initial (by simpa using sent_isPrefix) ran
  rw [List.nil_append] at h
  exact h.parse_iff wf sent_isPrefix next

theorem parse_delivers_iff_whole_of_query :
    ∃ r, Reader.run (fun _ _ => false) Reader.initial
        [sendStartupThenQuery, .fill [.ready 100], .parse] = .ok r ∧
      ((∃ r', r.step (fun _ _ => false) .parse = .ok r' ∧ r'.received = r.received ++ [⟨81, [83, 0]⟩]) ↔
        encodeMessage r.init_stage ⟨81, [83, 0]⟩ <+: pending r.init_stage r.rbuf r.request) :=
  ⟨_, rfl, @parse_delivers_iff_whole (fun _ _ => false) startupThenQuery startupThenQuery_wellFormed
    [sendStartupThenQuery, .fill [.ready 100], .parse] (List.prefix_refl _) _ rfl _ (List.prefix_refl _)⟩

/-- Once the peer has sent all the messages and the reader has taken every byte off the socket, as
many parses as messages are left hand over the rest of them. -/
theorem parses_deliver_all (wf : (frontendCodec advance).AllWellFormed true msgs)
    (steps : List ReaderStep) (sent_all : Reader.sent steps = (frontendCodec advance).encodeAll true msgs)
    {r : Reader} (ran : Reader.run advance Reader.initial steps = .ok r) (drained : r.socket.incoming = []) :
    ∃ r', Reader.run advance r (List.replicate (msgs.length - r.received.length) .parse) = .ok r' ∧
      r'.received = msgs := by
  have h := Reader.Inv.run wf steps Reader.inv_initial (by simp [sent_all]) ran
  rw [List.nil_append, sent_all] at h
  exact h.parses_deliver_rest wf _ rfl drained

theorem parses_deliver_all_of_one_fill :
    ∃ r, Reader.run (fun _ _ => false) Reader.initial [sendStartupThenQuery, .fill [.ready 100]] = .ok r ∧
      ∃ r', Reader.run (fun _ _ => false) r
          (List.replicate (startupThenQuery.length - r.received.length) .parse) = .ok r' ∧
        r'.received = startupThenQuery :=
  ⟨_, rfl, @parses_deliver_all (fun _ _ => false) startupThenQuery startupThenQuery_wellFormed
    [sendStartupThenQuery, .fill [.ready 100]] rfl _ rfl rfl⟩

/-- On a stream of well-formed messages the read side throws only when a read(2) fails with an
errno other than EAGAIN and EINTR; that NetworkProcessException is the one Accept catches. -/
theorem read_side_throws_only_on_failed_read (wf : (frontendCodec advance).AllWellFormed true msgs)
    (steps : List ReaderStep) (sent_isPrefix : Reader.sent steps <+: (frontendCodec advance).encodeAll true msgs)
    {e : Thrown} (ran : Reader.run advance Reader.initial steps = .error e) :
    e = .NetworkProcessException ∧ ∃ events, .fill events ∈ steps ∧ .failed ∈ events :=
  Reader.Inv.run_error wf steps Reader.inv_initial (by simpa using sent_isPrefix) ran

theorem read_side_throws_only_on_failed_read_of_failed_fill :
    ∃ e, Reader.run (fun _ _ => false) Reader.initial [sendStartupThenQuery, .fill [.failed]] = .error e ∧
      e = .NetworkProcessException ∧
      ∃ events, ReaderStep.fill events ∈
        [sendStartupThenQuery, .fill [.failed]] ∧
        ReadEvent.failed ∈ events :=
  ⟨_, rfl, @read_side_throws_only_on_failed_read (fun _ _ => false) startupThenQuery startupThenQuery_wellFormed
    [sendStartupThenQuery, .fill [.failed]] (List.prefix_refl _) _ rfl⟩

end Peloton.Network
