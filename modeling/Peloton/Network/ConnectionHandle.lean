import Peloton.Network.Reader
import Peloton.Network.PostgresProtocolHandler

set_option autoImplicit false

/-!
# The connection's state machine

ConnectionHandle::StateMachine::Accept feeds a transition to Delta_, the table the source writes
with DEF_TRANSITION_GRAPH, which names the next state and the method to run; the method's result
is the next transition, until one is NONE. libevent starts it with WAKEUP whenever the socket, or
the worker running a query, has something for the connection. A NetworkProcessException from a
method closes the socket; any other exception leaves Accept, and nothing above it catches one.

The protocol handler is a parameter: its state, and what it answers to each packet it is handed.
-/

namespace Peloton.Network

open Peloton.Type (ExceptionType)

inductive ConnState
  | READ | WRITE | PROCESS | CLOSING | GET_RESULT | PROCESS_WRITE_SSL_HANDSHAKE
  deriving DecidableEq, Repr

/-- The methods the table invokes; AND_WAIT invokes none and returns NONE. -/
inductive Action
  | FillReadBuffer | Process | ProcessWrite | ProcessWrite_SSLHandshake | GetResult | CloseSocket | Wait
  deriving DecidableEq, Repr

/-- StateMachine::Delta_. -/
def Delta_ : ConnState → Transition → Except Thrown (ConnState × Action)
  | .READ, .WAKEUP => .ok (.READ, .FillReadBuffer)
  | .READ, .PROCEED => .ok (.PROCESS, .Process)
  | .READ, .NEED_DATA => .ok (.READ, .Wait)
  | .READ, .FINISH => .ok (.CLOSING, .CloseSocket)
  | .PROCESS_WRITE_SSL_HANDSHAKE, .WAKEUP => .ok (.PROCESS_WRITE_SSL_HANDSHAKE, .ProcessWrite_SSLHandshake)
  | .PROCESS_WRITE_SSL_HANDSHAKE, .NEED_DATA => .ok (.PROCESS_WRITE_SSL_HANDSHAKE, .Wait)
  | .PROCESS_WRITE_SSL_HANDSHAKE, .FINISH => .ok (.CLOSING, .CloseSocket)
  | .PROCESS_WRITE_SSL_HANDSHAKE, .PROCEED => .ok (.PROCESS, .Process)
  | .PROCESS, .PROCEED => .ok (.WRITE, .ProcessWrite)
  | .PROCESS, .NEED_DATA => .ok (.READ, .FillReadBuffer)
  | .PROCESS, .GET_RESULT => .ok (.GET_RESULT, .Wait)
  | .PROCESS, .FINISH => .ok (.CLOSING, .CloseSocket)
  | .PROCESS, .NEED_SSL_HANDSHAKE => .ok (.PROCESS_WRITE_SSL_HANDSHAKE, .ProcessWrite_SSLHandshake)
  | .WRITE, .WAKEUP => .ok (.WRITE, .ProcessWrite)
  | .WRITE, .NEED_DATA => .ok (.PROCESS, .Process)
  | .WRITE, .PROCEED => .ok (.PROCESS, .Process)
  | .GET_RESULT, .WAKEUP => .ok (.GET_RESULT, .GetResult)
  | .GET_RESULT, .PROCEED => .ok (.WRITE, .ProcessWrite)
  -- "undefined transition"
  | _, _ => .error .runtime_error

/-- What SSL_accept does in SSLHandshake: succeed, ask for the socket with SSL_ERROR_WANT_READ or
SSL_ERROR_WANT_WRITE, or fail in one of the ways that return FINISH (SSL_set_fd failing among them). -/
inductive HandshakeOutcome
  | accepted | wantRead | wantWrite | failed
  deriving DecidableEq, Repr

/-- What the connection's calls find on one pass of Accept's loop: what read(2) and write(2) do,
whether SSL_new fails, what SSL_accept does, and whether SSL_shutdown reports SSL_ERROR_WANT_READ
or WANT_WRITE. -/
structure Env where
  reads : List ReadEvent
  writes : List WriteEvent
  sslNewFails : Bool
  handshake : HandshakeOutcome
  shutdownWantsIO : Bool

/-- How a connection fails beyond what Accept catches: an exception of the network layer that leaves
Accept, a read outside a buffer or a packet, or an exception the protocol handler lets out, which
Accept does not catch either. -/
inductive Failure
  | thrown (e : Thrown)
  | undefined
  | raised (type : ExceptionType)
  deriving DecidableEq, Repr

/-- ConnectionHandle with its protocol handler: the state machine's state and the transition its
loop is to feed Delta_ next (NONE outside Accept), the read and write sides, the handler's own
state and the responses its GetResult will queue, whether conn_SSL_context is set, and whether
network_event and workpool_event are still registered. -/
structure Connection (σ : Type) where
  state : ConnState
  next : Transition
  reader : Reader
  writer : Writer
  protocol : σ
  result : List ResponsePacket
  ssl : Bool
  registered : Bool

namespace Connection

variable {σ : Type}

def initial (protocol : σ) : Connection σ :=
  ⟨.READ, .NONE, Reader.initial, ⟨⟨0, 0, 0, List.replicate SOCKET_BUFFER_SIZE 0⟩, [], [], 0, false⟩, protocol, [], false,
    true⟩

def transitionOf : ProcessResult → Transition
  | .MORE_DATA_REQUIRED => .NEED_DATA
  | .COMPLETE => .PROCEED
  | .PROCESSING => .GET_RESULT
  | .TERMINATE => .FINISH
  | .NEED_SSL_HANDSHAKE => .NEED_SSL_HANDSHAKE

variable (handle : Handler σ)

/-- ConnectionHandle::Process with PostgresProtocolHandler::Process: a packet, once whole, goes to
the handler and request_ is reset. -/
def Process (c : Connection σ) : Except Failure (Transition × Connection σ) :=
  match ParseInputPacket c.reader.rbuf c.reader.request c.reader.init_stage with
  | .error e => .error (.thrown e)
  | .ok (false, rbuf, rpkt) => .ok (.NEED_DATA, { c with reader := { c.reader with rbuf, request := rpkt } })
  | .ok (true, rbuf, rpkt) =>
    let m : Message := ⟨rpkt.msg_type, rpkt.contents⟩
    match handle.Process c.protocol c.reader.init_stage m with
    | .error .undefined => .error .undefined
    | .error (.exception type) => .error (.raised type)
    | .ok reply =>
      .ok (transitionOf reply.status,
        { c with reader := { c.reader with rbuf, request := rpkt.Reset, init_stage := reply.init_stage,
                                           received := c.reader.received ++ [m] },
                 writer := { c.writer with responses := c.writer.responses ++ reply.responses,
                                           force_flush_ := c.writer.force_flush_ || reply.flush },
                 protocol := reply.handler,
                 result := if reply.status = .PROCESSING then reply.result else [] })

def liftWrite (c : Connection σ) : Except WriteFault (Transition × Writer) → Except Failure (Transition × Connection σ)
  | .ok (next, writer) => .ok (next, { c with writer })
  | .error .NetworkProcessException => .error (.thrown .NetworkProcessException)
  | .error .readOutOfRange => .error .undefined

/-- Unregisters both events; with SSL, SSL_shutdown may want more I/O, and then the socket is not
closed and NEED_DATA is returned. -/
def CloseSocket (c : Connection σ) (env : Env) : Transition × Connection σ :=
  let c := { c with registered := false }
  if c.ssl ∧ env.shutdownWantsIO then (.NEED_DATA, c) else (.NONE, { c with ssl := false })

def HasResponse (c : Connection σ) : Bool := c.writer.responses.length ≠ 0 || c.writer.wbuf.buf_size ≠ 0

def SSLHandshake (c : Connection σ) (env : Env) : Except Failure (Transition × Connection σ) :=
  -- SSL_new runs only while conn_SSL_context is null
  if !c.ssl && env.sslNewFails then .error (.thrown .NetworkProcessException)
  else
    let c := { c with ssl := true }
    match env.handshake with
    | .accepted => .ok (.PROCEED, c)
    | .wantRead | .wantWrite => .ok (.NEED_DATA, c)
    | .failed => .ok (.FINISH, c)

def ProcessWrite_SSLHandshake (c : Connection σ) (env : Env) : Except Failure (Transition × Connection σ) :=
  let written := if c.HasResponse then c.liftWrite (ProcessWrite c.writer env.writes) else .ok (.PROCEED, c)
  written.bind fun (write_ret, c) => if write_ret ≠ .PROCEED then .ok (write_ret, c) else c.SSLHandshake env

/-- The GetResult of the connection and of the handler: the worker's result is queued and the
network event added back. -/
def GetResult (c : Connection σ) : Transition × Connection σ :=
  (.PROCEED, { c with writer := { c.writer with responses := c.writer.responses ++ c.result }, result := [] })

def invoke (c : Connection σ) (env : Env) : Action → Except Failure (Transition × Connection σ)
  | .FillReadBuffer =>
    match FillReadBuffer c.reader.rbuf c.reader.socket env.reads with
    | .ok (next, rbuf, socket) => .ok (next, { c with reader := { c.reader with rbuf, socket } })
    | .error e => .error (.thrown e)
  | .Process => c.Process handle
  | .ProcessWrite => c.liftWrite (ProcessWrite c.writer env.writes)
  | .ProcessWrite_SSLHandshake => c.ProcessWrite_SSLHandshake env
  | .GetResult => .ok c.GetResult
  | .CloseSocket => .ok (c.CloseSocket env)
  | .Wait => .ok (.NONE, c)

end Connection

/-- What can happen to a connection: the peer sends bytes or closes its side, libevent calls
HandleEvent, which starts Accept with WAKEUP, or Accept's loop makes one pass. -/
inductive ConnEvent
  | send (bytes : List UInt8)
  | hangUp
  | wakeup
  | pass (env : Env)

namespace Connection

variable {σ : Type} (handle : Handler σ)

/-- One event. -/
def step (c : Connection σ) : ConnEvent → Except Failure (Connection σ)
  | .send bytes => .ok { c with reader := { c.reader with socket := { c.reader.socket with
      incoming := c.reader.socket.incoming ++ bytes } } }
  | .hangUp => .ok { c with reader := { c.reader with socket := { c.reader.socket with closed := true } } }
  | .wakeup => if c.registered ∧ c.next = .NONE then .ok { c with next := .WAKEUP } else .ok c
  | .pass env =>
    if c.next = .NONE then .ok c
    else
      match Delta_ c.state c.next with
      | .error e => .error (.thrown e)
      | .ok (state, action) =>
        let c := { c with state }
        match c.invoke handle env action with
        | .ok (next, c) => .ok { c with next }
        | .error (.thrown .NetworkProcessException) => .ok { (c.CloseSocket env).2 with next := .NONE }
        | .error e => .error e

def run (c : Connection σ) : List ConnEvent → Except Failure (Connection σ)
  | [] => .ok c
  | e :: rest => (c.step handle e).bind fun c => run c rest

end Connection

theorem exists_ok_of_check {ε α : Type} (P : α → Prop) [DecidablePred P] (r : Except ε α)
    (checked : (match r with | .ok a => decide (P a) | .error _ => false) = true) : ∃ a, r = .ok a ∧ P a := by
  cases r with
  | error e => cases checked
  | ok a => exact ⟨a, rfl, of_decide_eq_true checked⟩

/-! ## What each method can return -/

theorem FillReadBufferLoop_result (events : List ReadEvent) :
    ∀ (result : Transition) (rbuf : Buffer) (sock : Socket) (t : Transition) (rbuf' : Buffer) (sock' : Socket),
      result ∈ [.NEED_DATA, .PROCEED, .FINISH] →
      FillReadBufferLoop result rbuf sock events = .ok (t, rbuf', sock') → t ∈ [.NEED_DATA, .PROCEED, .FINISH] := by
  induction events with
  | nil =>
    intro result rbuf sock t rbuf' sock' start run
    cases run
    exact start
  | cons event events ih =>
    intro result rbuf sock t rbuf' sock' start run
    unfold FillReadBufferLoop at run
    split at run
    · cases run
      exact start
    · split at run
      · cases run
        simp
      · exact ih _ _ _ t rbuf' sock' (by simp) run
      · cases run
        exact start
      · exact ih _ _ _ t rbuf' sock' start run
      · cases run

theorem FillReadBuffer_result {rbuf rbuf' : Buffer} {sock sock' : Socket} {events : List ReadEvent}
    {t : Transition} (run : FillReadBuffer rbuf sock events = .ok (t, rbuf', sock')) :
    t ∈ [.NEED_DATA, .PROCEED, .FINISH] :=
  FillReadBufferLoop_result events _ _ _ t rbuf' sock' (by simp) run

theorem FillReadBuffer_error {rbuf : Buffer} {sock : Socket} {events : List ReadEvent} {e : Thrown}
    (run : FillReadBuffer rbuf sock events = .error e) : e = .NetworkProcessException :=
  (FillReadBufferLoop_error events _ _ _ e run).1

theorem map_eq_error {ε α β : Type} {f : α → β} {x : Except ε α} {e : ε} (mapped : x.map f = .error e) :
    x = .error e := by
  cases x <;> simp_all [Except.map]

theorem reserve_error {rpkt : RequestPacket} {e : Thrown}
    (reserved : (if rpkt.is_extended then rpkt.ReserveExtendedBuffer else .ok rpkt) = .error e) :
    e = .length_error := by
  unfold RequestPacket.ReserveExtendedBuffer at reserved
  split at reserved
  · split at reserved
    · cases reserved
      rfl
    · cases reserved
  · cases reserved

theorem ReadPacketHeader_error {rbuf : Buffer} {rpkt : RequestPacket} {startup : Bool} {e : Thrown}
    (read : ReadPacketHeader rbuf rpkt startup = .error e) : e = .length_error := by
  unfold ReadPacketHeader at read
  by_cases short : (!rbuf.IsReadDataAvailable (if startup then 4 else 4 + 1)) = true
  · rw [if_pos short] at read
    cases read
  · rw [if_neg short] at read
    exact reserve_error (map_eq_error read)

theorem ParseInputPacket_error {rbuf : Buffer} {rpkt : RequestPacket} {startup : Bool} {e : Thrown}
    (parsed : ParseInputPacket rbuf rpkt startup = .error e) : e = .length_error := by
  have read := map_eq_error parsed
  split at read
  · cases read
  · exact ReadPacketHeader_error read

namespace Connection

def returns : Action → List Transition
  | .FillReadBuffer => [.NEED_DATA, .PROCEED, .FINISH]
  | .Process => [.NEED_DATA, .PROCEED, .GET_RESULT, .FINISH, .NEED_SSL_HANDSHAKE]
  | .ProcessWrite => [.PROCEED, .NONE]
  | .ProcessWrite_SSLHandshake => [.PROCEED, .NONE, .NEED_DATA, .FINISH]
  | .GetResult => [.PROCEED]
  | .CloseSocket => [.NONE]
  | .Wait => [.NONE]

variable {σ : Type} {handle : Handler σ} {c c' : Connection σ} {env : Env} {t : Transition}

theorem liftWrite_ok {result : Except WriteFault (Transition × Writer)} (lifted : c.liftWrite result = .ok (t, c')) :
    ∃ writer, result = .ok (t, writer) ∧ c' = { c with writer } := by
  unfold liftWrite at lifted
  split at lifted
  · cases lifted
    exact ⟨_, rfl, rfl⟩
  · cases lifted
  · cases lifted

theorem liftWrite_error {result : Except WriteFault (Transition × Writer)} {f : Failure}
    (lifted : c.liftWrite result = .error f) : f = .thrown .NetworkProcessException ∨ f = .undefined := by
  unfold liftWrite at lifted
  split at lifted
  · cases lifted
  · cases lifted
    exact .inl rfl
  · cases lifted
    exact .inr rfl

theorem Process_step (processed : c.Process handle = .ok (t, c')) :
    c.reader.step handle.advance .parse = .ok c'.reader := by
  simp only [Process] at processed
  split at processed
  · cases processed
  · rename_i rbuf rpkt parsed
    cases processed
    simp [Reader.step, parsed, Except.map]
  · rename_i rbuf rpkt parsed
    split at processed
    · cases processed
    · cases processed
    · rename_i reply replied
      cases processed
      simp [Reader.step, parsed, Except.map, handle.init_stage_eq replied]

theorem Process_ok (processed : c.Process handle = .ok (t, c')) :
    (t = .NEED_DATA ∨ ∃ status, t = transitionOf status) ∧ c'.state = c.state := by
  simp only [Process] at processed
  split at processed
  · cases processed
  · cases processed
    exact ⟨.inl rfl, rfl⟩
  · split at processed
    · cases processed
    · cases processed
    · cases processed
      exact ⟨.inr ⟨_, rfl⟩, rfl⟩

theorem Process_error {f : Failure} (processed : c.Process handle = .error f) :
    f = .undefined ∨ (∃ type, f = .raised type) ∨
      ∃ e, c.reader.step handle.advance .parse = .error e ∧ f = .thrown e := by
  simp only [Process] at processed
  split at processed
  · rename_i e parsed
    cases processed
    exact .inr (.inr ⟨e, by simp [Reader.step, parsed, Except.map], rfl⟩)
  · cases processed
  · split at processed
    · cases processed
      exact .inl rfl
    · cases processed
      exact .inr (.inl ⟨_, rfl⟩)
    · cases processed

theorem SSLHandshake_ok (shaken : c.SSLHandshake env = .ok (t, c')) :
    t ∈ [.PROCEED, .NEED_DATA, .FINISH] ∧ c' = { c with ssl := true } := by
  unfold SSLHandshake at shaken
  split at shaken
  · cases shaken
  · split at shaken <;> cases shaken <;> simp

theorem SSLHandshake_error {f : Failure} (shaken : c.SSLHandshake env = .error f) :
    f = .thrown .NetworkProcessException := by
  unfold SSLHandshake at shaken
  split at shaken
  · cases shaken
    rfl
  · split at shaken <;> cases shaken

theorem ProcessWrite_SSLHandshake_ok (invoked : c.ProcessWrite_SSLHandshake env = .ok (t, c')) :
    ∃ writer ssl, c' = { c with writer, ssl } := by
  simp only [ProcessWrite_SSLHandshake] at invoked
  cases written : (if c.HasResponse then c.liftWrite (ProcessWrite c.writer env.writes) else .ok (.PROCEED, c)) with
  | error e => simp [written, Except.bind] at invoked
  | ok r =>
    obtain ⟨write_ret, c₁⟩ := r
    obtain ⟨writer, rfl⟩ : ∃ writer, c₁ = { c with writer } := by
      split at written
      · obtain ⟨writer, -, rfl⟩ := liftWrite_ok written
        exact ⟨writer, rfl⟩
      · cases written
        exact ⟨c.writer, rfl⟩
    simp only [written, Except.bind] at invoked
    split at invoked
    · cases invoked
      exact ⟨writer, c.ssl, rfl⟩
    · obtain ⟨-, rfl⟩ := SSLHandshake_ok invoked
      exact ⟨writer, true, rfl⟩

theorem ProcessWrite_SSLHandshake_error {f : Failure} (invoked : c.ProcessWrite_SSLHandshake env = .error f) :
    f = .thrown .NetworkProcessException ∨ f = .undefined := by
  simp only [ProcessWrite_SSLHandshake] at invoked
  cases written : (if c.HasResponse then c.liftWrite (ProcessWrite c.writer env.writes) else .ok (.PROCEED, c)) with
  | error e =>
    simp only [written, Except.bind] at invoked
    cases invoked
    split at written
    · exact liftWrite_error written
    · cases written
  | ok r =>
    simp only [written, Except.bind] at invoked
    split at invoked
    · cases invoked
    · exact .inl (SSLHandshake_error invoked)

theorem ProcessWrite_result {w w' : Writer} {events : List WriteEvent}
    (written : ProcessWrite w events = .ok (t, w')) : t ∈ [.PROCEED, .NONE] := by
  unfold ProcessWrite at written
  cases run : WritePackets w events with
  | error e => simp [run, Except.map] at written
  | ok result =>
    obtain ⟨state, w₁, events₁⟩ := result
    simp only [run, Except.map, Except.ok.injEq] at written
    cases state <;> simp only [Prod.mk.injEq] at written <;> simp [← written.1]

theorem invoke_returns (calm : env.shutdownWantsIO = false) {action : Action}
    (invoked : c.invoke handle env action = .ok (t, c')) : t ∈ returns action := by
  cases action with
  | FillReadBuffer =>
    simp only [invoke] at invoked
    split at invoked
    · cases invoked
      exact FillReadBuffer_result (by assumption)
    · cases invoked
  | Process =>
    obtain ⟨need | ⟨status, rfl⟩, -⟩ := Process_ok invoked
    · simp [returns, need]
    · cases status <;> simp [returns, transitionOf]
  | ProcessWrite =>
    obtain ⟨writer, written, -⟩ := liftWrite_ok invoked
    exact ProcessWrite_result written
  | ProcessWrite_SSLHandshake =>
    simp only [invoke, ProcessWrite_SSLHandshake] at invoked
    -- the responses are flushed first, then the handshake runs
    cases written : (if c.HasResponse then c.liftWrite (ProcessWrite c.writer env.writes) else .ok (.PROCEED, c)) with
    | error e => simp [written, Except.bind] at invoked
    | ok r =>
      obtain ⟨write_ret, c₁⟩ := r
      have ret : write_ret ∈ [.PROCEED, .NONE] := by
        split at written
        · obtain ⟨w, pw, -⟩ := liftWrite_ok written
          exact ProcessWrite_result pw
        · cases written
          simp
      simp only [written, Except.bind] at invoked
      split at invoked
      · cases invoked
        simp only [List.mem_cons, List.not_mem_nil, or_false] at ret
        simp only [returns, List.mem_cons, List.not_mem_nil, or_false]
        rcases ret with proceed | none
        · exact .inl proceed
        · exact .inr (.inl none)
      · obtain ⟨shaken, -⟩ := SSLHandshake_ok invoked
        simp only [returns, List.mem_cons, List.not_mem_nil, or_false] at shaken ⊢
        rcases shaken with proceed | need | finish
        · exact .inl proceed
        · exact .inr (.inr (.inl need))
        · exact .inr (.inr (.inr finish))
  | GetResult =>
    cases invoked
    simp [returns]
  | CloseSocket =>
    simp only [invoke, CloseSocket, calm, Bool.false_eq_true, and_false, if_false, Except.ok.injEq] at invoked
    simp [returns, ← (Prod.mk.inj invoked).1]
  | Wait =>
    cases invoked
    simp [returns]

theorem invoke_state {action : Action} (invoked : c.invoke handle env action = .ok (t, c')) :
    c'.state = c.state := by
  cases action with
  | FillReadBuffer =>
    simp only [invoke] at invoked
    split at invoked <;> cases invoked
    rfl
  | Process => exact (Process_ok invoked).2
  | ProcessWrite =>
    obtain ⟨_, _, rfl⟩ := liftWrite_ok invoked
    rfl
  | ProcessWrite_SSLHandshake =>
    obtain ⟨_, _, rfl⟩ := ProcessWrite_SSLHandshake_ok invoked
    rfl
  | GetResult =>
    cases invoked
    rfl
  | CloseSocket =>
    simp only [invoke, CloseSocket] at invoked
    split at invoked <;> cases invoked <;> rfl
  | Wait =>
    cases invoked
    rfl

theorem invoke_reader {action : Action} (invoked : c.invoke handle env action = .ok (t, c')) :
    c'.reader = c.reader ∨ ∃ s, Reader.sent [s] = [] ∧ c.reader.step (handle.advance) s = .ok c'.reader := by
  cases action with
  | FillReadBuffer =>
    simp only [invoke] at invoked
    split at invoked
    · rename_i next rbuf socket filled
      cases invoked
      exact .inr ⟨.fill env.reads, rfl, by simp [Reader.step, filled, Except.map]⟩
    · cases invoked
  | Process => exact .inr ⟨.parse, rfl, Process_step invoked⟩
  | ProcessWrite =>
    obtain ⟨_, _, rfl⟩ := liftWrite_ok invoked
    exact .inl rfl
  | ProcessWrite_SSLHandshake =>
    obtain ⟨_, _, rfl⟩ := ProcessWrite_SSLHandshake_ok invoked
    exact .inl rfl
  | GetResult =>
    cases invoked
    exact .inl rfl
  | CloseSocket =>
    simp only [invoke, CloseSocket] at invoked
    split at invoked <;> cases invoked <;> exact .inl rfl
  | Wait =>
    cases invoked
    exact .inl rfl

theorem invoke_error {action : Action} {f : Failure} (invoked : c.invoke handle env action = .error f) :
    f = .thrown .NetworkProcessException ∨ f = .undefined ∨ (∃ type, f = .raised type) ∨
      ∃ e, c.reader.step (handle.advance) .parse = .error e ∧ f = .thrown e := by
  cases action with
  | FillReadBuffer =>
    simp only [invoke] at invoked
    split at invoked
    · cases invoked
    · rename_i e filled
      cases invoked
      rw [FillReadBuffer_error filled]
      exact .inl rfl
  | Process => exact .inr (Process_error invoked)
  | ProcessWrite => exact (liftWrite_error invoked).imp_right .inl
  | ProcessWrite_SSLHandshake => exact (ProcessWrite_SSLHandshake_error invoked).imp_right .inl
  | GetResult | CloseSocket | Wait => cases invoked

theorem invoke_CloseSocket (invoked : c.invoke handle env .CloseSocket = .ok (t, c')) : c'.registered = false := by
  simp only [invoke, CloseSocket] at invoked
  split at invoked <;> cases invoked <;> rfl

end Connection

/-! ## The table is closed under what the methods return -/

def ConnState.Waits : ConnState → Bool
  | .READ | .WRITE | .GET_RESULT | .PROCESS_WRITE_SSL_HANDSHAKE => true
  | .PROCESS | .CLOSING => false

def closedUnder (s : ConnState) (a : Action) : Bool :=
  (Connection.returns a).all fun r => if r = .NONE then a == .CloseSocket || s.Waits else (Delta_ s r).isOk

def tableClosed (s : ConnState) (t : Transition) : Bool :=
  match Delta_ s t with
  | .ok (s', a) => closedUnder s' a
  | .error _ => true

theorem Delta_closed (s : ConnState) (t : Transition) : tableClosed s t = true := by
  cases s <;> cases t <;> rfl

theorem Delta_NONE (s : ConnState) : Delta_ s .NONE = .error .runtime_error := by
  cases s <;> rfl

theorem Delta_WAKEUP {s : ConnState} (waits : s.Waits = true) : (Delta_ s .WAKEUP).isOk = true := by
  cases s <;> first | rfl | cases waits

namespace Connection

variable {σ : Type} {handle : Handler σ} {c c' : Connection σ} {env : Env} {t : Transition}

/-- Between two events: when the loop is not running, a connection still registered waits in a
state that defines WAKEUP; when it is, Delta_ is defined on the transition it is to feed. -/
structure Sane (c : Connection σ) : Prop where
  waits : c.next = .NONE → c.registered = true → c.state.Waits = true
  defined : c.next ≠ .NONE → (Delta_ c.state c.next).isOk = true

theorem sane_initial (protocol : σ) : (initial protocol).Sane :=
  ⟨fun _ _ => rfl, fun running => absurd rfl running⟩

theorem CloseSocket_registered : (c.CloseSocket env).2.registered = false := by
  simp only [CloseSocket]
  split <;> rfl

theorem Sane.step (h : c.Sane) {e : ConnEvent} (calm : ∀ env, e = .pass env → env.shutdownWantsIO = false)
    (stepped : c.step handle e = .ok c') : c'.Sane := by
  cases e with
  | send bytes =>
    cases stepped
    exact ⟨h.waits, h.defined⟩
  | hangUp =>
    cases stepped
    exact ⟨h.waits, h.defined⟩
  | wakeup =>
    simp only [Connection.step] at stepped
    split at stepped
    · rename_i idle
      cases stepped
      exact ⟨fun woken => absurd woken Transition.noConfusion, fun _ => Delta_WAKEUP (h.waits idle.2 idle.1)⟩
    · cases stepped
      exact h
  | pass env =>
    simp only [Connection.step] at stepped
    split at stepped
    · cases stepped
      exact h
    · split at stepped
      · cases stepped
      · rename_i state action delta
        have closed := Delta_closed c.state c.next
        simp only [tableClosed, delta] at closed
        split at stepped
        · -- the method returned: the table says where it may lead
          rename_i next c₁ invoked
          cases stepped
          have same : c₁.state = state := invoke_state invoked
          have returned := List.all_eq_true.mp closed next (invoke_returns (calm env rfl) invoked)
          refine ⟨fun none registered => ?_, fun running => ?_⟩
          · dsimp only at none registered ⊢
            simp only [none, if_true, Bool.or_eq_true, beq_iff_eq] at returned
            rw [same]
            rcases returned with close | waits
            · rw [close] at invoked
              rw [invoke_CloseSocket invoked] at registered
              cases registered
            · exact waits
          · dsimp only at running ⊢
            simp only [running, if_false] at returned
            rw [same]
            exact returned
        · -- the NetworkProcessException is caught, and the socket closed
          cases stepped
          refine ⟨fun _ registered => ?_, fun running => absurd rfl running⟩
          rw [CloseSocket_registered] at registered
          cases registered
        · cases stepped

theorem step_parse_error {advance : Bool → Message → Bool} {r : Reader} {e : Thrown}
    (stepped : r.step advance .parse = .error e) : e = .length_error :=
  ParseInputPacket_error (map_eq_error stepped)

theorem step_error_cases {e : ConnEvent} {f : Failure} (stepped : c.step handle e = .error f) :
    (c.next ≠ .NONE ∧ (Delta_ c.state c.next).isOk = false) ∨ f = .undefined ∨ (∃ type, f = .raised type) ∨
      ∃ e', c.reader.step (handle.advance) .parse = .error e' ∧ f = .thrown e' := by
  cases e with
  | send bytes => cases stepped
  | hangUp => cases stepped
  | wakeup =>
    simp only [Connection.step] at stepped
    split at stepped <;> cases stepped
  | pass env =>
    simp only [Connection.step] at stepped
    split at stepped
    · cases stepped
    · rename_i running
      split at stepped
      · rename_i e' delta
        exact .inl ⟨running, by rw [delta]; rfl⟩
      · split at stepped
        · cases stepped
        · cases stepped
        · rename_i f' uncaught invoked
          cases stepped
          rcases invoke_error invoked with caught | failed
          · exact absurd caught uncaught
          · exact .inr failed

theorem Sane.step_error (h : c.Sane) {e : ConnEvent} {f : Failure} (stepped : c.step handle e = .error f) :
    f ≠ .thrown .runtime_error := by
  rcases step_error_cases stepped with ⟨running, undefined⟩ | rfl | ⟨type, rfl⟩ | ⟨e', parsed, rfl⟩
  · rw [h.defined running] at undefined
    cases undefined
  · decide
  · intro same
    cases same
  · rw [step_parse_error parsed]
    decide

theorem Sane.run (steps : List ConnEvent) : ∀ {c : Connection σ}, c.Sane →
    (∀ env, .pass env ∈ steps → env.shutdownWantsIO = false) →
    c.run handle steps ≠ .error (.thrown .runtime_error) := by
  induction steps with
  | nil =>
    intro c _ _ ran
    cases ran
  | cons e rest ih =>
    intro c h calm ran
    cases stepped : c.step handle e with
    | error f =>
      simp only [Connection.run, stepped, Except.bind, Except.error.injEq] at ran
      exact h.step_error stepped ran
    | ok c₁ =>
      simp only [Connection.run, stepped, Except.bind] at ran
      exact ih (h.step (fun env first => calm env (first ▸ List.mem_cons_self)) stepped)
        (fun env later => calm env (List.mem_cons_of_mem _ later)) ran

/-! ## The read side within the connection -/

def sent : List ConnEvent → List UInt8
  | [] => []
  | .send bytes :: rest => bytes ++ sent rest
  | _ :: rest => sent rest

theorem sent_cons (e : ConnEvent) (rest : List ConnEvent) : sent (e :: rest) = sent [e] ++ sent rest := by
  cases e <;> simp [sent]

theorem CloseSocket_reader : (c.CloseSocket env).2.reader = c.reader := by
  simp only [CloseSocket]
  split <;> rfl

theorem CloseSocket_protocol : (c.CloseSocket env).2.protocol = c.protocol := by
  simp only [CloseSocket]
  split <;> rfl

/-! ## What the handler is handed -/

theorem invoke_handled {action : Action} (invoked : c.invoke handle env action = .ok (t, c')) :
    (c'.reader.received = c.reader.received ∧ c'.reader.init_stage = c.reader.init_stage ∧
        c'.protocol = c.protocol) ∨
      ∃ m r, handle.Process c.protocol c.reader.init_stage m = .ok r ∧
        c'.reader.received = c.reader.received ++ [m] ∧ c'.reader.init_stage = r.init_stage ∧
        c'.protocol = r.handler := by
  cases action with
  | FillReadBuffer =>
    simp only [invoke] at invoked
    split at invoked
    · cases invoked
      exact .inl ⟨rfl, rfl, rfl⟩
    · cases invoked
  | Process =>
    simp only [invoke, Process] at invoked
    split at invoked
    · cases invoked
    · cases invoked
      exact .inl ⟨rfl, rfl, rfl⟩
    · split at invoked
      · cases invoked
      · cases invoked
      · rename_i reply replied
        cases invoked
        exact .inr ⟨_, reply, replied, rfl, rfl, rfl⟩
  | ProcessWrite =>
    obtain ⟨_, _, rfl⟩ := liftWrite_ok invoked
    exact .inl ⟨rfl, rfl, rfl⟩
  | ProcessWrite_SSLHandshake =>
    obtain ⟨_, _, rfl⟩ := ProcessWrite_SSLHandshake_ok invoked
    exact .inl ⟨rfl, rfl, rfl⟩
  | GetResult =>
    cases invoked
    exact .inl ⟨rfl, rfl, rfl⟩
  | CloseSocket =>
    simp only [invoke, CloseSocket] at invoked
    split at invoked <;> cases invoked <;> exact .inl ⟨rfl, rfl, rfl⟩
  | Wait =>
    cases invoked
    exact .inl ⟨rfl, rfl, rfl⟩

theorem step_handled {e : ConnEvent} (stepped : c.step handle e = .ok c') :
    (c'.reader.received = c.reader.received ∧ c'.reader.init_stage = c.reader.init_stage ∧
        c'.protocol = c.protocol) ∨
      ∃ m r, handle.Process c.protocol c.reader.init_stage m = .ok r ∧
        c'.reader.received = c.reader.received ++ [m] ∧ c'.reader.init_stage = r.init_stage ∧
        c'.protocol = r.handler := by
  cases e with
  | send bytes =>
    cases stepped
    exact .inl ⟨rfl, rfl, rfl⟩
  | hangUp =>
    cases stepped
    exact .inl ⟨rfl, rfl, rfl⟩
  | wakeup =>
    simp only [Connection.step] at stepped
    split at stepped <;> cases stepped <;> exact .inl ⟨rfl, rfl, rfl⟩
  | pass env =>
    simp only [Connection.step] at stepped
    split at stepped
    · cases stepped
      exact .inl ⟨rfl, rfl, rfl⟩
    · split at stepped
      · cases stepped
      · split at stepped
        · rename_i state action delta next c₁ invoked
          cases stepped
          have handled := invoke_handled invoked
          exact handled
        · -- the NetworkProcessException is caught, and the socket closed
          cases stepped
          exact .inl ⟨congrArg Reader.received CloseSocket_reader, congrArg Reader.init_stage CloseSocket_reader,
            CloseSocket_protocol⟩
        · cases stepped

section Tracks

open Framing

variable {msgs : List Message} {sentSoFar : List UInt8}

theorem step_tracks (h : Reader.Inv handle.advance msgs sentSoFar c.reader)
    (wf : (frontendCodec handle.advance).AllWellFormed true msgs) {e : ConnEvent}
    (sent_isPrefix : sentSoFar ++ sent [e] <+: (frontendCodec handle.advance).encodeAll true msgs)
    (stepped : c.step handle e = .ok c') : Reader.Inv handle.advance msgs (sentSoFar ++ sent [e]) c'.reader := by
  cases e with
  | send bytes =>
    cases stepped
    exact h.step wf (show sentSoFar ++ Reader.sent [.send bytes] <+: _ from sent_isPrefix) rfl
  | hangUp =>
    cases stepped
    exact h.step wf (show sentSoFar ++ Reader.sent [.close] <+: _ from sent_isPrefix) rfl
  | wakeup =>
    simp only [sent, List.append_nil]
    simp only [Connection.step] at stepped
    split at stepped <;> cases stepped <;> exact h
  | pass env =>
    simp only [sent, List.append_nil] at sent_isPrefix ⊢
    simp only [Connection.step] at stepped
    split at stepped
    · cases stepped
      exact h
    · split at stepped
      · cases stepped
      · split at stepped
        · rename_i state action delta next c₁ invoked
          cases stepped
          rcases invoke_reader invoked with same | ⟨s, quiet, read⟩
          · exact same ▸ h
          · have h₁ := h.step wf (by rw [quiet, List.append_nil]; exact sent_isPrefix) read
            rwa [quiet, List.append_nil] at h₁
        · cases stepped
          dsimp only
          rw [CloseSocket_reader]
          exact h
        · cases stepped

theorem run_tracks (wf : (frontendCodec handle.advance).AllWellFormed true msgs) (steps : List ConnEvent) :
    ∀ {sentSoFar : List UInt8} {c c' : Connection σ}, Reader.Inv handle.advance msgs sentSoFar c.reader →
      sentSoFar ++ sent steps <+: (frontendCodec handle.advance).encodeAll true msgs →
      c.run handle steps = .ok c' → Reader.Inv handle.advance msgs (sentSoFar ++ sent steps) c'.reader := by
  induction steps with
  | nil =>
    intro sentSoFar c c' h _ ran
    cases ran
    simpa [sent] using h
  | cons e rest ih =>
    intro sentSoFar c c' h sent_isPrefix ran
    rw [sent_cons, ← List.append_assoc] at sent_isPrefix ⊢
    cases stepped : c.step handle e with
    | error f => simp [Connection.run, stepped, Except.bind] at ran
    | ok c₁ =>
      simp only [Connection.run, stepped, Except.bind] at ran
      exact ih (step_tracks h wf ((List.prefix_append _ _).trans sent_isPrefix) stepped) sent_isPrefix ran

theorem Sane.step_error_tracks (sane : c.Sane) (h : Reader.Inv handle.advance msgs sentSoFar c.reader)
    (wf : (frontendCodec handle.advance).AllWellFormed true msgs)
    (sent_isPrefix : sentSoFar <+: (frontendCodec handle.advance).encodeAll true msgs)
    {e : ConnEvent} {f : Failure} (stepped : c.step handle e = .error f) :
    f = .undefined ∨ ∃ type, f = .raised type := by
  rcases step_error_cases stepped with ⟨running, undefined⟩ | undefined | raised | ⟨e', parsed, rfl⟩
  · rw [sane.defined running] at undefined
    cases undefined
  · exact .inl undefined
  · exact .inr raised
  · obtain ⟨-, events, never, -⟩ := h.step_error wf sent_isPrefix parsed
    cases never

theorem Sane.run_error_tracks (wf : (frontendCodec handle.advance).AllWellFormed true msgs)
    (steps : List ConnEvent) :
    ∀ {sentSoFar : List UInt8} {c : Connection σ} {f : Failure}, c.Sane →
      Reader.Inv handle.advance msgs sentSoFar c.reader →
      sentSoFar ++ sent steps <+: (frontendCodec handle.advance).encodeAll true msgs →
      (∀ env, .pass env ∈ steps → env.shutdownWantsIO = false) →
      c.run handle steps = .error f → f = .undefined ∨ ∃ type, f = .raised type := by
  induction steps with
  | nil =>
    intro sentSoFar c f _ _ _ _ ran
    cases ran
  | cons e rest ih =>
    intro sentSoFar c f sane h sent_isPrefix calm ran
    rw [sent_cons, ← List.append_assoc] at sent_isPrefix
    have sent_first := (List.prefix_append _ _).trans sent_isPrefix
    cases stepped : c.step handle e with
    | error f' =>
      simp only [Connection.run, stepped, Except.bind, Except.error.injEq] at ran
      subst ran
      exact sane.step_error_tracks h wf ((List.prefix_append _ _).trans sent_first) stepped
    | ok c₁ =>
      simp only [Connection.run, stepped, Except.bind] at ran
      exact ih (sane.step (fun env first => calm env (first ▸ List.mem_cons_self)) stepped)
        (step_tracks h wf sent_first stepped) sent_isPrefix
        (fun env later => calm env (List.mem_cons_of_mem _ later)) ran

end Tracks

end Connection

/-- Whatever the peer sends, whatever the protocol handler answers and whatever the socket calls
do, a connection's state machine never meets a transition its table leaves undefined, unless an
SSL_shutdown wants more I/O. -/
theorem accept_never_meets_undefined_transition {σ : Type} (handle : Handler σ) (protocol : σ)
    (steps : List ConnEvent) (calm : ∀ env, .pass env ∈ steps → env.shutdownWantsIO = false) :
    (Connection.initial protocol).run handle steps ≠ .error (.thrown .runtime_error) :=
  (Connection.sane_initial protocol).run steps calm

def sslHandler : Handler Unit where
  Process _ stage _ :=
    .ok (if stage then ⟨.NEED_SSL_HANDSHAKE, [], false, true, [], ()⟩ else ⟨.COMPLETE, [], false, false, [], ()⟩)
  advance stage _ := stage
  init_stage_eq := by
    intro s stage m r processed
    cases stage <;> (simp at processed; simp [← processed])

def sslRequestThenHangUp : List ConnEvent :=
  [.send [0, 0, 0, 8, 4, 210, 22, 47], .wakeup, .pass ⟨[.ready 100], [], false, .accepted, false⟩,
   .pass ⟨[], [], false, .accepted, false⟩, .pass ⟨[], [], false, .accepted, false⟩, .pass ⟨[], [], false, .accepted, false⟩,
   .hangUp, .pass ⟨[.ready 0], [], false, .accepted, false⟩]

theorem accept_never_meets_undefined_transition_of_ssl_request :
    (Connection.initial ()).run sslHandler sslRequestThenHangUp ≠ .error (.thrown .runtime_error) :=
  accept_never_meets_undefined_transition sslHandler () sslRequestThenHangUp (by simp [sslRequestThenHangUp])

/-- With SSL, a socket whose SSL_shutdown wants more I/O makes CloseSocket return NEED_DATA in
CLOSING, where Delta_ defines nothing: Accept throws "undefined transition" and nothing catches
it. -/
theorem ssl_shutdown_wanting_io_escapes_accept {σ : Type} (handle : Handler σ) {c : Connection σ} (ssl : c.ssl = true)
    (closing : Delta_ c.state c.next = .ok (.CLOSING, .CloseSocket)) (env : Env)
    (wants : env.shutdownWantsIO = true) (env' : Env) :
    c.run handle [.pass env, .pass env'] = .error (.thrown .runtime_error) := by
  have running : c.next ≠ .NONE := by
    intro none
    rw [none, Delta_NONE] at closing
    cases closing
  have first : c.step handle (.pass env) = .ok { c with state := .CLOSING, next := .NEED_DATA, registered := false } := by
    simp only [Connection.step, running, if_false, closing]
    simp [Connection.invoke, Connection.CloseSocket, ssl, wants]
  simp only [Connection.run, first, Except.bind]
  rfl

theorem ssl_shutdown_wanting_io_escapes_accept_after_hang_up :
    ∃ c, (Connection.initial ()).run sslHandler sslRequestThenHangUp = .ok c ∧
      c.run sslHandler [.pass ⟨[], [], false, .accepted, true⟩, .pass ⟨[], [], false, .accepted, false⟩] =
        .error (.thrown .runtime_error) := by
  obtain ⟨c, ran, ssl, state, next⟩ := exists_ok_of_check
    (fun c : Connection Unit => c.ssl = true ∧ c.state = .READ ∧ c.next = .FINISH)
    ((Connection.initial ()).run sslHandler sslRequestThenHangUp) (by decide)
  exact ⟨c, ran, ssl_shutdown_wanting_io_escapes_accept sslHandler ssl (by rw [state, next]; rfl)
    ⟨[], [], false, .accepted, true⟩ rfl _⟩

/-- A header whose length field counts less than its own four bytes, met by Process on a fresh packet,
makes ReadPacketHeader reserve a wrapped size_t: the std::length_error leaves Accept. -/
theorem malformed_header_escapes_accept {σ : Type} (handle : Handler σ) {c : Connection σ}
    (process : Delta_ c.state c.next = .ok (.PROCESS, .Process)) (hb : c.reader.rbuf.Valid)
    (fresh : c.reader.request.header_parsed = false)
    (long : typeBytes c.reader.init_stage + 4 ≤ c.reader.rbuf.unread.length)
    (malformed : lengthField c.reader.init_stage c.reader.rbuf < 4) (env : Env) :
    c.step handle (.pass env) = .error (.thrown .length_error) := by
  have running : c.next ≠ .NONE := by
    intro none
    rw [none, Delta_NONE] at process
    cases process
  have parsed : ParseInputPacket c.reader.rbuf c.reader.request c.reader.init_stage = .error .length_error := by
    simp [ParseInputPacket, fresh, ReadPacketHeader_malformed hb long malformed, Except.map]
  simp only [Connection.step, running, if_false, process]
  simp [Connection.invoke, Connection.Process, parsed]

def startupLengthThree : List ConnEvent :=
  [.send [0, 0, 0, 3], .wakeup, .pass ⟨[.ready 3], [], false, .accepted, false⟩]

theorem malformed_header_escapes_accept_of_startup_length_three :
    ∃ c, (Connection.initial ()).run sslHandler startupLengthThree = .ok c ∧
      c.step sslHandler (.pass ⟨[], [], false, .accepted, false⟩) = .error (.thrown .length_error) := by
  obtain ⟨c, ran, state, next, length_eq, ptr_le, size_le, fresh, long, malformed⟩ := exists_ok_of_check
    (fun c : Connection Unit => c.state = .READ ∧ c.next = .PROCEED ∧ c.reader.rbuf.buf.length = SOCKET_BUFFER_SIZE ∧
      c.reader.rbuf.buf_ptr ≤ c.reader.rbuf.buf_size ∧ c.reader.rbuf.buf_size ≤ SOCKET_BUFFER_SIZE ∧
      c.reader.request.header_parsed = false ∧ typeBytes c.reader.init_stage + 4 ≤ c.reader.rbuf.unread.length ∧
      lengthField c.reader.init_stage c.reader.rbuf < 4)
    ((Connection.initial ()).run sslHandler startupLengthThree) (by decide +kernel)
  exact ⟨c, ran, malformed_header_escapes_accept sslHandler (by rw [state, next]; rfl)
    ⟨length_eq, ptr_le, size_le⟩ fresh long malformed _⟩

section Stream

open Framing

variable {σ : Type} {msgs : List Message}

/-- Whatever the order of the peer's sends and of libevent's calls, whatever the handler answers
and however read(2) and write(2) turn out, a connection whose peer sends a prefix of the encodings
of well-formed messages hands its handler a prefix of those messages, each read in the format the
handler left; and the bytes handed over, the bytes held and the bytes still in the socket are the
bytes sent. -/
theorem accept_hands_handler_peer_messages (handle : Handler σ) (protocol : σ)
    (wf : (frontendCodec handle.advance).AllWellFormed true msgs) (steps : List ConnEvent)
    (sent_isPrefix : Connection.sent steps <+: (frontendCodec handle.advance).encodeAll true msgs)
    {c : Connection σ} (ran : (Connection.initial protocol).run handle steps = .ok c) :
    c.reader.received <+: msgs ∧ c.reader.init_stage = c.reader.received.foldl (handle.advance) true ∧
      (frontendCodec handle.advance).encodeAll true c.reader.received ++
        pending c.reader.init_stage c.reader.rbuf c.reader.request ++ c.reader.socket.incoming =
          Connection.sent steps := by
  have h := Connection.run_tracks wf steps Reader.inv_initial (by simpa using sent_isPrefix) ran
  rw [List.nil_append] at h
  exact ⟨h.tracks.delivered_isPrefix, h.tracks.format_eq, h.bytes_eq⟩

def quietHandler : Handler Unit where
  Process _ _ _ := .ok ⟨.COMPLETE, [], false, false, [], ()⟩
  advance _ _ := false
  init_stage_eq := by
    intro s stage m r processed
    cases processed
    rfl

def startupThenQueryRun : List ConnEvent :=
  [.send ((frontendCodec fun _ _ => false).encodeAll true startupThenQuery), .wakeup,
   .pass ⟨[.ready 100], [], false, .accepted, false⟩, .pass ⟨[], [], false, .accepted, false⟩,
   .pass ⟨[], [], false, .accepted, false⟩, .pass ⟨[], [], false, .accepted, false⟩]

theorem accept_hands_handler_peer_messages_of_startup_then_query :
    ∃ c, (Connection.initial ()).run quietHandler startupThenQueryRun = .ok c ∧
      c.reader.received <+: startupThenQuery ∧
      c.reader.init_stage = c.reader.received.foldl quietHandler.advance true ∧
      (frontendCodec quietHandler.advance).encodeAll true c.reader.received ++
        pending c.reader.init_stage c.reader.rbuf c.reader.request ++ c.reader.socket.incoming =
          Connection.sent startupThenQueryRun := by
  obtain ⟨c, ran, -⟩ := exists_ok_of_check (fun _ : Connection Unit => True)
    ((Connection.initial ()).run quietHandler startupThenQueryRun) (by decide)
  exact ⟨c, ran, accept_hands_handler_peer_messages quietHandler () startupThenQuery_wellFormed startupThenQueryRun
    (by decide) ran⟩

/-- On such a stream, and while every SSL_shutdown finishes, no exception of the connection's own
leaves Accept: a parse never meets a short length field, and Delta_ is defined on every transition
fed to it. A run fails only by a read outside a buffer or a packet, or by an exception the protocol
handler throws, which Accept does not catch. -/
theorem accept_raises_only_handler_exceptions (handle : Handler σ) (protocol : σ)
    (wf : (frontendCodec handle.advance).AllWellFormed true msgs) (steps : List ConnEvent)
    (sent_isPrefix : Connection.sent steps <+: (frontendCodec handle.advance).encodeAll true msgs)
    (calm : ∀ env, .pass env ∈ steps → env.shutdownWantsIO = false) {f : Failure}
    (ran : (Connection.initial protocol).run handle steps = .error f) :
    f = .undefined ∨ ∃ type, f = .raised type :=
  (Connection.sane_initial protocol).run_error_tracks wf steps Reader.inv_initial (by simpa using sent_isPrefix)
    calm ran

open PostgresProtocolHandler NetworkMessageType in
def bindConversionPath : QueryPath Unit := fun h pkt =>
  if pkt.msg_type = BIND_COMMAND then .error .CONVERSION else .ok ⟨.COMPLETE, [], [], h.txn_state_, ()⟩

open PostgresProtocolHandler NetworkMessageType in
def startupThenBind : List Message := [⟨NULL_COMMAND, startupBody 196608 []⟩, ⟨BIND_COMMAND, []⟩]

def startupThenBindRun : List ConnEvent :=
  [.send ((frontendCodec PostgresProtocolHandler.stageAfter).encodeAll true startupThenBind), .wakeup,
   .pass ⟨[.ready 100], [], false, .accepted, false⟩, .pass ⟨[], [], false, .accepted, false⟩,
   .pass ⟨[], [.accepted 1000], false, .accepted, false⟩, .pass ⟨[], [], false, .accepted, false⟩]

open PostgresProtocolHandler in
theorem startupThenBind_wellFormed :
    (frontendCodec (handler .SSL_PREFER [] bindConversionPath).advance).AllWellFormed true
      startupThenBind := by
  simp only [startupThenBind, Codec.AllWellFormed]
  exact ⟨⟨by decide, fun _ => rfl⟩, ⟨by decide, fun startup => absurd startup (by decide)⟩, trivial⟩

open PostgresProtocolHandler in
theorem accept_raises_only_handler_exceptions_of_bind_conversion :
    (Connection.initial (new ())).run (handler .SSL_PREFER [] bindConversionPath)
        startupThenBindRun = .error (.raised .CONVERSION) ∧
      ((.raised .CONVERSION : Failure) = .undefined ∨ ∃ type, (.raised .CONVERSION : Failure) = .raised type) := by
  have ran : (Connection.initial (new ())).run (handler .SSL_PREFER [] bindConversionPath)
      startupThenBindRun = .error (.raised .CONVERSION) := map_eq_error (f := fun _ => ()) (by decide +kernel)
  exact ⟨ran, accept_raises_only_handler_exceptions _ _ startupThenBind_wellFormed startupThenBindRun
    (by decide +kernel) (by simp [startupThenBindRun]) ran⟩

end Stream

end Peloton.Network
