import Peloton.Network.ConnectionHandle

set_option autoImplicit false

/-!
# A session: the connection and its protocol handler

A connection hands its protocol handler the peer's packets one at a time and keeps the handler's
state between them. Whatever the interleaving, that state is what the handler reaches on its own
from the packets handed over, taken in order, each in the format the ones before it leave; on a
well-formed stream those packets are the first of the peer's messages. With
PostgresProtocolHandler, the options a client's startup packet carries, after any SSLRequests the
handler answered, stay the handler's for the rest of the session, and a startup packet too short to
hold a version is never got past.
-/

namespace Peloton.Network

namespace Handler

variable {σ : Type} (handle : Handler σ)

def replay : σ → Bool → List Message → Option σ
  | s, _, [] => some s
  | s, init_stage, m :: ms =>
    (handle.Process s init_stage m).toOption.bind fun r => replay r.handler (handle.advance init_stage m) ms

theorem replay_append (s : σ) (init_stage : Bool) (ms : List Message) (m : Message) :
    handle.replay s init_stage (ms ++ [m]) = (handle.replay s init_stage ms).bind fun s' =>
      (handle.Process s' (ms.foldl handle.advance init_stage) m).toOption.map Reply.handler := by
  induction ms generalizing s init_stage with
  | nil =>
    simp only [List.nil_append, replay, List.foldl_nil, Option.bind_some]
    cases handle.Process s init_stage m <;> rfl
  | cons first rest ih =>
    simp only [List.cons_append, replay, List.foldl_cons, ih, Option.bind_assoc]

end Handler

namespace Connection

variable {σ : Type} {handle : Handler σ} {protocol : σ} {c c' : Connection σ}

/-- The handler's state is what the handler reaches from protocol on the packets handed over, and the
connection reads in the format they leave. -/
structure Replays (handle : Handler σ) (protocol : σ) (c : Connection σ) : Prop where
  protocol_eq : handle.replay protocol true c.reader.received = some c.protocol
  init_stage_eq : c.reader.init_stage = c.reader.received.foldl handle.advance true

theorem replays_initial : (initial protocol).Replays handle protocol := ⟨rfl, rfl⟩

theorem Replays.step (h : c.Replays handle protocol) {e : ConnEvent} (stepped : c.step handle e = .ok c') :
    c'.Replays handle protocol := by
  rcases step_handled stepped with ⟨received, stage, same⟩ | ⟨m, r, replied, received, stage, handler⟩
  · exact ⟨by rw [received, same]; exact h.protocol_eq, by rw [stage, received]; exact h.init_stage_eq⟩
  · refine ⟨?_, ?_⟩
    · rw [received, Handler.replay_append, h.protocol_eq, Option.bind_some, ← h.init_stage_eq, replied, handler]
      rfl
    · rw [stage, received, List.foldl_append, ← h.init_stage_eq, handle.init_stage_eq replied, List.foldl_cons,
        List.foldl_nil]

theorem Replays.run (steps : List ConnEvent) :
    ∀ {c c' : Connection σ}, c.Replays handle protocol → c.run handle steps = .ok c' → c'.Replays handle protocol := by
  induction steps with
  | nil =>
    intro c c' h ran
    cases ran
    exact h
  | cons e rest ih =>
    intro c c' h ran
    cases stepped : c.step handle e with
    | error f => simp [Connection.run, stepped, Except.bind] at ran
    | ok c₁ =>
      simp only [Connection.run, stepped, Except.bind] at ran
      exact ih (h.step stepped) ran

end Connection

section Refinement

open Framing

variable {σ : Type} {msgs : List Message}

/-- Whatever the order of the peer's sends and of libevent's calls, and however read(2) and write(2)
turn out, a connection whose peer sends a prefix of the encodings of well-formed messages holds its
handler in the state the handler reaches on its own from the first of those messages: the
connection runs the handler on the peer's messages, in order, each once. -/
theorem accept_runs_handler_on_peer_messages (handle : Handler σ) (protocol : σ)
    (wf : (frontendCodec handle.advance).AllWellFormed true msgs) (steps : List ConnEvent)
    (sent_isPrefix : Connection.sent steps <+: (frontendCodec handle.advance).encodeAll true msgs)
    {c : Connection σ} (ran : (Connection.initial protocol).run handle steps = .ok c) :
    c.reader.received <+: msgs ∧ handle.replay protocol true c.reader.received = some c.protocol := by
  have tracks := Connection.run_tracks wf steps Reader.inv_initial (by simpa using sent_isPrefix) ran
  exact ⟨tracks.tracks.delivered_isPrefix, (Connection.Replays.run steps Connection.replays_initial ran).protocol_eq⟩

open PostgresProtocolHandler in
def emptyQueryPath : QueryPath Unit := fun h _ => .ok ⟨.COMPLETE, [], [], h.txn_state_, ()⟩

open PostgresProtocolHandler in
def startupWithDatabase : List Message := [⟨NULL_COMMAND, startupBody 196608 [(ascii "database", ascii "tpcc")]⟩]

open PostgresProtocolHandler in
theorem startupWithDatabase_wellFormed :
    (frontendCodec (handler .SSL_PREFER parameter_status_map_ emptyQueryPath).advance).AllWellFormed true
      startupWithDatabase := by
  simp only [startupWithDatabase, Codec.AllWellFormed]
  exact ⟨⟨by decide, fun _ => rfl⟩, trivial⟩

def startupRun : List ConnEvent :=
  [.send ((frontendCodec PostgresProtocolHandler.stageAfter).encodeAll true startupWithDatabase), .wakeup,
   .pass ⟨[.ready 100], [], false, .accepted, false⟩, .pass ⟨[], [], false, .accepted, false⟩]

open PostgresProtocolHandler in
theorem accept_runs_handler_on_peer_messages_of_startup :
    ∃ c, (Connection.initial (new ())).run (handler .SSL_PREFER parameter_status_map_ emptyQueryPath) startupRun =
        .ok c ∧ c.reader.received <+: startupWithDatabase ∧
      (handler .SSL_PREFER parameter_status_map_ emptyQueryPath).replay (new ()) true c.reader.received =
        some c.protocol := by
  obtain ⟨c, ran, -⟩ := exists_ok_of_check (fun _ : Connection (PostgresProtocolHandler Unit) => True)
    ((Connection.initial (new ())).run (handler .SSL_PREFER parameter_status_map_ emptyQueryPath) startupRun)
    (by decide +kernel)
  exact ⟨c, ran, accept_runs_handler_on_peer_messages _ _ startupWithDatabase_wellFormed startupRun
    (by decide +kernel) ran⟩

end Refinement

theorem exists_eq_append_cons_of_prefix {α : Type} {l pre later : List α} {x : α}
    (handed : l <+: pre ++ x :: later) (longer : pre.length < l.length) : ∃ rest, l = pre ++ x :: rest := by
  obtain ⟨suffix, whole⟩ := handed
  rcases List.append_eq_append_iff.mp whole with ⟨extra, grows, -⟩ | ⟨front, split, rest⟩
  · have lengths := congrArg List.length grows
    simp only [List.length_append] at lengths
    omega
  · cases front with
    | nil =>
      rw [List.append_nil] at split
      rw [split] at longer
      exact absurd longer (Nat.lt_irrefl _)
    | cons y front =>
      rw [List.cons_append, List.cons.injEq] at rest
      exact ⟨front, by rw [split, rest.1]⟩

section Postgres

open Framing PostgresProtocolHandler

variable {τ : Type} (ssl_level : SSLLevel) (params : List (List UInt8 × List UInt8)) (query : QueryPath τ)

-- An SSLRequest leaves the handler as it was, in the initial stage, whatever it answers.
theorem replay_ssl_requests {sslRequests : List Message}
    (requests : ∀ m ∈ sslRequests, ∃ rest, m = ⟨NULL_COMMAND, (Field.int32 SSL_MESSAGE_VERNO).wireBytes ++ rest⟩)
    (s : PostgresProtocolHandler τ) (ms : List Message) :
    (handler ssl_level params query).replay s true (sslRequests ++ ms) =
      (handler ssl_level params query).replay s true ms := by
  induction sslRequests with
  | nil => rfl
  | cons m sslRequests ih =>
    obtain ⟨rest, rfl⟩ := requests m List.mem_cons_self
    have answered := Process_ssl_request ssl_level params query s rest
    rw [List.cons_append, Handler.replay, handler_Process, answered, Except.toOption, Option.bind_some,
      handler_advance, ← Process_init_stage answered]
    exact ih fun m' member => requests m' (List.mem_cons_of_mem _ member)

theorem replay_after_startup (ms : List Message) :
    ∀ {s s' : PostgresProtocolHandler τ}, (handler ssl_level params query).replay s false ms = some s' →
      s'.cmdline_options_ = s.cmdline_options_ ∧ s'.default_database_name_ = s.default_database_name_ := by
  induction ms with
  | nil =>
    intro s s' replayed
    cases replayed
    exact ⟨rfl, rfl⟩
  | cons m rest ih =>
    intro s s' replayed
    rw [Handler.replay, handler_Process] at replayed
    -- a packet the query path throws on ends the replay
    cases answered : Process ssl_level params query s false m with
    | error fault =>
      rw [answered] at replayed
      cases replayed
    | ok r =>
      obtain ⟨-, txn_state, queries, kept⟩ := ProcessNormalPacket_ok query s m (Process_normal answered)
      rw [answered] at replayed
      obtain ⟨options, database⟩ := ih replayed
      rw [options, database, kept]
      exact ⟨rfl, rfl⟩

/-- Once a client's startup packet of protocol 3 has been handed over, after any SSLRequests the
handler answered, however the session goes on and whatever the query path does, the handler looks
every key up to the last value the client gave it, and the traffic cop's database is the last one
the client named, or default_database. -/
theorem session_keeps_startup_options (queries : τ) {proto_version : Int}
    (major : PROTO_MAJOR_VERSION proto_version = 3) {opts : List (List UInt8 × List UInt8)}
    (plain : ∀ option ∈ opts, 0 ∉ option.1 ∧ 0 ∉ option.2) {sslRequests later : List Message}
    (requests : ∀ m ∈ sslRequests, ∃ rest, m = ⟨NULL_COMMAND, (Field.int32 SSL_MESSAGE_VERNO).wireBytes ++ rest⟩)
    (wf : (frontendCodec (handler ssl_level params query).advance).AllWellFormed true
      (sslRequests ++ ⟨NULL_COMMAND, startupBody proto_version opts⟩ :: later)) (steps : List ConnEvent)
    (sent_isPrefix : Connection.sent steps <+: (frontendCodec (handler ssl_level params query).advance).encodeAll true
      (sslRequests ++ ⟨NULL_COMMAND, startupBody proto_version opts⟩ :: later))
    {c : Connection (PostgresProtocolHandler τ)}
    (ran : (Connection.initial (new queries)).run (handler ssl_level params query) steps = .ok c)
    (started : sslRequests.length < c.reader.received.length) :
    (∀ key, c.protocol.cmdline_options_.lookup key = opts.reverse.lookup key) ∧
      c.protocol.default_database_name_ = (opts.reverse.lookup (ascii "database")).getD (ascii "default_database") := by
  have tracks := Connection.run_tracks wf steps Reader.inv_initial (by simpa using sent_isPrefix) ran
  have replays := (Connection.Replays.run steps Connection.replays_initial ran).protocol_eq
  -- what was handed over is the SSLRequests, then the startup packet
  have handed : c.reader.received <+: _ := tracks.tracks.delivered_isPrefix
  obtain ⟨rest, received⟩ := exists_eq_append_cons_of_prefix handed started
  have startup := Process_startup ssl_level params query (new queries) major plain
  have stage := Process_init_stage startup
  rw [received, replay_ssl_requests ssl_level params query requests, Handler.replay, handler_Process, startup,
    Except.toOption, Option.bind_some, handler_advance, ← stage] at replays
  obtain ⟨options, database⟩ := replay_after_startup ssl_level params query rest replays
  refine ⟨fun key => ?_, ?_⟩
  · rw [options, foldl_setOption_lookup]
    simp [new]
  · rw [database, foldl_setOption_database]
    rfl

-- An SSLRequest the handler refuses with 'N', then the startup packet.
def sslThenStartup : List Message :=
  [⟨NULL_COMMAND, (Field.int32 SSL_MESSAGE_VERNO).wireBytes⟩,
    ⟨NULL_COMMAND, startupBody 196608 [(ascii "database", ascii "tpcc")]⟩]

theorem sslThenStartup_wellFormed :
    (frontendCodec (handler .SSL_DISABLE [] emptyQueryPath).advance).AllWellFormed true sslThenStartup := by
  simp only [sslThenStartup, Codec.AllWellFormed]
  exact ⟨⟨by decide, fun _ => rfl⟩, ⟨by decide, fun _ => rfl⟩, trivial⟩

def sslThenStartupRun : List ConnEvent :=
  [.send ((frontendCodec PostgresProtocolHandler.stageAfter).encodeAll true sslThenStartup), .wakeup,
   .pass ⟨[.ready 100], [], false, .accepted, false⟩, .pass ⟨[], [], false, .accepted, false⟩,
   .pass ⟨[], [.accepted 1], false, .accepted, false⟩, .pass ⟨[], [], false, .accepted, false⟩,
   .pass ⟨[], [], false, .accepted, false⟩]

theorem session_keeps_startup_options_after_ssl_refusal :
    ∃ c, (Connection.initial (new ())).run (handler .SSL_DISABLE [] emptyQueryPath) sslThenStartupRun = .ok c ∧
      1 < c.reader.received.length ∧
      (∀ key, c.protocol.cmdline_options_.lookup key = [(ascii "database", ascii "tpcc")].reverse.lookup key) ∧
      c.protocol.default_database_name_ =
        ([(ascii "database", ascii "tpcc")].reverse.lookup (ascii "database")).getD (ascii "default_database") := by
  obtain ⟨c, ran, started⟩ := exists_ok_of_check
    (fun c : Connection (PostgresProtocolHandler Unit) => 1 < c.reader.received.length)
    ((Connection.initial (new ())).run (handler .SSL_DISABLE [] emptyQueryPath) sslThenStartupRun)
    (by decide +kernel)
  exact ⟨c, ran, started, @session_keeps_startup_options Unit .SSL_DISABLE [] emptyQueryPath () 196608
    (by decide) [(ascii "database", ascii "tpcc")] (by decide) [⟨NULL_COMMAND, (Field.int32 SSL_MESSAGE_VERNO).wireBytes⟩]
    [] (fun m member => ⟨[], by simpa using member⟩) sslThenStartup_wellFormed sslThenStartupRun (by decide +kernel)
    c ran started⟩

/-- A startup packet whose length field says 4 to 7 holds no version, and ProcessInitialPacket takes
one from past its end: no run hands that packet to the handler and goes on. -/
theorem short_startup_packet_never_passes (queries : τ) {m : Message} (short : m.body.length < 4)
    {later : List Message} (wf : (frontendCodec (handler ssl_level params query).advance).AllWellFormed true (m :: later))
    (steps : List ConnEvent)
    (sent_isPrefix : Connection.sent steps <+: (frontendCodec (handler ssl_level params query).advance).encodeAll true
      (m :: later))
    {c : Connection (PostgresProtocolHandler τ)}
    (ran : (Connection.initial (new queries)).run (handler ssl_level params query) steps = .ok c) :
    c.reader.received = [] := by
  have tracks := Connection.run_tracks wf steps Reader.inv_initial (by simpa using sent_isPrefix) ran
  have replays := (Connection.Replays.run steps Connection.replays_initial ran).protocol_eq
  have handed : c.reader.received <+: _ := tracks.tracks.delivered_isPrefix
  obtain ⟨suffix, whole⟩ := handed
  cases h : c.reader.received with
  | nil => rfl
  | cons first rest =>
    rw [h, List.cons_append, List.cons.injEq] at whole
    rw [h, whole.1, Handler.replay, handler_Process, Process_short_startup ssl_level params query (new queries) short,
      Except.toOption, Option.bind_none] at replays
    cases replays

def emptyStartupRun : List ConnEvent :=
  [.send [0, 0, 0, 4], .wakeup, .pass ⟨[.ready 4], [], false, .accepted, false⟩]

theorem short_startup_packet_never_passes_of_empty_startup :
    ∃ c, (Connection.initial (new ())).run (handler .SSL_PREFER parameter_status_map_ emptyQueryPath) emptyStartupRun =
        .ok c ∧ c.reader.received = [] ∧
      c.step (handler .SSL_PREFER parameter_status_map_ emptyQueryPath) (.pass ⟨[], [], false, .accepted, false⟩) =
        .error .undefined := by
  obtain ⟨c, ran, escapes⟩ := exists_ok_of_check
    (fun c : Connection (PostgresProtocolHandler Unit) =>
      (c.step (handler .SSL_PREFER parameter_status_map_ emptyQueryPath) (.pass ⟨[], [], false, .accepted, false⟩)).map
        (fun _ => ()) = .error .undefined)
    ((Connection.initial (new ())).run (handler .SSL_PREFER parameter_status_map_ emptyQueryPath) emptyStartupRun)
    (by decide +kernel)
  have wf : (frontendCodec (handler .SSL_PREFER parameter_status_map_ emptyQueryPath).advance).AllWellFormed true
      [⟨NULL_COMMAND, []⟩] := ⟨⟨by decide, fun _ => rfl⟩, trivial⟩
  exact ⟨c, ran, short_startup_packet_never_passes .SSL_PREFER parameter_status_map_ emptyQueryPath ()
    (m := ⟨NULL_COMMAND, []⟩) (by decide) wf emptyStartupRun (by decide) ran, map_eq_error escapes⟩

end Postgres

end Peloton.Network
