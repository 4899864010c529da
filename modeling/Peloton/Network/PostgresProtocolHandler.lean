import Peloton.Network.PacketWriter
import Peloton.Lib.KeyedList

set_option autoImplicit false

/-!
# PostgresProtocolHandler

Process hands each whole packet to ProcessInitialPacket while init_stage_ is set, and to
ProcessNormalPacket after. The first answers an SSLRequest with a single byte, and a startup packet
of protocol 3 with AuthenticationOk, the server's parameter statuses and ReadyForQuery, reading the
client's options into cmdline_options_; only then does it leave the startup format. Any other
version gets an ErrorResponse and ends the connection. The second dispatches on the message type;
the query path behind the simple and the extended protocol (the parser, the traffic cop and the
statement cache) is a parameter, which touches txn_state_ and its own state only.
-/

namespace Peloton.Network

open ByteOrder
open Peloton.Type (ExceptionType)

inductive ProcessResult
  | COMPLETE | TERMINATE | PROCESSING | MORE_DATA_REQUIRED | NEED_SSL_HANDSHAKE
  deriving DecidableEq, Repr

/-- What a protocol handler does with one whole packet: the result Process returns, the responses it
queues, whether it sets the flush flag, the init_stage_ it leaves, the responses its GetResult will
queue once the worker is done, and the handler as it leaves it. -/
structure Reply (σ : Type) where
  status : ProcessResult
  responses : List ResponsePacket
  flush : Bool
  init_stage : Bool
  result : List ResponsePacket
  handler : σ

/-- How ProtocolHandler::Process ends without returning: it reads outside the packet, or an
exception of the given type leaves it, as ConversionException leaves ExecBindMessage. -/
inductive HandlerFault
  | undefined
  | exception (type : ExceptionType)
  deriving DecidableEq, Repr

/-- ProtocolHandler as the connection drives it: Process on a packet handed over whole and read in
the format init_stage_ names; the format it leaves depends only on the packet and the format it was
read in. -/
structure Handler (σ : Type) where
  Process : σ → Bool → Message → Except HandlerFault (Reply σ)
  advance : Bool → Message → Bool
  init_stage_eq : ∀ {s : σ} {init_stage : Bool} {m : Message} {r : Reply σ},
    Process s init_stage m = .ok r → r.init_stage = advance init_stage m

-- The values of NetworkMessageType the handler reads or writes.
namespace NetworkMessageType

def AUTHENTICATION_REQUEST : UInt8 := 82
def PARAMETER_STATUS : UInt8 := 83
def READY_FOR_QUERY : UInt8 := 90
def ERROR_RESPONSE : UInt8 := 69
def HUMAN_READABLE_ERROR : UInt8 := 77
def SSL_YES : UInt8 := 83
def SSL_NO : UInt8 := 78
def SIMPLE_QUERY_COMMAND : UInt8 := 81
def PARSE_COMMAND : UInt8 := 80
def BIND_COMMAND : UInt8 := 66
def DESCRIBE_COMMAND : UInt8 := 68
def EXECUTE_COMMAND : UInt8 := 69
def SYNC_COMMAND : UInt8 := 83
def CLOSE_COMMAND : UInt8 := 67
def TERMINATE_COMMAND : UInt8 := 88

end NetworkMessageType

open NetworkMessageType

inductive NetworkTransactionStateType
  | INVALID | IDLE | BLOCK | FAIL
  deriving DecidableEq, Repr

def NetworkTransactionStateType.toByte : NetworkTransactionStateType → UInt8
  | .INVALID => 0
  | .IDLE => 73
  | .BLOCK => 84
  | .FAIL => 69

inductive SSLLevel
  | SSL_DISABLE | SSL_PREFER | SSL_VERIIFY
  deriving DecidableEq, Repr

def ascii (s : String) : List UInt8 := s.toList.map fun c => c.toNat.toUInt8

def SSL_MESSAGE_VERNO : Int := 80877103

def PROTO_MAJOR_VERSION (x : Int) : Int := x >>> (16 : Nat)

def parameter_status_map_ : List (List UInt8 × List UInt8) :=
  [("application_name", "psql"), ("client_encoding", "UTF8"), ("DateStyle", "ISO, MDY"),
   ("integer_datetimes", "on"), ("IntervalStyle", "postgres"), ("is_superuser", "on"),
   ("server_encoding", "UTF8"), ("server_version", "9.5devel"), ("session_authorization", "postgres"),
   ("standard_conforming_strings", "on"), ("TimeZone", "US/Eastern")].map fun kv => (ascii kv.1, ascii kv.2)

/-- The state PostgresProtocolHandler keeps besides request_, responses_ and init_stage_, which the
connection holds. -/
structure PostgresProtocolHandler (τ : Type) where
  txn_state_ : NetworkTransactionStateType
  cmdline_options_ : List (List UInt8 × List UInt8)
  -- the traffic cop's default_database_name_
  default_database_name_ : List UInt8
  -- what the query path keeps: the statement cache, the portals, the traffic cop's statement
  queries : τ

/-- What the query path leaves: the result it returns, the responses it queues, those its GetResult
will queue, txn_state_ as CompleteCommand leaves it, and its own state. -/
structure QueryAnswer (τ : Type) where
  status : ProcessResult
  responses : List ResponsePacket
  result : List ResponsePacket
  txn_state_ : NetworkTransactionStateType
  queries : τ

abbrev QueryPath (τ : Type) := PostgresProtocolHandler τ → Message → Except ExceptionType (QueryAnswer τ)

/-- new OutputPacket(): no bytes, both flags false. -/
def ResponsePacket.new (msg_type : UInt8) (body : OutputPacket) : ResponsePacket :=
  ⟨body, msg_type, false, false, 0⟩

namespace PostgresProtocolHandler

variable {τ : Type}

/-- The constructor, with the traffic cop's DEFAULT_DB_NAME. -/
def new (queries : τ) : PostgresProtocolHandler τ := ⟨.IDLE, [], ascii "default_database", queries⟩

def SendReadyForQuery (txn_status : NetworkTransactionStateType) : ResponsePacket :=
  .new READY_FOR_QUERY (PacketPutByte ⟨[], 0⟩ txn_status.toByte)

def SendErrorResponse (error_status : List (UInt8 × List UInt8)) : ResponsePacket :=
  let pkt := error_status.foldl (fun pkt entry => PacketPutStringWithTerminator (PacketPutByte pkt entry.1) entry.2)
    ⟨[], 0⟩
  .new ERROR_RESPONSE (PacketPutByte pkt 0)

def MakeHardcodedParameterStatus (kv : List UInt8 × List UInt8) : ResponsePacket :=
  .new PARAMETER_STATUS (PacketPutStringWithTerminator (PacketPutStringWithTerminator ⟨[], 0⟩ kv.1) kv.2)

def SendStartupResponse (params : List (List UInt8 × List UInt8)) : Option (List ResponsePacket) :=
  (PacketPutInt ⟨[], 0⟩ 0 4).map fun auth =>
    .new AUTHENTICATION_REQUEST auth :: params.map MakeHardcodedParameterStatus ++ [SendReadyForQuery .IDLE]

def setOption (h : PostgresProtocolHandler τ) (option : List UInt8 × List UInt8) : PostgresProtocolHandler τ :=
  { h with cmdline_options_ := KeyedList.setKey h.cmdline_options_ option.1 option.2,
           default_database_name_ := if option.1 = ascii "database" then option.2 else h.default_database_name_ }

def ReadStartupOptions : Nat → InputPacket → PostgresProtocolHandler τ → PostgresProtocolHandler τ
  | 0, _, h => h
  | fuel + 1, pkt, h =>
    if pkt.ptr < pkt.len then
      let (token, pkt) := GetStringToken pkt
      if pkt.len ≤ pkt.ptr then h
      else
        let (value, pkt) := GetStringToken pkt
        ReadStartupOptions fuel pkt (h.setOption (token, value))
    else h

/-- Each pass of the loop takes at least a byte, so the packet's length is fuel enough. -/
def ProcessStartupPacket (params : List (List UInt8 × List UInt8)) (h : PostgresProtocolHandler τ)
    (pkt : InputPacket) (proto_version : Int) : Option (Reply (PostgresProtocolHandler τ)) :=
  if PROTO_MAJOR_VERSION proto_version ≠ 3 then
    some ⟨.TERMINATE, [SendErrorResponse [(HUMAN_READABLE_ERROR, ascii "Protocol Version Not Support")]], true, true,
      [], h⟩
  else
    (SendStartupResponse params).map fun responses =>
      ⟨.COMPLETE, responses, true, false, [], ReadStartupOptions pkt.len pkt h⟩

def ProcessInitialPacket (ssl_level : SSLLevel) (params : List (List UInt8 × List UInt8))
    (h : PostgresProtocolHandler τ) (pkt : InputPacket) : Option (Reply (PostgresProtocolHandler τ)) :=
  -- PacketGetInt copies four bytes whatever the packet holds: CheckOverflow is a PELOTON_ASSERT
  if pkt.len < pkt.ptr + 4 then none
  else
    (PacketGetInt pkt 4).bind fun (proto_version, pkt) =>
      if proto_version = SSL_MESSAGE_VERNO then
        let ssl_able := ssl_level ≠ .SSL_DISABLE
        some ⟨if ssl_able then .NEED_SSL_HANDSHAKE else .COMPLETE,
          [{ ResponsePacket.new (if ssl_able then SSL_YES else SSL_NO) ⟨[], 0⟩ with single_type_pkt := true }],
          true, true, [], h⟩
      else ProcessStartupPacket params h pkt proto_version

def answered (h : PostgresProtocolHandler τ) (flush : Bool) (a : QueryAnswer τ) : Reply (PostgresProtocolHandler τ) :=
  ⟨a.status, a.responses, flush, false, a.result, { h with txn_state_ := a.txn_state_, queries := a.queries }⟩

/-- The switch of ProcessNormalPacket. -/
def ProcessNormalPacket (query : QueryPath τ) (h : PostgresProtocolHandler τ) (pkt : Message) :
    Except ExceptionType (Reply (PostgresProtocolHandler τ)) :=
  if pkt.msg_type = SIMPLE_QUERY_COMMAND then (query h pkt).map (h.answered true)
  -- ExecParseMessage, ExecBindMessage and ExecCloseMessage return nothing: the switch breaks
  else if pkt.msg_type = PARSE_COMMAND ∨ pkt.msg_type = BIND_COMMAND ∨ pkt.msg_type = CLOSE_COMMAND then
    (query h pkt).map fun a => h.answered false { a with status := .COMPLETE }
  else if pkt.msg_type = DESCRIBE_COMMAND ∨ pkt.msg_type = EXECUTE_COMMAND then (query h pkt).map (h.answered false)
  else if pkt.msg_type = SYNC_COMMAND then .ok ⟨.COMPLETE, [SendReadyForQuery h.txn_state_], true, false, [], h⟩
  else if pkt.msg_type = TERMINATE_COMMAND ∨ pkt.msg_type = NULL_COMMAND then .ok ⟨.TERMINATE, [], true, false, [], h⟩
  else .ok ⟨.COMPLETE, [], false, false, [], h⟩

/-- PostgresProtocolHandler::Process on a packet that ParseInputPacket has handed over whole, request_
holding its body. -/
def Process (ssl_level : SSLLevel) (params : List (List UInt8 × List UInt8)) (query : QueryPath τ)
    (h : PostgresProtocolHandler τ) (init_stage : Bool) (pkt : Message) :
    Except HandlerFault (Reply (PostgresProtocolHandler τ)) :=
  if init_stage then (ProcessInitialPacket ssl_level params h ⟨pkt.body, pkt.body.length, 0⟩).elim (.error .undefined) .ok
  else (ProcessNormalPacket query h pkt).mapError .exception

/-! ## The startup packet's options -/

def encodeOptions (opts : List (List UInt8 × List UInt8)) : List UInt8 :=
  opts.flatMap fun option => option.1 ++ [0] ++ option.2 ++ [0]

def startupBody (proto_version : Int) (opts : List (List UInt8 × List UInt8)) : List UInt8 :=
  (Field.int32 proto_version).wireBytes ++ encodeOptions opts ++ [0]

@[simp] theorem encodeOptions_nil : encodeOptions [] = [] := rfl

@[simp] theorem encodeOptions_cons (option : List UInt8 × List UInt8) (opts : List (List UInt8 × List UInt8)) :
    encodeOptions (option :: opts) = option.1 ++ [0] ++ option.2 ++ [0] ++ encodeOptions opts := rfl

theorem length_le_encodeOptions (opts : List (List UInt8 × List UInt8)) : opts.length ≤ (encodeOptions opts).length := by
  induction opts with
  | nil => simp
  | cons option rest ih =>
    simp only [encodeOptions_cons, List.length_append, List.length_cons]
    omega

theorem GetStringToken_of_ahead {rpkt : InputPacket} {s rest : List UInt8} (plain : 0 ∉ s)
    (ahead : rpkt.bytes.drop rpkt.ptr = s ++ [0] ++ rest) :
    GetStringToken rpkt = (s, { rpkt with ptr := rpkt.ptr + (s.length + 1) }) := by
  have read := @get_eq (.string s) _ plain _ ahead
  cases token : GetStringToken rpkt with
  | mk t after =>
    simp only [get, token, Prod.map, Field.readBack, Field.wireBytes, Option.some.injEq, Prod.mk.injEq,
      Field.string.injEq, List.length_append, List.length_singleton, id_eq] at read
    rw [read.1, read.2]

theorem PacketGetInt_of_ahead {rpkt : InputPacket} {n : Int} (well : (Field.int32 n).WellFormed)
    {rest : List UInt8} (ahead : rpkt.bytes.drop rpkt.ptr = (Field.int32 n).wireBytes ++ rest) :
    PacketGetInt rpkt 4 = some (n, { rpkt with ptr := rpkt.ptr + 4 }) := by
  have read := get_eq well ahead
  simp only [get, Field.readBack, Field.wireBytes, length_toBigEndian] at read
  cases got : PacketGetInt rpkt 4 with
  | none => simp [got] at read
  | some r =>
    obtain ⟨v, after⟩ := r
    simp only [got, Option.map_some, Option.some.injEq, Prod.mk.injEq, Field.int32.injEq] at read
    rw [read.1, read.2]

theorem length_of_drop {l pre rest : List UInt8} {i : Nat} (ahead : l.drop i = pre ++ [0] ++ rest) :
    l.length = i + pre.length + 1 + rest.length := by
  have length := congrArg List.length ahead
  simp only [List.length_drop, List.length_append, List.length_singleton] at length
  omega

theorem drop_past {l pre rest : List UInt8} {i : Nat} (ahead : l.drop i = pre ++ rest) :
    l.drop (i + pre.length) = rest := by
  rw [← List.drop_drop, ahead, List.drop_left]

theorem ReadStartupOptions_encodeOptions (opts : List (List UInt8 × List UInt8))
    (plain : ∀ option ∈ opts, 0 ∉ option.1 ∧ 0 ∉ option.2) :
    ∀ (fuel : Nat) (pkt : InputPacket) (h : PostgresProtocolHandler τ), opts.length < fuel →
      pkt.len = pkt.bytes.length → pkt.bytes.drop pkt.ptr = encodeOptions opts ++ [0] →
      ReadStartupOptions fuel pkt h = opts.foldl setOption h := by
  induction opts with
  | nil =>
    intro fuel pkt h enough ends ahead
    obtain ⟨fuel, rfl⟩ : ∃ f, fuel = f + 1 := ⟨fuel - 1, by simp at enough; omega⟩
    -- the final NUL reads as an empty key, after which the packet ends
    have ahead_end : pkt.bytes.drop pkt.ptr = [] ++ [0] ++ [] := by simpa [encodeOptions] using ahead
    have length := length_of_drop ahead_end
    have token := GetStringToken_of_ahead List.not_mem_nil ahead_end
    have within : pkt.ptr < pkt.len := by simp at length; omega
    have ended : pkt.len ≤ pkt.ptr + (([] : List UInt8).length + 1) := by simp at length ⊢; omega
    simp only [ReadStartupOptions, within, if_true, token, ended, List.foldl_nil]
  | cons option rest ih =>
    intro fuel pkt h enough ends ahead
    obtain ⟨fuel, rfl⟩ : ∃ f, fuel = f + 1 := ⟨fuel - 1, by simp at enough; omega⟩
    obtain ⟨key, value⟩ := option
    have key_plain : 0 ∉ key := (plain (key, value) List.mem_cons_self).1
    have value_plain : 0 ∉ value := (plain (key, value) List.mem_cons_self).2
    have ahead_key : pkt.bytes.drop pkt.ptr = key ++ [0] ++ (value ++ [0] ++ (encodeOptions rest ++ [0])) := by
      simp [ahead, encodeOptions]
    have ahead_value : pkt.bytes.drop (pkt.ptr + (key.length + 1)) = value ++ [0] ++ (encodeOptions rest ++ [0]) := by
      simpa using drop_past ahead_key
    have ahead_rest : pkt.bytes.drop (pkt.ptr + (key.length + 1) + (value.length + 1)) = encodeOptions rest ++ [0] := by
      simpa using drop_past ahead_value
    have length := length_of_drop ahead_value
    have within : pkt.ptr < pkt.len := by omega
    have more : ¬ pkt.len ≤ pkt.ptr + (key.length + 1) := by omega
    simp only [ReadStartupOptions, within, if_true, GetStringToken_of_ahead key_plain ahead_key, more, if_false,
      @GetStringToken_of_ahead { pkt with ptr := pkt.ptr + (key.length + 1) } _ _ value_plain ahead_value,
      List.foldl_cons]
    exact ih (fun option member => plain option (List.mem_cons_of_mem _ member)) fuel
      { pkt with ptr := pkt.ptr + (key.length + 1) + (value.length + 1) } _ (by simpa using enough) ends ahead_rest

theorem lookup_instBEq {β : Type} (m : List (List UInt8 × β)) (k : List UInt8) :
    @List.lookup _ _ instBEqOfDecidableEq k m = m.lookup k := by
  rw [lawful_beq_subsingleton instBEqOfDecidableEq List.instBEq]

theorem foldl_setOption_lookup (opts : List (List UInt8 × List UInt8)) (h : PostgresProtocolHandler τ)
    (key : List UInt8) :
    (opts.foldl setOption h).cmdline_options_.lookup key = (opts.reverse.lookup key).or (h.cmdline_options_.lookup key) := by
  induction opts generalizing h with
  | nil => simp
  | cons option rest ih =>
    obtain ⟨k, v⟩ := option
    have set : (h.setOption (k, v)).cmdline_options_.lookup key =
        if key = k then some v else h.cmdline_options_.lookup key := by
      have set := KeyedList.lookup_setKey h.cmdline_options_ k key v
      rwa [lookup_instBEq, lookup_instBEq] at set
    have single : [(k, v)].lookup key = if key = k then some v else none := by
      by_cases same : key = k <;> simp [same]
    rw [List.foldl_cons, ih, set, List.reverse_cons, List.lookup_append, single, Option.or_assoc]
    by_cases same : key = k <;> simp [same]

theorem foldl_setOption_database (opts : List (List UInt8 × List UInt8)) (h : PostgresProtocolHandler τ) :
    (opts.foldl setOption h).default_database_name_ =
      (opts.reverse.lookup (ascii "database")).getD h.default_database_name_ := by
  induction opts generalizing h with
  | nil => simp
  | cons option rest ih =>
    obtain ⟨k, v⟩ := option
    rw [List.foldl_cons, ih, List.reverse_cons, List.lookup_append]
    simp only [setOption]
    by_cases same : ascii "database" = k
    · subst same
      cases (rest.reverse.lookup (ascii "database")) <;> simp
    · cases (rest.reverse.lookup (ascii "database")) <;> simp [same, Ne.symm same]

theorem foldl_setOption_frame (opts : List (List UInt8 × List UInt8)) (h : PostgresProtocolHandler τ) :
    ∃ options database, opts.foldl setOption h = { h with cmdline_options_ := options, default_database_name_ := database } := by
  induction opts generalizing h with
  | nil => exact ⟨h.cmdline_options_, h.default_database_name_, rfl⟩
  | cons option rest ih =>
    obtain ⟨options, database, set⟩ := ih (h.setOption option)
    exact ⟨options, database, set⟩

/-! ## Process on each kind of packet -/

theorem SendStartupResponse_eq (params : List (List UInt8 × List UInt8)) :
    SendStartupResponse params = some (.new AUTHENTICATION_REQUEST ⟨[0, 0, 0, 0], 4⟩ ::
      params.map MakeHardcodedParameterStatus ++ [SendReadyForQuery .IDLE]) := rfl

theorem range_of_major {proto_version : Int} (major : PROTO_MAJOR_VERSION proto_version = 3) :
    3 * 2 ^ 16 ≤ proto_version ∧ proto_version < 4 * 2 ^ 16 := by
  rw [PROTO_MAJOR_VERSION, Int.shiftRight_eq_div_pow] at major
  norm_num at major ⊢
  omega

theorem Process_startup (ssl_level : SSLLevel) (params : List (List UInt8 × List UInt8)) (query : QueryPath τ)
    (h : PostgresProtocolHandler τ) {proto_version : Int} (major : PROTO_MAJOR_VERSION proto_version = 3)
    {opts : List (List UInt8 × List UInt8)} (plain : ∀ option ∈ opts, 0 ∉ option.1 ∧ 0 ∉ option.2) :
    Process ssl_level params query h true ⟨NULL_COMMAND, startupBody proto_version opts⟩ =
      .ok ⟨.COMPLETE, .new AUTHENTICATION_REQUEST ⟨[0, 0, 0, 0], 4⟩ :: params.map MakeHardcodedParameterStatus ++
        [SendReadyForQuery .IDLE], true, false, [], opts.foldl setOption h⟩ := by
  obtain ⟨lo, hi⟩ := range_of_major major
  have well : (Field.int32 proto_version).WellFormed := ⟨by omega, by omega⟩
  have not_ssl : proto_version ≠ SSL_MESSAGE_VERNO := by unfold SSL_MESSAGE_VERNO; omega
  have four : (Field.int32 proto_version).wireBytes.length = 4 := length_toBigEndian 4 _
  have length : (startupBody proto_version opts).length = 4 + (encodeOptions opts).length + 1 := by
    simp only [startupBody, List.length_append, four, List.length_singleton]
  have version := @PacketGetInt_of_ahead ⟨startupBody proto_version opts, (startupBody proto_version opts).length, 0⟩
    proto_version well (encodeOptions opts ++ [0]) (by simp [startupBody, List.append_assoc])
  have long : ¬ (startupBody proto_version opts).length < 0 + 4 := by omega
  have ahead : (startupBody proto_version opts).drop (0 + 4) = encodeOptions opts ++ [0] := by
    rw [Nat.zero_add, ← four, startupBody, List.append_assoc, List.drop_left]
  have options := ReadStartupOptions_encodeOptions opts plain (startupBody proto_version opts).length
    ⟨startupBody proto_version opts, (startupBody proto_version opts).length, 0 + 4⟩ h
    (by have := length_le_encodeOptions opts; omega) rfl ahead
  simp only [Process, if_true, ProcessInitialPacket, long, if_false, version, Option.bind_some, not_ssl,
    ProcessStartupPacket, major, ne_eq, not_true_eq_false, SendStartupResponse_eq, Option.map_some, options,
    Option.elim_some]

/-- Every startup packet of protocol 3 a client lays out reads back: the handler answers it with
AuthenticationOk, the parameter statuses and ReadyForQuery, asks for a flush and leaves the startup
format; then it looks each key up to the last value the client gave it, the traffic cop's database
is the last one the client named, and nothing else of it has changed. -/
theorem startup_packet_round_trip (ssl_level : SSLLevel) (params : List (List UInt8 × List UInt8))
    (query : QueryPath τ) (h : PostgresProtocolHandler τ) {proto_version : Int}
    (major : PROTO_MAJOR_VERSION proto_version = 3) {opts : List (List UInt8 × List UInt8)}
    (plain : ∀ option ∈ opts, 0 ∉ option.1 ∧ 0 ∉ option.2) :
    ∃ h', Process ssl_level params query h true ⟨NULL_COMMAND, startupBody proto_version opts⟩ =
        .ok ⟨.COMPLETE, .new AUTHENTICATION_REQUEST ⟨[0, 0, 0, 0], 4⟩ :: params.map MakeHardcodedParameterStatus ++
          [SendReadyForQuery .IDLE], true, false, [], h'⟩ ∧
      (∀ key, h'.cmdline_options_.lookup key = (opts.reverse.lookup key).or (h.cmdline_options_.lookup key)) ∧
      h'.default_database_name_ = (opts.reverse.lookup (ascii "database")).getD h.default_database_name_ ∧
      h'.txn_state_ = h.txn_state_ ∧ h'.queries = h.queries := by
  obtain ⟨options, database, frame⟩ := foldl_setOption_frame opts h
  refine ⟨opts.foldl setOption h, Process_startup ssl_level params query h major plain,
    foldl_setOption_lookup opts h, foldl_setOption_database opts h, ?_, ?_⟩
  · rw [frame]
  · rw [frame]

theorem startup_packet_round_trip_of_database :
    ∃ h', Process .SSL_PREFER parameter_status_map_ (fun h _ => .ok ⟨.COMPLETE, [], [], h.txn_state_, ()⟩) (new ())
          true ⟨NULL_COMMAND, startupBody 196608 [(ascii "database", ascii "tpcc"), (ascii "user", ascii "postgres")]⟩ =
        .ok ⟨.COMPLETE, .new AUTHENTICATION_REQUEST ⟨[0, 0, 0, 0], 4⟩ ::
          parameter_status_map_.map MakeHardcodedParameterStatus ++ [SendReadyForQuery .IDLE], true, false, [], h'⟩ ∧
      (∀ key, h'.cmdline_options_.lookup key =
        ([(ascii "database", ascii "tpcc"), (ascii "user", ascii "postgres")].reverse.lookup key).or
          ((new ()).cmdline_options_.lookup key)) ∧
      h'.default_database_name_ = ([(ascii "database", ascii "tpcc"), (ascii "user", ascii "postgres")].reverse.lookup
        (ascii "database")).getD (new ()).default_database_name_ ∧
      h'.txn_state_ = (new ()).txn_state_ ∧ h'.queries = (new ()).queries :=
  startup_packet_round_trip .SSL_PREFER parameter_status_map_ _ (new ()) (by decide) (by decide)

theorem Process_ssl_request (ssl_level : SSLLevel) (params : List (List UInt8 × List UInt8)) (query : QueryPath τ)
    (h : PostgresProtocolHandler τ) (rest : List UInt8) :
    Process ssl_level params query h true ⟨NULL_COMMAND, (Field.int32 SSL_MESSAGE_VERNO).wireBytes ++ rest⟩ =
      .ok ⟨if ssl_level ≠ .SSL_DISABLE then .NEED_SSL_HANDSHAKE else .COMPLETE,
        [{ ResponsePacket.new (if ssl_level ≠ .SSL_DISABLE then SSL_YES else SSL_NO) ⟨[], 0⟩ with single_type_pkt := true }],
        true, true, [], h⟩ := by
  have four : (Field.int32 SSL_MESSAGE_VERNO).wireBytes.length = 4 := length_toBigEndian 4 _
  have version := @PacketGetInt_of_ahead ⟨(Field.int32 SSL_MESSAGE_VERNO).wireBytes ++ rest,
    ((Field.int32 SSL_MESSAGE_VERNO).wireBytes ++ rest).length, 0⟩ SSL_MESSAGE_VERNO (by decide) rest rfl
  have long : ¬ ((Field.int32 SSL_MESSAGE_VERNO).wireBytes ++ rest).length < 0 + 4 := by simp [four]
  simp only [Process, if_true, ProcessInitialPacket, long, if_false, version, Option.bind_some, Option.elim_some]

theorem Process_refuses_version (ssl_level : SSLLevel) (params : List (List UInt8 × List UInt8))
    (query : QueryPath τ) (h : PostgresProtocolHandler τ) {proto_version : Int}
    (well : (Field.int32 proto_version).WellFormed) (not_ssl : proto_version ≠ SSL_MESSAGE_VERNO)
    (major : PROTO_MAJOR_VERSION proto_version ≠ 3) (rest : List UInt8) :
    Process ssl_level params query h true ⟨NULL_COMMAND, (Field.int32 proto_version).wireBytes ++ rest⟩ =
      .ok ⟨.TERMINATE, [SendErrorResponse [(HUMAN_READABLE_ERROR, ascii "Protocol Version Not Support")]], true,
        true, [], h⟩ := by
  have four : (Field.int32 proto_version).wireBytes.length = 4 := length_toBigEndian 4 _
  have version := @PacketGetInt_of_ahead ⟨(Field.int32 proto_version).wireBytes ++ rest,
    ((Field.int32 proto_version).wireBytes ++ rest).length, 0⟩ proto_version well rest rfl
  have long : ¬ ((Field.int32 proto_version).wireBytes ++ rest).length < 0 + 4 := by simp [four]
  simp only [Process, if_true, ProcessInitialPacket, long, if_false, version, Option.bind_some, not_ssl,
    ProcessStartupPacket, major, ne_eq, not_false_eq_true, Option.elim_some]

theorem Process_short_startup (ssl_level : SSLLevel) (params : List (List UInt8 × List UInt8))
    (query : QueryPath τ) (h : PostgresProtocolHandler τ) {m : Message} (short : m.body.length < 4) :
    Process ssl_level params query h true m = .error .undefined := by
  simp [Process, ProcessInitialPacket, short]

theorem ProcessNormalPacket_ok (query : QueryPath τ) (h : PostgresProtocolHandler τ) (pkt : Message)
    {r : Reply (PostgresProtocolHandler τ)} (answered : ProcessNormalPacket query h pkt = .ok r) :
    r.init_stage = false ∧ ∃ txn_state queries, r.handler = { h with txn_state_ := txn_state, queries } := by
  unfold ProcessNormalPacket at answered
  split_ifs at answered
  all_goals
    first
    | (cases answered; exact ⟨rfl, _, _, rfl⟩)
    | (cases asked : query h pkt with
        | error e => simp [asked, Except.map] at answered
        | ok a =>
          simp only [asked, Except.map, Except.ok.injEq] at answered
          subst answered
          exact ⟨rfl, _, _, rfl⟩)

theorem Process_normal {query : QueryPath τ} {h : PostgresProtocolHandler τ} {ssl_level : SSLLevel}
    {params : List (List UInt8 × List UInt8)} {pkt : Message} {r : Reply (PostgresProtocolHandler τ)}
    (processed : Process ssl_level params query h false pkt = .ok r) : ProcessNormalPacket query h pkt = .ok r := by
  simp only [Process, Bool.false_eq_true, if_false] at processed
  cases answered : ProcessNormalPacket query h pkt with
  | error e => simp [answered, Except.mapError] at processed
  | ok r' =>
    simp only [answered, Except.mapError, Except.ok.injEq] at processed
    rw [processed]

def stageAfter (init_stage : Bool) (m : Message) : Bool :=
  init_stage && (PacketGetInt ⟨m.body, m.body.length, 0⟩ 4).all fun read =>
    decide (read.1 = SSL_MESSAGE_VERNO) || decide (PROTO_MAJOR_VERSION read.1 ≠ 3)

theorem Process_init_stage {ssl_level : SSLLevel} {params : List (List UInt8 × List UInt8)} {query : QueryPath τ}
    {h : PostgresProtocolHandler τ} {init_stage : Bool} {m : Message} {r : Reply (PostgresProtocolHandler τ)}
    (processed : Process ssl_level params query h init_stage m = .ok r) : r.init_stage = stageAfter init_stage m := by
  cases init_stage with
  | false =>
    rw [(ProcessNormalPacket_ok query h m (Process_normal processed)).1]
    rfl
  | true =>
    simp only [Process, if_true, ProcessInitialPacket] at processed
    split at processed
    · cases processed
    · obtain ⟨v, pkt, got⟩ : ∃ v pkt, PacketGetInt ⟨m.body, m.body.length, 0⟩ 4 = some (v, pkt) := ⟨_, _, rfl⟩
      simp only [got, Option.bind_some] at processed
      simp only [stageAfter, got, Option.all_some, Bool.true_and]
      split at processed
      · -- an SSLRequest
        rename_i ssl
        cases processed
        simp [ssl]
      · simp only [ProcessStartupPacket] at processed
        split at processed
        · -- another version
          rename_i major
          cases processed
          simp [major]
        · rename_i not_ssl major
          simp only [SendStartupResponse_eq, Option.map_some, Option.elim_some, Except.ok.injEq] at processed
          rw [← processed]
          simp [not_ssl, major]

def handler (ssl_level : SSLLevel) (params : List (List UInt8 × List UInt8)) (query : QueryPath τ) :
    Handler (PostgresProtocolHandler τ) :=
  ⟨Process ssl_level params query, stageAfter, Process_init_stage⟩

@[simp] theorem handler_Process (ssl_level : SSLLevel) (params : List (List UInt8 × List UInt8)) (query : QueryPath τ) :
    (handler ssl_level params query).Process = Process ssl_level params query := rfl

@[simp] theorem handler_advance (ssl_level : SSLLevel) (params : List (List UInt8 × List UInt8)) (query : QueryPath τ) :
    (handler ssl_level params query).advance = stageAfter := rfl

end PostgresProtocolHandler

end Peloton.Network
