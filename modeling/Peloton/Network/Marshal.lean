import Peloton.Lib.ByteOrder
import Peloton.Type.IntegerParentType

set_option autoImplicit false

namespace Peloton.Network

open ByteOrder Peloton.Type

structure OutputPacket where
  buf : List UInt8
  len : Nat
  deriving DecidableEq, Repr

-- bytes runs from Begin() to End().
structure InputPacket where
  bytes : List UInt8
  len : Nat
  ptr : Nat
  deriving DecidableEq, Repr

/-! ## Marshallers, on a little-endian host with a 32-bit int -/

def PacketPutByte (pkt : OutputPacket) (c : UInt8) : OutputPacket :=
  ⟨pkt.buf ++ [c], pkt.len + 1⟩

def PacketPutStringWithTerminator (pkt : OutputPacket) (str : List UInt8) : OutputPacket :=
  ⟨pkt.buf ++ str ++ [0], pkt.len + (str.length + 1)⟩

def PacketPutCbytes (pkt : OutputPacket) (b : List UInt8) : OutputPacket :=
  ⟨pkt.buf ++ b, pkt.len + b.length⟩

-- n = htons(n) or htonl(n), then the first base bytes of the int n as the host stores it.
def PacketPutInt (pkt : OutputPacket) (n : Int) (base : Nat) : Option OutputPacket :=
  match base with
  | 2 => some (PacketPutCbytes pkt ((toLittleEndian 4 (byteSwap 2 (n % 2 ^ 16).toNat)).take 2))
  | 4 => some (PacketPutCbytes pkt ((toLittleEndian 4 (byteSwap 4 (n % 2 ^ 32).toNat)).take 4))
  | _ => none

/-! ## Unmarshallers

CheckOverflow is a PELOTON_ASSERT, compiled out under NDEBUG; the release build is modelled.
-/

def PacketGetByte (rpkt : InputPacket) : UInt8 × InputPacket :=
  (rpkt.bytes.getD rpkt.ptr 0, { rpkt with ptr := rpkt.ptr + 1 })

-- The base bytes are copied over the low bytes of int value = 0, which ntohs or ntohl then
-- swaps; the 32-bit result is read back as an int.
def PacketGetInt (rpkt : InputPacket) (base : Nat) : Option (Int × InputPacket) :=
  let value := ofLittleEndian ((rpkt.bytes.drop rpkt.ptr).take base)
  let advanced := { rpkt with ptr := rpkt.ptr + base }
  match base with
  | 1 => some (value, advanced)
  | 2 => some (byteSwap 2 (value % 2 ^ 16), advanced)
  | 4 => some (wrapTo 32 (byteSwap 4 (value % 2 ^ 32)), advanced)
  | _ => none

def PacketGetBytes (rpkt : InputPacket) (len : Nat) : List UInt8 × InputPacket :=
  if len = 0 then ([], rpkt)
  else ((rpkt.bytes.drop rpkt.ptr).take len, { rpkt with ptr := rpkt.ptr + len })

-- The bytes up to the next NUL, the NUL skipped; with no NUL the rest of the packet.
def GetStringToken (rpkt : InputPacket) : List UInt8 × InputPacket :=
  let rest := rpkt.bytes.drop rpkt.ptr
  match rest.findIdx? (· == 0) with
  | none => (rest, { rpkt with ptr := rpkt.len })
  | some index => (rest.take index, { rpkt with ptr := rpkt.ptr + index + 1 })

/-! ## Field sequences -/

inductive Field
  | byte (c : UInt8)
  | int16 (n : Int)
  | int32 (n : Int)
  | string (s : List UInt8)
  | bytes (b : List UInt8)
  deriving DecidableEq, Repr

namespace Field

-- An int32 field holds an int, and a string no NUL.
def WellFormed : Field → Prop
  | .int32 n => -2 ^ 31 ≤ n ∧ n < 2 ^ 31
  | .string s => 0 ∉ s
  | _ => True

instance (field : Field) : Decidable field.WellFormed :=
  match field with
  | .byte _ => isTrue trivial
  | .int16 _ => isTrue trivial
  | .int32 n => inferInstanceAs (Decidable (-2 ^ 31 ≤ n ∧ n < 2 ^ 31))
  | .string s => inferInstanceAs (Decidable (0 ∉ s))
  | .bytes _ => isTrue trivial

def readBack : Field → Field
  | .int16 n => .int16 (n % 2 ^ 16)
  | field => field

def wireBytes : Field → List UInt8
  | .byte c => [c]
  | .int16 n => toBigEndian 2 (n % 2 ^ 16).toNat
  | .int32 n => toBigEndian 4 (n % 2 ^ 32).toNat
  | .string s => s ++ [0]
  | .bytes b => b

end Field

def put (pkt : OutputPacket) : Field → Option OutputPacket
  | .byte c => some (PacketPutByte pkt c)
  | .int16 n => PacketPutInt pkt n 2
  | .int32 n => PacketPutInt pkt n 4
  | .string s => some (PacketPutStringWithTerminator pkt s)
  | .bytes b => some (PacketPutCbytes pkt b)

def get (rpkt : InputPacket) : Field → Option (Field × InputPacket)
  | .byte _ => some ((PacketGetByte rpkt).map .byte id)
  | .int16 _ => (PacketGetInt rpkt 2).map fun (n, rest) => (.int16 n, rest)
  | .int32 _ => (PacketGetInt rpkt 4).map fun (n, rest) => (.int32 n, rest)
  | .string _ => some ((GetStringToken rpkt).map .string id)
  | .bytes b => some ((PacketGetBytes rpkt b.length).map .bytes id)

def putAll (pkt : OutputPacket) : List Field → Option OutputPacket
  | [] => some pkt
  | field :: rest => (put pkt field).bind fun pkt => putAll pkt rest

def getAll (rpkt : InputPacket) : List Field → Option (List Field × InputPacket)
  | [] => some ([], rpkt)
  | field :: rest => (get rpkt field).bind fun (read, rpkt) =>
    (getAll rpkt rest).map fun (reads, rpkt) => (read :: reads, rpkt)

/-! ## Each field -/

variable {field : Field}

theorem put_eq (pkt : OutputPacket) (field : Field) :
    put pkt field = some (PacketPutCbytes pkt field.wireBytes) := by
  have low16 : ∀ n : Int, (n % 2 ^ 16).toNat < 256 ^ 2 := fun n => by omega
  cases field with
  | byte c => rfl
  | int16 n =>
    simp only [put, PacketPutInt, Field.wireBytes]
    rw [show (4 : Nat) = 2 + 2 from rfl, take_toLittleEndian (byteSwap_lt 2 _) 2,
      toLittleEndian_byteSwap]
  | int32 n =>
    simp only [put, PacketPutInt, Field.wireBytes, toLittleEndian_byteSwap]
    rw [List.take_of_length_le (by simp)]
  | string s => simp [put, PacketPutStringWithTerminator, PacketPutCbytes, Field.wireBytes]
  | bytes b => rfl

theorem get_eq {rpkt : InputPacket} (well : field.WellFormed) {rest : List UInt8}
    (ahead : rpkt.bytes.drop rpkt.ptr = field.wireBytes ++ rest) :
    get rpkt field = some (field.readBack, { rpkt with ptr := rpkt.ptr + field.wireBytes.length }) := by
  cases field with
  | byte c =>
    have at_ptr : rpkt.bytes[rpkt.ptr]? = some c := by
      have head := congrArg List.head? ahead
      simpa only [List.head?_drop, Field.wireBytes, List.cons_append, List.head?_cons] using head
    simp [get, PacketGetByte, at_ptr, Field.readBack, Field.wireBytes]
  | int16 n =>
    have copied : (rpkt.bytes.drop rpkt.ptr).take 2 = toBigEndian 2 (n % 2 ^ 16).toNat := by
      rw [ahead, Field.wireBytes, List.take_left' (length_toBigEndian 2 _)]
    have read : byteSwap 2 (ofLittleEndian (toBigEndian 2 (n % 2 ^ 16).toNat) % 2 ^ 16) =
        (n % 2 ^ 16).toNat := by
      have value := ofBigEndian_lt (toBigEndian 2 (n % 2 ^ 16).toNat).reverse
      simp only [List.length_reverse, length_toBigEndian] at value
      rw [Nat.mod_eq_of_lt (by simpa [ofLittleEndian] using value)]
      have swapped := byteSwap_ofLittleEndian (toBigEndian 2 (n % 2 ^ 16).toNat)
      rw [length_toBigEndian] at swapped
      rw [swapped, ofBigEndian_toBigEndian (by omega)]
    simp only [get, PacketGetInt, copied, read, Option.map_some, Field.readBack, Field.wireBytes,
      length_toBigEndian]
    congr 3
    omega
  | int32 n =>
    obtain ⟨lo, hi⟩ := well
    have copied : (rpkt.bytes.drop rpkt.ptr).take 4 = toBigEndian 4 (n % 2 ^ 32).toNat := by
      rw [ahead, Field.wireBytes, List.take_left' (length_toBigEndian 4 _)]
    have read : wrapTo 32 (byteSwap 4 (ofLittleEndian (toBigEndian 4 (n % 2 ^ 32).toNat) % 2 ^ 32)) = n := by
      have value := ofBigEndian_lt (toBigEndian 4 (n % 2 ^ 32).toNat).reverse
      simp only [List.length_reverse, length_toBigEndian] at value
      rw [Nat.mod_eq_of_lt (by simpa [ofLittleEndian] using value)]
      have swapped := byteSwap_ofLittleEndian (toBigEndian 4 (n % 2 ^ 32).toNat)
      rw [length_toBigEndian] at swapped
      have modulus : (2 : Int) ^ 32 = ((2 ^ 32 : Nat) : Int) := by norm_num
      rw [swapped, ofBigEndian_toBigEndian (by omega), wrapTo, Int.toNat_of_nonneg (by omega), modulus,
        Int.emod_bmod]
      exact wrapTo_eq_self (by decide) (by simpa using lo) (by simpa using hi)
    simp only [get, PacketGetInt, copied, read, Option.map_some, Field.readBack, Field.wireBytes,
      length_toBigEndian]
  | string s =>
    have none_in_s : s.findIdx? (· == 0) = none := List.findIdx?_eq_none_iff.mpr fun b member => by
      have nonzero : b ≠ 0 := fun zero => well (zero ▸ member)
      simpa using nonzero
    have found : (s ++ [0] ++ rest).findIdx? (· == 0) = some s.length := by
      rw [List.append_assoc, List.findIdx?_append, none_in_s]
      simp [List.findIdx?_cons]
    simp only [get, GetStringToken, ahead, Field.wireBytes, found]
    simp [Field.readBack, Nat.add_assoc]
  | bytes b =>
    simp only [get, PacketGetBytes, Field.readBack, Field.wireBytes]
    split
    · rename_i empty
      simp [List.eq_nil_of_length_eq_zero empty]
    · simp [ahead, Field.wireBytes]

/-! ## Field sequences -/

theorem putAll_eq (fields : List Field) (pkt : OutputPacket) :
    putAll pkt fields = some (PacketPutCbytes pkt (fields.flatMap Field.wireBytes)) := by
  induction fields generalizing pkt with
  | nil => simp [putAll, PacketPutCbytes]
  | cons field rest ih =>
    rw [putAll, put_eq, Option.bind_some, ih]
    simp [PacketPutCbytes, Nat.add_assoc]

theorem getAll_eq (fields : List Field) (well : ∀ field ∈ fields, field.WellFormed) (rpkt : InputPacket)
    {rest : List UInt8} (ahead : rpkt.bytes.drop rpkt.ptr = fields.flatMap Field.wireBytes ++ rest) :
    getAll rpkt fields = some (fields.map Field.readBack,
      { rpkt with ptr := rpkt.ptr + (fields.flatMap Field.wireBytes).length }) := by
  induction fields generalizing rpkt with
  | nil => simp [getAll]
  | cons field others ih =>
    rw [List.flatMap_cons, List.append_assoc] at ahead
    have after : (rpkt.bytes.drop (rpkt.ptr + field.wireBytes.length)) =
        others.flatMap Field.wireBytes ++ rest := by
      rw [← List.drop_drop, ahead, List.drop_left]
    rw [getAll, get_eq (well field List.mem_cons_self) ahead, Option.bind_some]
    dsimp only
    rw [ih (fun other member => well other (List.mem_cons_of_mem _ member)) _ after]
    simp [Nat.add_assoc]

-- Every field sequence written into a fresh OutputPacket reads back from an InputPacket over its
-- bytes, the 16-bit ints unsigned, and the reads end at len.
theorem marshal_round_trip (fields : List Field) (well : ∀ field ∈ fields, field.WellFormed) :
    ∃ out, putAll ⟨[], 0⟩ fields = some out ∧ out.len = out.buf.length ∧
      getAll ⟨out.buf, out.len, 0⟩ fields = some (fields.map Field.readBack, ⟨out.buf, out.len, out.len⟩) := by
  have written := putAll_eq fields ⟨[], 0⟩
  simp only [PacketPutCbytes, List.nil_append, Nat.zero_add] at written
  refine ⟨_, written, rfl, ?_⟩
  rw [@getAll_eq fields well _ [] (by simp)]
  simp

theorem marshal_round_trip_of_each_kind :
    (∀ field ∈ [Field.byte 7, .int16 (-1), .int32 (-5), .string [104, 105], .bytes [1, 2]],
        field.WellFormed) ∧
      ∃ out, putAll ⟨[], 0⟩ [Field.byte 7, .int16 (-1), .int32 (-5), .string [104, 105], .bytes [1, 2]] =
          some out ∧ out.len = out.buf.length ∧
        getAll ⟨out.buf, out.len, 0⟩ [Field.byte 7, .int16 (-1), .int32 (-5), .string [104, 105], .bytes [1, 2]] =
          some ([Field.byte 7, .int16 (-1), .int32 (-5), .string [104, 105], .bytes [1, 2]].map Field.readBack,
            ⟨out.buf, out.len, out.len⟩) :=
  have well : ∀ field ∈ [Field.byte 7, .int16 (-1), .int32 (-5), .string [104, 105], .bytes [1, 2]],
      field.WellFormed := by decide
  ⟨well, marshal_round_trip _ well⟩

end Peloton.Network
