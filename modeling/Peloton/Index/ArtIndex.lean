import Peloton.Index.CompactIntsKey

set_option autoImplicit false

/-!
# ART index keys

KeyConstructor::ConstructKey turns an index key into the bytes the adaptive radix tree orders: a
fixed-width column's integer with its top bit flipped, big-endian, and a VARCHAR column's
characters with their terminating NUL and one more NUL. The loop that sizes the key and the loop
that writes it step over a VARCHAR differently, and the full scan runs between the one-byte keys
of ConstructMinMaxKey.
-/

namespace Peloton.Index.ArtIndex

open Peloton.Type

/-- A value of the index key as ConstructKey peeks at it: the integer of a fixed-width column, or
the characters of a VARCHAR (its Value holds them followed by the terminating NUL). -/
inductive KeyValue where
  | integer (x : Int)
  | varchar (chars : List UInt8)
  deriving DecidableEq, Repr

namespace KeyValue

def GetLength : KeyValue → Nat
  | integer _ => 0
  | varchar chars => chars.length + 1

def PeekVarchar : KeyValue → List UInt8
  | integer _ => []
  | varchar chars => chars ++ [0]

def peekInteger : KeyValue → Int
  | integer x => x
  | varchar _ => 0

end KeyValue

def IsInlined : TypeId → Bool
  | .VARCHAR | .VARBINARY => false
  | _ => true

def GetFixedLength : TypeId → Nat
  | .BOOLEAN | .TINYINT => 1
  | .SMALLINT => 2
  | .INTEGER | .PARAMETER_OFFSET | .DATE => 4
  | .BIGINT | .DECIMAL | .TIMESTAMP => 8
  | _ => 0

/-- The cases of ConstructKey's switch: an integer of one of the four widths, a VARCHAR, and the
types it throws for. -/
inductive ColumnKind where
  | integer (t : IntegerTypeId)
  | varchar
  | unsupported

def columnKind : TypeId → ColumnKind
  | .BOOLEAN | .TINYINT => .integer .TINYINT
  | .SMALLINT => .integer .SMALLINT
  | .DATE | .INTEGER => .integer .INTEGER
  | .TIMESTAMP | .BIGINT => .integer .BIGINT
  | .VARCHAR => .varchar
  | _ => .unsupported

/-- FlipSign, the same top-bit flip as CompactIntsKey's SignFlip. -/
def FlipSign {w : Nat} (val : BitVec w) : BitVec w := CompactIntsKey.SignFlip val

/-- ToBigEndian, the same byte swap as CompactIntsKey's. -/
def ToBigEndian {w : Nat} (data : BitVec w) : List UInt8 := CompactIntsKey.ToBigEndian data

abbrev KeyData := List (Option UInt8)

/-- WriteValue: the sign-flipped value's bytes at offset. -/
def WriteValue (data : KeyData) (offset : Nat) {w : Nat} (val : BitVec w) : KeyData :=
  ByteOrder.writeBytes data offset ((ToBigEndian (FlipSign val)).map some)

/-- WriteAsciiString: len bytes of the string at offset, then a NUL at offset + len. -/
def WriteAsciiString (data : KeyData) (offset : Nat) (val : List UInt8) (len : Nat) : KeyData :=
  (ByteOrder.writeBytes data offset ((val.take len).map some)).set (offset + len) (some 0)

def keyLength : List (TypeId × KeyValue) → Nat
  | [] => 0
  | (column_type, value) :: rest =>
    (if IsInlined column_type then GetFixedLength column_type
      else value.GetLength + (if column_type = .VARCHAR then 1 else 0)) + keyLength rest

def writeColumn (data : KeyData) (offset : Nat) (column_type : TypeId) (value : KeyValue) :
    Except String (KeyData × Nat) :=
  match columnKind column_type with
  | .integer t =>
    .ok (WriteValue data offset (BitVec.ofInt t.width value.peekInteger), offset + t.width / 8)
  | .varchar =>
    .ok (WriteAsciiString data offset value.PeekVarchar value.GetLength, offset + value.GetLength)
  | .unsupported =>
    .error ("Column type \x27" ++ TypeIdToString column_type ++ "\x27 not supported in ART index")

def writeColumns : KeyData → Nat → List (TypeId × KeyValue) → Except String KeyData
  | data, _, [] => .ok data
  | data, offset, (column_type, value) :: rest => do
    let (data, offset) ← writeColumn data offset column_type value
    writeColumns data offset rest

/-- KeyConstructor::ConstructKey into a fresh art::Key: setKeyLen(key_len), then the columns. -/
def ConstructKey (input_key : List (TypeId × KeyValue)) : Except String KeyData :=
  writeColumns (List.replicate (keyLength input_key) none) 0 input_key

/-- KeyConstructor::ConstructMinMaxKey: the one-byte keys 0 and 255. -/
def ConstructMinMaxKey : List UInt8 × List UInt8 := ([0], [255])

section IntegerKeys

/-! Keys of integer columns only: the bytes are CompactIntsKey's, every one written. -/

def integerKey (cols : List (IntegerTypeId × Int)) : List (TypeId × KeyValue) :=
  cols.map fun c => (c.1.typeId, .integer c.2)

theorem columnKind_typeId (t : IntegerTypeId) : columnKind t.typeId = .integer t := by
  cases t <;> rfl

theorem keyLength_integerKey : ∀ cols, keyLength (integerKey cols) = CompactIntsKey.keyWidth cols
  | [] => rfl
  | (t, x) :: rest => by
    have fixed : IsInlined t.typeId = true ∧ GetFixedLength t.typeId = t.width / 8 := by
      cases t <;> exact ⟨rfl, rfl⟩
    have rest := keyLength_integerKey rest
    simp only [integerKey, List.map_cons] at rest ⊢
    rw [keyLength, if_pos fixed.1, fixed.2, rest]
    simp [CompactIntsKey.keyWidth]

theorem writeColumns_integerKey : ∀ (cols : List (IntegerTypeId × Int)) (data : KeyData)
    (offset : Nat), offset + CompactIntsKey.keyWidth cols ≤ data.length →
      writeColumns data offset (integerKey cols) =
        .ok (data.take offset ++ (CompactIntsKey.keyBytes cols).map some ++
          data.drop (offset + CompactIntsKey.keyWidth cols))
  | [], data, offset, _ => by simp [integerKey, writeColumns, CompactIntsKey.keyBytes,
      CompactIntsKey.keyWidth]
  | (t, x) :: rest, data, offset, fits => by
    have width : CompactIntsKey.keyWidth ((t, x) :: rest) =
        t.width / 8 + CompactIntsKey.keyWidth rest := by
      simp [CompactIntsKey.keyWidth]
    rw [width] at fits
    have fitsHere : offset + ((CompactIntsKey.columnBytes t x).map some).length ≤ data.length := by
      rw [List.length_map, CompactIntsKey.length_columnBytes]
      omega
    have written : WriteValue data offset (BitVec.ofInt t.width x) =
        data.take offset ++ (CompactIntsKey.columnBytes t x).map some ++
          data.drop (offset + t.width / 8) := by
      show ByteOrder.writeBytes data offset ((CompactIntsKey.columnBytes t x).map some) = _
      rw [ByteOrder.writeBytes_eq _ _ _ fitsHere, List.length_map,
        CompactIntsKey.length_columnBytes]
    obtain ⟨front, back⟩ := ByteOrder.take_drop_after_write fitsHere (CompactIntsKey.keyWidth rest)
    rw [List.length_map, CompactIntsKey.length_columnBytes] at front back
    show writeColumns data offset ((t.typeId, .integer x) :: integerKey rest) = _
    rw [writeColumns, writeColumn, columnKind_typeId]
    show writeColumns (WriteValue data offset (BitVec.ofInt t.width x)) (offset + t.width / 8)
      (integerKey rest) = _
    rw [writeColumns_integerKey rest _ _ (by rw [written]; simp; omega), written, front, back, width]
    simp [CompactIntsKey.keyBytes, List.append_assoc, Nat.add_assoc]

theorem constructKey_integerKey (cols : List (IntegerTypeId × Int)) :
    ConstructKey (integerKey cols) = .ok ((CompactIntsKey.keyBytes cols).map some) := by
  rw [ConstructKey, writeColumns_integerKey cols _ 0 (by simp [keyLength_integerKey]),
    keyLength_integerKey]
  simp

theorem compare_constructKey_integerKey (t1 t2 : List (IntegerTypeId × Int))
    (sameSchema : t1.map Prod.fst = t2.map Prod.fst) (range1 : ∀ c ∈ t1, CompactIntsKey.InRange c)
    (range2 : ∀ c ∈ t2, CompactIntsKey.InRange c) :
    compare (CompactIntsKey.keyBytes t1) (CompactIntsKey.keyBytes t2) =
      compare (t1.map Prod.snd) (t2.map Prod.snd) := by
  have sameLength : (CompactIntsKey.keyBytes t1).length = (CompactIntsKey.keyBytes t2).length := by
    rw [CompactIntsKey.length_keyBytes, CompactIntsKey.length_keyBytes,
      CompactIntsKey.keyWidth_eq_of_schema sameSchema]
  rw [← ByteOrder.compare_memcmp _ _ sameLength]
  have ordered := CompactIntsKey.compare_memcmp_keyBytes t1 t2 [] sameSchema range1 range2
  rwa [List.append_nil, List.append_nil] at ordered

end IntegerKeys

section Varchar

/-! The length loop counts a VARCHAR's Value and one more byte, but the writing loop moves past
the Value only: the NUL it appends is overwritten by the next column, and the key's last bytes
are never written. -/

def WellTyped (column : TypeId × KeyValue) : Prop :=
  match columnKind column.1, column.2 with
  | .integer _, .integer _ => True
  | .varchar, .varchar _ => True
  | _, _ => False

def columnAdvance (column : TypeId × KeyValue) : Nat :=
  match columnKind column.1 with
  | .integer t => t.width / 8
  | .varchar => column.2.GetLength
  | .unsupported => 0

def advance (cols : List (TypeId × KeyValue)) : Nat := (cols.map columnAdvance).sum

def EndsInteger (cols : List (TypeId × KeyValue)) : Prop := ∀ c ∈ cols.getLast?, c.1 ≠ .VARCHAR

theorem inlined_of_integer {column_type : TypeId} {t : IntegerTypeId}
    (kind : columnKind column_type = .integer t) :
    IsInlined column_type = true ∧ GetFixedLength column_type = t.width / 8 ∧
      column_type ≠ .VARCHAR := by
  cases column_type <;> cases kind <;> exact ⟨rfl, rfl, by decide⟩

theorem eq_varchar_of_kind {column_type : TypeId} (kind : columnKind column_type = .varchar) :
    column_type = .VARCHAR := by
  cases column_type <;> cases kind
  rfl

theorem writeColumn_extent (data : KeyData) (offset : Nat) {column : TypeId × KeyValue}
    (typed : WellTyped column) :
    ∃ data' offset', writeColumn data offset column.1 column.2 = .ok (data', offset') ∧
      offset' = offset + columnAdvance column ∧ 0 < columnAdvance column ∧
      data'.length = data.length ∧
      ∀ i, offset' + (if column.1 = .VARCHAR then 1 else 0) ≤ i → data'[i]? = data[i]? := by
  obtain ⟨column_type, value⟩ := column
  unfold WellTyped at typed
  unfold writeColumn columnAdvance
  cases kind : columnKind column_type with
  | integer t =>
    -- the value's bytes, t.width / 8 of them, and nothing past them
    have notVarchar := (inlined_of_integer kind).2.2
    refine ⟨_, _, rfl, rfl, Nat.div_pos ?_ (by decide), ByteOrder.length_writeBytes _ _ _,
      fun i past => ByteOrder.getElem?_writeBytes_of_le _ _ _ ?_⟩
    · cases t <;> decide
    · rw [if_neg notVarchar] at past
      simpa [ToBigEndian, CompactIntsKey.ToBigEndian] using past
  | varchar =>
    cases value with
    | integer x => simp [kind] at typed
    | varchar chars =>
      -- the characters and their NUL, then the NUL WriteAsciiString appends one byte further
      refine ⟨_, _, rfl, rfl, Nat.succ_pos _, by simp [WriteAsciiString], fun i past => ?_⟩
      rw [if_pos (eq_varchar_of_kind kind)] at past
      simp only [KeyValue.GetLength, KeyValue.PeekVarchar] at past ⊢
      rw [WriteAsciiString, List.getElem?_set_ne (by omega),
        ByteOrder.getElem?_writeBytes_of_le _ _ _ (by simp; omega)]
  | unsupported => simp [kind] at typed

theorem advance_pos {cols : List (TypeId × KeyValue)} (typed : ∀ c ∈ cols, WellTyped c)
    (nonempty : cols ≠ []) : 0 < advance cols := by
  obtain ⟨c, rest, rfl⟩ := List.exists_cons_of_ne_nil nonempty
  obtain ⟨_, _, _, _, positive, _⟩ := writeColumn_extent [] 0 (typed c List.mem_cons_self)
  simp only [advance, List.map_cons, List.sum_cons]
  omega

theorem writeColumns_extent : ∀ (cols : List (TypeId × KeyValue)) (data : KeyData) (offset : Nat),
    (∀ c ∈ cols, WellTyped c) →
      ∃ data', writeColumns data offset cols = .ok data' ∧ data'.length = data.length ∧
        (EndsInteger cols → ∀ i, offset + advance cols ≤ i → data'[i]? = data[i]?)
  | [], data, offset, _ => ⟨data, rfl, rfl, fun _ _ _ => rfl⟩
  | (column_type, value) :: rest, data, offset, typed => by
    obtain ⟨data', offset', written, moved, positive, length, untouched⟩ :=
      writeColumn_extent data offset (typed _ List.mem_cons_self)
    obtain ⟨data'', run, length', restUntouched⟩ := writeColumns_extent rest data' offset'
      (fun c mem => typed c (List.mem_cons_of_mem _ mem))
    refine ⟨data'', ?_, length'.trans length, fun ends i past => ?_⟩
    · rw [writeColumns, written]
      exact run
    · simp only [advance, List.map_cons, List.sum_cons] at past
      cases rest with
      | nil =>
        -- the last column is not a VARCHAR: nothing past its bytes is written
        have notVarchar : column_type ≠ .VARCHAR := ends _ rfl
        have same : data' = data'' := Except.ok.inj run
        subst same
        exact untouched i (by rw [if_neg notVarchar]; simp at past; omega)
      | cons next others =>
        -- the later columns cover at least one byte, past the NUL of a VARCHAR
        have later : 0 < advance (next :: others) :=
          advance_pos (fun c mem => typed c (List.mem_cons_of_mem _ mem)) (List.cons_ne_nil _ _)
        have endsRest : EndsInteger (next :: others) := fun c mem =>
          ends c (by rw [List.getLast?_cons_cons]; exact mem)
        rw [restUntouched endsRest i (by simp only [advance] at later ⊢; omega),
          untouched i (by split <;> simp only [advance] at later past <;> omega)]

theorem keyLength_eq : ∀ cols : List (TypeId × KeyValue), (∀ c ∈ cols, WellTyped c) →
    keyLength cols = advance cols + cols.countP (fun c => c.1 = .VARCHAR)
  | [], _ => rfl
  | (column_type, value) :: rest, typed => by
    have restLength := keyLength_eq rest (fun c mem => typed c (List.mem_cons_of_mem _ mem))
    have here := typed _ List.mem_cons_self
    unfold WellTyped at here
    rw [keyLength, restLength, List.countP_cons]
    simp only [advance, List.map_cons, List.sum_cons, columnAdvance]
    cases kind : columnKind column_type with
    | integer t =>
      obtain ⟨inlined, fixed, notVarchar⟩ := inlined_of_integer kind
      rw [if_pos inlined, fixed]
      simp [notVarchar]
      omega
    | varchar =>
      have varchar := eq_varchar_of_kind kind
      subst varchar
      simp [IsInlined]
      omega
    | unsupported => simp [kind] at here

theorem constructKey_leaves_byte_unwritten (cols : List (TypeId × KeyValue))
    (typed : ∀ c ∈ cols, WellTyped c) (hasVarchar : ∃ c ∈ cols, c.1 = .VARCHAR)
    (ends : EndsInteger cols) :
    ∃ key, ConstructKey cols = .ok key ∧ key.length = keyLength cols ∧
      key[advance cols]? = some none := by
  have counted : 0 < cols.countP (fun c => c.1 = .VARCHAR) := by
    obtain ⟨c, mem, isVarchar⟩ := hasVarchar
    exact List.countP_pos_iff.2 ⟨c, mem, by simpa using isVarchar⟩
  have longer := keyLength_eq cols typed
  obtain ⟨key, run, length, untouched⟩ :=
    writeColumns_extent cols (List.replicate (keyLength cols) none) 0 typed
  refine ⟨key, run, by rw [length, List.length_replicate], ?_⟩
  rw [untouched ends _ (by omega), List.getElem?_replicate, if_pos (by omega)]

end Varchar

section MinMax

theorem compare_maxKey_of_head {b : UInt8} {rest : List UInt8} :
    compare ((255 : UInt8) :: b :: rest) ConstructMinMaxKey.2 = .gt := by
  rw [ConstructMinMaxKey, List.compare_cons_cons, Std.compare_self, Ordering.eq_then]
  rfl

theorem toBigEndian_of_top {m u : Nat} (high : 255 * 256 ^ (m + 1) ≤ u)
    (small : u < 256 ^ (m + 2)) :
    ∃ b rest, ByteOrder.toBigEndian (m + 2) u = 255 :: b :: rest := by
  have top : u / 256 ^ (m + 1) = 255 := by
    apply Nat.div_eq_of_lt_le high
    rw [Nat.pow_succ] at small
    omega
  refine ⟨UInt8.ofNat (u % 256 ^ (m + 1) / 256 ^ m),
    ByteOrder.toBigEndian m (u % 256 ^ (m + 1) % 256 ^ m), ?_⟩
  rw [ByteOrder.toBigEndian, top, ByteOrder.toBigEndian]
  rfl

theorem constructKey_above_maxKey (t : IntegerTypeId) (x : Int) (rest : List (IntegerTypeId × Int))
    (wide : t ≠ .TINYINT) (high : 2 ^ (t.width - 1) - 2 ^ (t.width - 8) ≤ x)
    (range : CompactIntsKey.InRange (t, x)) :
    ∃ key, ConstructKey (integerKey ((t, x) :: rest)) = .ok (key.map some) ∧
      compare key ConstructMinMaxKey.2 = .gt := by
  obtain ⟨m, bytes⟩ : ∃ m, t.width / 8 = m + 2 ∧ (2 : Int) ^ (t.width - 1) = 128 * 256 ^ (m + 1) ∧
      (2 : Int) ^ (t.width - 8) = 256 ^ (m + 1) := by
    cases t
    · exact absurd rfl wide
    · exact ⟨0, by decide⟩
    · exact ⟨2, by decide⟩
    · exact ⟨6, by decide⟩
  obtain ⟨count, half, step⟩ := bytes
  have hi : x < 2 ^ (t.width - 1) := range.2
  -- the flipped value is at least 255 * 256^(m+1), its first byte 255
  have flipped := CompactIntsKey.toNat_signFlip range
  have castPower : ((256 ^ (m + 1) : Nat) : Int) = 256 ^ (m + 1) := by simp
  have castPower2 : ((256 ^ (m + 2) : Nat) : Int) = 256 ^ (m + 2) := by simp
  have power2 : (256 : Int) ^ (m + 2) = 256 * 256 ^ (m + 1) := by rw [pow_succ']
  obtain ⟨b, tail, leading⟩ := toBigEndian_of_top (m := m)
    (u := (CompactIntsKey.SignFlip (BitVec.ofInt t.width x)).toNat) (by rw [flipped]; omega)
    (by rw [flipped]; omega)
  refine ⟨_, constructKey_integerKey _, ?_⟩
  have first : CompactIntsKey.columnBytes t x = 255 :: b :: tail := by
    rw [CompactIntsKey.columnBytes, CompactIntsKey.ToBigEndian, count, leading]
  simp only [CompactIntsKey.keyBytes, List.flatMap_cons, first, List.cons_append]
  exact compare_maxKey_of_head

end MinMax

/-- A VARCHAR 'a' followed by the INTEGER 1 declares a key of 7 bytes and writes 6 of them, and the
SMALLINT 32767 gives the key 255 255, above the max key 255 in the byte order. -/
theorem artKey_unwritten_byte_and_key_above_max :
    ConstructKey [(.VARCHAR, .varchar [97]), (.INTEGER, .integer 1)] =
        .ok [some 97, some 0, some 128, some 0, some 0, some 1, none] ∧
      ConstructKey [(.SMALLINT, .integer 32767)] = .ok [some 255, some 255] ∧
      compare [(255 : UInt8), 255] ConstructMinMaxKey.2 = .gt :=
  ⟨by decide, by decide, by decide⟩

end Peloton.Index.ArtIndex
