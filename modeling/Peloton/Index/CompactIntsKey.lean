import Peloton.Lib.ByteOrder
import Peloton.Type.TypeId

set_option autoImplicit false

/-!
# CompactIntsKey

A key of integer columns packed into KeySize * 8 bytes: each column's value with its top bit
flipped, big-endian, one column after the other, the rest of the key zero. Compare is one memcmp
over the whole key, and GetTupleForComparison reads the columns back.
-/

namespace Peloton.Index

open Peloton.Type

/-- CompactIntsKey<KeySize>: key_data, of key_size_byte = KeySize * 8 bytes. -/
structure CompactIntsKey (KeySize : Nat) where
  key_data : List UInt8
  size : key_data.length = KeySize * 8

namespace CompactIntsKey

variable {KeySize : Nat}

def ZeroOut : CompactIntsKey KeySize := ⟨List.replicate (KeySize * 8) 0, List.length_replicate⟩

/-- SignFlip on the w-bit pattern of an IntType: the mask, static_cast<IntType>(1) shifted to the
top bit, XORed in. -/
def SignFlip {w : Nat} (data : BitVec w) : BitVec w := data ^^^ 1#w <<< (w - 1)

/-- ToBigEndian, htobe16/32/64 on a little-endian host: the w / 8 bytes of the pattern, the most
significant first. -/
def ToBigEndian {w : Nat} (data : BitVec w) : List UInt8 := ByteOrder.toBigEndian (w / 8) data.toNat

def ToHostEndian (w : Nat) (bytes : List UInt8) : BitVec w :=
  BitVec.ofNat w (ByteOrder.ofBigEndian bytes)

/-- AddInteger: the sign-flipped pattern's bytes copied into key_data at offset. -/
def AddInteger (key : CompactIntsKey KeySize) {w : Nat} (data : BitVec w) (offset : Nat) :
    CompactIntsKey KeySize :=
  ⟨ByteOrder.writeBytes key.key_data offset (ToBigEndian (SignFlip data)),
    by rw [ByteOrder.length_writeBytes, key.size]⟩

/-- GetInteger: the sizeof(IntType) bytes at offset as a pattern, sign-flipped back. -/
def GetInteger (key : CompactIntsKey KeySize) (w offset : Nat) : BitVec w :=
  SignFlip (ToHostEndian w ((key.key_data.drop offset).take (w / 8)))

/-- Compare: memcmp over the key_size_byte bytes of both keys. -/
def Compare (a b : CompactIntsKey KeySize) : Int := ByteOrder.memcmp a.key_data b.key_data

def LessThan (a b : CompactIntsKey KeySize) : Bool := Compare a b < 0

def Equals (a b : CompactIntsKey KeySize) : Bool := Compare a b == 0

def columnIntegerType : TypeId → Except String IntegerTypeId
  | .BIGINT => .ok .BIGINT
  | .INTEGER => .ok .INTEGER
  | .SMALLINT => .ok .SMALLINT
  | .TINYINT => .ok .TINYINT
  | _ => .error "We currently only support a specific set of column index sizes..."

def addColumn (key : CompactIntsKey KeySize) (t : IntegerTypeId) (data : Int) (offset : Nat) :
    CompactIntsKey KeySize × Nat :=
  (key.AddInteger (BitVec.ofInt t.width data) offset, offset + t.width / 8)

def SetFromColumn (key : CompactIntsKey KeySize) (column_type : TypeId) (data : Int)
    (offset : Nat) : Except String (CompactIntsKey KeySize × Nat) := do
  let t ← columnIntegerType column_type
  return key.addColumn t data offset

def setFromColumns : CompactIntsKey KeySize → Nat → List (TypeId × Int) →
    Except String (CompactIntsKey KeySize)
  | key, _, [] => .ok key
  | key, offset, (column_type, data) :: rest => do
    let (key, offset) ← key.SetFromColumn column_type data offset
    setFromColumns key offset rest

def GetInlinedDataOfType (tuple : List (TypeId × Int)) (tuple_column_id : Nat) : Int :=
  (tuple[tuple_column_id]?.map Prod.snd).getD 0

/-- SetFromKey: the columns of a tuple holding only key columns, from a zeroed key. -/
def SetFromKey (tuple : List (TypeId × Int)) : Except String (CompactIntsKey KeySize) :=
  setFromColumns ZeroOut 0 tuple

def SetFromTuple (tuple : List (TypeId × Int)) (indices : List Nat) (key_schema : List TypeId) :
    Except String (CompactIntsKey KeySize) :=
  setFromColumns ZeroOut 0 (key_schema.zip (indices.map (GetInlinedDataOfType tuple)))

def getColumns (key : CompactIntsKey KeySize) : Nat → List TypeId →
    Except String (List (TypeId × Int))
  | _, [] => .ok []
  | offset, column_type :: rest => do
    let t ← columnIntegerType column_type
    let data := (key.GetInteger t.width offset).toInt
    let tuple ← key.getColumns (offset + t.width / 8) rest
    return (column_type, data) :: tuple

def GetTupleForComparison (key : CompactIntsKey KeySize) (key_schema : List TypeId) :
    Except String (List (TypeId × Int)) :=
  key.getColumns 0 key_schema

section Encoding

/-! The key of a tuple of integer columns, as the bytes it holds. -/

def keyTuple (cols : List (IntegerTypeId × Int)) : List (TypeId × Int) :=
  cols.map fun c => (c.1.typeId, c.2)

def keySchema (cols : List (IntegerTypeId × Int)) : List TypeId := cols.map fun c => c.1.typeId

def columnBytes (t : IntegerTypeId) (x : Int) : List UInt8 :=
  ToBigEndian (SignFlip (BitVec.ofInt t.width x))

def keyBytes (cols : List (IntegerTypeId × Int)) : List UInt8 :=
  cols.flatMap fun c => columnBytes c.1 c.2

def keyWidth (cols : List (IntegerTypeId × Int)) : Nat := (cols.map fun c => c.1.width / 8).sum

def InRange (c : IntegerTypeId × Int) : Prop :=
  -2 ^ (c.1.width - 1) ≤ c.2 ∧ c.2 < 2 ^ (c.1.width - 1)

instance (c : IntegerTypeId × Int) : Decidable (InRange c) :=
  inferInstanceAs (Decidable (_ ∧ _))

theorem bytes_pow (t : IntegerTypeId) : 256 ^ (t.width / 8) = 2 ^ t.width := by
  cases t <;> decide

@[simp] theorem length_columnBytes (t : IntegerTypeId) (x : Int) :
    (columnBytes t x).length = t.width / 8 :=
  ByteOrder.length_toBigEndian _ _

@[simp] theorem length_keyBytes : ∀ cols, (keyBytes cols).length = keyWidth cols
  | [] => rfl
  | (t, x) :: rest => by
    simp [keyBytes, keyWidth, List.length_flatMap]

theorem columnIntegerType_typeId (t : IntegerTypeId) : columnIntegerType t.typeId = .ok t := by
  cases t <;> rfl

theorem signFlip_signFlip {w : Nat} (data : BitVec w) : SignFlip (SignFlip data) = data := by
  simp [SignFlip, BitVec.xor_assoc]

theorem toHostEndian_toBigEndian {t : IntegerTypeId} (data : BitVec t.width) :
    ToHostEndian t.width (ToBigEndian data) = data := by
  have small : data.toNat < 256 ^ (t.width / 8) := by
    rw [bytes_pow]
    exact data.isLt
  rw [ToHostEndian, ToBigEndian, ByteOrder.ofBigEndian_toBigEndian small, BitVec.ofNat_toNat,
    BitVec.setWidth_eq]

theorem toInt_ofInt_of_inRange {t : IntegerTypeId} {x : Int} (range : InRange (t, x)) :
    (BitVec.ofInt t.width x).toInt = x := by
  rw [BitVec.toInt_ofInt]
  exact wrapTo_eq_self (IntegerTypeId.width_pos t) range.1 range.2

theorem toNat_signFlip {t : IntegerTypeId} {x : Int} (range : InRange (t, x)) :
    (SignFlip (BitVec.ofInt t.width x)).toNat = (x + 2 ^ (t.width - 1)).toNat :=
  ByteOrder.toNat_xor_topBit (IntegerTypeId.width_pos t) range.1 range.2

theorem compare_memcmp_columnBytes {t : IntegerTypeId} {x y : Int} (rangeX : InRange (t, x))
    (rangeY : InRange (t, y)) :
    compare (ByteOrder.memcmp (columnBytes t x) (columnBytes t y)) 0 = compare x y := by
  have fits : ∀ data : BitVec t.width, data.toNat < 256 ^ (t.width / 8) := fun data => by
    rw [bytes_pow]
    exact data.isLt
  have lowX : -2 ^ (t.width - 1) ≤ x := rangeX.1
  have lowY : -2 ^ (t.width - 1) ≤ y := rangeY.1
  unfold columnBytes ToBigEndian
  rw [ByteOrder.compare_memcmp_toBigEndian _ _ _ (fits _) (fits _), toNat_signFlip rangeX,
    toNat_signFlip rangeY]
  apply ByteOrder.compare_eq_compare_of_iff (α := Nat) (β := Int) <;> omega

theorem columnBytes_injective {t : IntegerTypeId} {x y : Int} (rangeX : InRange (t, x))
    (rangeY : InRange (t, y)) (same : columnBytes t x = columnBytes t y) : x = y := by
  have equal := compare_memcmp_columnBytes rangeX rangeY
  rw [same, ByteOrder.memcmp_self, Int.compare_eq_eq.2 rfl] at equal
  exact compare_eq_iff_eq.1 equal.symm

end Encoding

section SetFromKey

theorem setFromColumns_keyTuple : ∀ (cols : List (IntegerTypeId × Int))
    (key : CompactIntsKey KeySize) (offset : Nat), offset + keyWidth cols ≤ KeySize * 8 →
      ∃ k, setFromColumns key offset (keyTuple cols) = .ok k ∧
        k.key_data = key.key_data.take offset ++ keyBytes cols ++
          key.key_data.drop (offset + keyWidth cols)
  | [], key, offset, _ => ⟨key, rfl, by simp [keyBytes, keyWidth]⟩
  | (t, x) :: rest, key, offset, fits => by
    have width : keyWidth ((t, x) :: rest) = t.width / 8 + keyWidth rest := by
      simp [keyWidth]
    rw [width] at fits
    -- the column's bytes go to offset, and the rest of the loop starts past them
    have written : (key.addColumn t x offset).1.key_data =
        key.key_data.take offset ++ columnBytes t x ++ key.key_data.drop (offset + t.width / 8) := by
      show ByteOrder.writeBytes key.key_data offset (columnBytes t x) = _
      rw [ByteOrder.writeBytes_eq _ _ _ (by rw [key.size, length_columnBytes]; omega),
        length_columnBytes]
    obtain ⟨k, run, data⟩ :=
      setFromColumns_keyTuple rest (key.addColumn t x offset).1 (offset + t.width / 8) (by omega)
    refine ⟨k, ?_, ?_⟩
    · show setFromColumns key offset ((t.typeId, x) :: keyTuple rest) = _
      rw [setFromColumns, SetFromColumn, columnIntegerType_typeId]
      exact run
    · -- the rest of the loop keeps the column's bytes and the old key past the columns
      have fitsHere : offset + (columnBytes t x).length ≤ key.key_data.length := by
        rw [length_columnBytes, key.size]
        omega
      obtain ⟨front, back⟩ := ByteOrder.take_drop_after_write fitsHere (keyWidth rest)
      rw [length_columnBytes] at front back
      rw [data, written, front, back, width]
      simp [keyBytes, List.append_assoc, Nat.add_assoc]

theorem setFromKey_keyTuple (cols : List (IntegerTypeId × Int))
    (fits : keyWidth cols ≤ KeySize * 8) :
    ∃ k : CompactIntsKey KeySize, SetFromKey (keyTuple cols) = .ok k ∧
      k.key_data = keyBytes cols ++ List.replicate (KeySize * 8 - keyWidth cols) 0 := by
  obtain ⟨k, run, data⟩ :=
    setFromColumns_keyTuple cols (ZeroOut : CompactIntsKey KeySize) 0 (by omega)
  refine ⟨k, run, ?_⟩
  rw [data]
  simp [ZeroOut, List.drop_replicate]

theorem keyWidth_eq_of_schema {cols1 cols2 : List (IntegerTypeId × Int)}
    (sameSchema : cols1.map Prod.fst = cols2.map Prod.fst) : keyWidth cols1 = keyWidth cols2 := by
  have byTypes : ∀ cols : List (IntegerTypeId × Int),
      keyWidth cols = ((cols.map Prod.fst).map fun t => t.width / 8).sum := fun cols => by
    simp [keyWidth, List.map_map, Function.comp_def]
  rw [byTypes, byTypes, sameSchema]

theorem zip_keySchema : ∀ cols : List (IntegerTypeId × Int),
    (keySchema cols).zip (cols.map Prod.snd) = keyTuple cols
  | [] => rfl
  | (t, x) :: cols => by
    simp only [keySchema, keyTuple, List.map_cons, List.zip_cons_cons] at zip_keySchema ⊢
    rw [zip_keySchema cols]

theorem setFromTuple_of_indices (tuple : List (TypeId × Int)) (indices : List Nat)
    (cols : List (IntegerTypeId × Int))
    (mapped : indices.map (GetInlinedDataOfType tuple) = cols.map Prod.snd) :
    (SetFromTuple tuple indices (keySchema cols) : Except String (CompactIntsKey KeySize)) =
      SetFromKey (keyTuple cols) := by
  rw [SetFromTuple, SetFromKey, mapped, zip_keySchema]

end SetFromKey

section Compare

theorem compare_memcmp_keyBytes : ∀ (cols1 cols2 : List (IntegerTypeId × Int)) (pad : List UInt8),
    cols1.map Prod.fst = cols2.map Prod.fst → (∀ c ∈ cols1, InRange c) →
      (∀ c ∈ cols2, InRange c) →
        compare (ByteOrder.memcmp (keyBytes cols1 ++ pad) (keyBytes cols2 ++ pad)) 0 =
          compare (cols1.map Prod.snd) (cols2.map Prod.snd)
  | [], [], pad, _, _, _ => by
    rw [List.map_nil, List.compare_nil_nil, keyBytes, List.flatMap_nil, List.nil_append,
      ByteOrder.memcmp_self, Int.compare_eq_eq.2 rfl]
  | (t, x) :: rest1, (t', y) :: rest2, pad, schema, range1, range2 => by
    simp only [List.map_cons, List.cons.injEq] at schema
    obtain ⟨rfl, restSchema⟩ := schema
    have rangeX : InRange (t, x) := range1 _ List.mem_cons_self
    have rangeY : InRange (t, y) := range2 _ List.mem_cons_self
    have rest := compare_memcmp_keyBytes rest1 rest2 pad restSchema
      (fun c mem => range1 c (List.mem_cons_of_mem _ mem))
      (fun c mem => range2 c (List.mem_cons_of_mem _ mem))
    have layout : ∀ (z : Int) (cols : List (IntegerTypeId × Int)),
        keyBytes ((t, z) :: cols) ++ pad = columnBytes t z ++ (keyBytes cols ++ pad) := by
      intro z cols
      simp [keyBytes, List.append_assoc]
    rw [layout, layout, ByteOrder.memcmp_append _ _ _ _ (by simp), List.map_cons, List.map_cons,
      List.compare_cons_cons]
    by_cases same : columnBytes t x = columnBytes t y
    · -- equal first columns: the rest decides
      rw [if_pos same, rest, columnBytes_injective rangeX rangeY same, Int.compare_eq_eq.2 rfl,
        Ordering.eq_then]
    · -- the first column differs, and decides
      have differ : x ≠ y := fun equal => same (by rw [equal])
      rw [if_neg same, compare_memcmp_columnBytes rangeX rangeY]
      cases order : compare x y
      · rfl
      · exact absurd (compare_eq_iff_eq.1 order) differ
      · rfl
  | [], _ :: _, _, schema, _, _ => by simp at schema
  | _ :: _, [], _, schema, _, _ => by simp at schema

end Compare

section RoundTrip

theorem getColumns_keyBytes (key : CompactIntsKey KeySize) :
    ∀ (cols : List (IntegerTypeId × Int)) (offset : Nat) (rest : List UInt8),
      (∀ c ∈ cols, InRange c) → key.key_data.drop offset = keyBytes cols ++ rest →
        key.getColumns offset (keySchema cols) = .ok (keyTuple cols)
  | [], _, _, _, _ => rfl
  | (t, x) :: cols, offset, rest, range, suffix => by
    have rangeX : InRange (t, x) := range _ List.mem_cons_self
    have layout : key.key_data.drop offset = columnBytes t x ++ (keyBytes cols ++ rest) := by
      rw [suffix]
      simp [keyBytes, List.append_assoc]
    -- the column's bytes read back as its value
    have read : (key.GetInteger t.width offset).toInt = x := by
      rw [GetInteger, layout, List.take_left' (length_columnBytes t x), columnBytes,
        toHostEndian_toBigEndian, signFlip_signFlip, toInt_ofInt_of_inRange rangeX]
    have next : key.key_data.drop (offset + t.width / 8) = keyBytes cols ++ rest := by
      rw [← List.drop_drop, layout, List.drop_left' (length_columnBytes t x)]
    have tail := getColumns_keyBytes key cols (offset + t.width / 8) rest
      (fun c mem => range c (List.mem_cons_of_mem _ mem)) next
    show key.getColumns offset (t.typeId :: keySchema cols) = .ok ((t.typeId, x) :: keyTuple cols)
    rw [getColumns, columnIntegerType_typeId]
    show (do
      let tuple ← key.getColumns (offset + t.width / 8) (keySchema cols)
      return (t.typeId, (key.GetInteger t.width offset).toInt) :: tuple) = _
    rw [tail, read]
    rfl

end RoundTrip

end CompactIntsKey

/-- For keys of integer columns that fit, Compare orders two keys of one schema as their columns
do, read lexicographically as signed numbers, GetTupleForComparison reads a key's columns back, and
SetFromTuple builds the same key from the tuple columns an index mapping picks. -/
theorem compactIntsKey_compare_matches_columns (KeySize : Nat) (t1 t2 : List (IntegerTypeId × Int))
    (sameSchema : t1.map Prod.fst = t2.map Prod.fst) (range1 : ∀ c ∈ t1, CompactIntsKey.InRange c)
    (range2 : ∀ c ∈ t2, CompactIntsKey.InRange c) (fits : CompactIntsKey.keyWidth t1 ≤ KeySize * 8) :
    ∃ k1 k2 : CompactIntsKey KeySize,
      CompactIntsKey.SetFromKey (CompactIntsKey.keyTuple t1) = .ok k1 ∧
      CompactIntsKey.SetFromKey (CompactIntsKey.keyTuple t2) = .ok k2 ∧
      compare (CompactIntsKey.Compare k1 k2) 0 = compare (t1.map Prod.snd) (t2.map Prod.snd) ∧
      k1.GetTupleForComparison (CompactIntsKey.keySchema t1) = .ok (CompactIntsKey.keyTuple t1) ∧
      ∀ (tuple : List (TypeId × Int)) (indices : List Nat),
        indices.map (CompactIntsKey.GetInlinedDataOfType tuple) = t1.map Prod.snd →
          CompactIntsKey.SetFromTuple tuple indices (CompactIntsKey.keySchema t1) = .ok k1 := by
  have sameWidth := CompactIntsKey.keyWidth_eq_of_schema sameSchema
  obtain ⟨k1, set1, data1⟩ := CompactIntsKey.setFromKey_keyTuple t1 fits
  obtain ⟨k2, set2, data2⟩ :=
    CompactIntsKey.setFromKey_keyTuple t2 (sameWidth ▸ fits)
  refine ⟨k1, k2, set1, set2, ?_, ?_, ?_⟩
  · rw [CompactIntsKey.Compare, data1, data2, ← sameWidth]
    exact CompactIntsKey.compare_memcmp_keyBytes t1 t2 _ sameSchema range1 range2
  · exact k1.getColumns_keyBytes t1 0 _ range1 (by rw [List.drop_zero, data1])
  · intro tuple indices mapped
    rw [CompactIntsKey.setFromTuple_of_indices tuple indices t1 mapped, set1]

def smallThenTiny (tiny : Int) : List (IntegerTypeId × Int) := [(.SMALLINT, -300), (.TINYINT, tiny)]

theorem compactIntsKey_compare_matches_columns_small_then_tiny :
    ∃ k1 k2 : CompactIntsKey 1,
      CompactIntsKey.SetFromKey (CompactIntsKey.keyTuple (smallThenTiny 5)) = .ok k1 ∧
      CompactIntsKey.SetFromKey (CompactIntsKey.keyTuple (smallThenTiny (-7))) = .ok k2 ∧
      compare (CompactIntsKey.Compare k1 k2) 0 =
        compare ((smallThenTiny 5).map Prod.snd) ((smallThenTiny (-7)).map Prod.snd) ∧
      k1.GetTupleForComparison (CompactIntsKey.keySchema (smallThenTiny 5)) =
        .ok (CompactIntsKey.keyTuple (smallThenTiny 5)) ∧
      ∀ (tuple : List (TypeId × Int)) (indices : List Nat),
        indices.map (CompactIntsKey.GetInlinedDataOfType tuple) = (smallThenTiny 5).map Prod.snd →
          CompactIntsKey.SetFromTuple tuple indices (CompactIntsKey.keySchema (smallThenTiny 5)) =
            .ok k1 :=
  compactIntsKey_compare_matches_columns 1 (smallThenTiny 5) (smallThenTiny (-7)) (by decide)
    (by decide) (by decide) (by decide)

end Peloton.Index
