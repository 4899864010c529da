import Mathlib

set_option autoImplicit false

namespace Peloton.Index

-- The 32-byte bit array is kept as one 256-bit number: bit j of byte i is bit 8 * i + j.
structure BloomFilter (V : Type) where
  valueEqObj : V → V → Bool
  valueHashObj : V → Nat
  bitArray0 : Nat
  dataP : List V

namespace BloomFilter

variable {V : Type}

def FILTER_SIZE : Nat := 32
def BIT_OFFSET_MASK : Nat := 0x07
def BYTE_OFFSET_MASK : Nat := 0xF8

def bitPosition (hashValue : Nat) : Nat :=
  ((hashValue &&& BYTE_OFFSET_MASK) >>> 3) * 8 + (hashValue &&& BIT_OFFSET_MASK)

def empty (valueEqObj : V → V → Bool) (valueHashObj : V → Nat) : BloomFilter V :=
  { valueEqObj := valueEqObj, valueHashObj := valueHashObj, bitArray0 := 0, dataP := [] }

def getSize (f : BloomFilter V) : Nat := f.dataP.length

def insertScalar (f : BloomFilter V) (value : V) : BloomFilter V :=
  { f with
    bitArray0 := f.bitArray0 ||| (1 <<< bitPosition (f.valueHashObj value))
    dataP := f.dataP ++ [value] }

-- The bit test, then the linear scan of data_p with value_eq_obj(value, *data_p[i]).
def existsScalar (f : BloomFilter V) (value : V) : Bool :=
  if f.bitArray0.testBit (bitPosition (f.valueHashObj value)) = false then false
  else f.dataP.any (fun u => f.valueEqObj value u)

@[simp] theorem insertScalar_dataP (f : BloomFilter V) (value : V) :
    (f.insertScalar value).dataP = f.dataP ++ [value] := rfl

@[simp] theorem insertScalar_valueHashObj (f : BloomFilter V) (value : V) :
    (f.insertScalar value).valueHashObj = f.valueHashObj := rfl

@[simp] theorem insertScalar_valueEqObj (f : BloomFilter V) (value : V) :
    (f.insertScalar value).valueEqObj = f.valueEqObj := rfl

@[simp] theorem empty_dataP (eq : V → V → Bool) (h : V → Nat) : (empty eq h).dataP = [] := rfl

theorem byteOffset_lt (hashValue : Nat) : (hashValue &&& BYTE_OFFSET_MASK) >>> 3 < FILTER_SIZE := by
  have masked : hashValue &&& BYTE_OFFSET_MASK ≤ BYTE_OFFSET_MASK := Nat.and_le_right
  rw [Nat.shiftRight_eq_div_pow]
  simp only [BYTE_OFFSET_MASK, FILTER_SIZE] at masked ⊢
  omega

theorem bitPosition_lt (hashValue : Nat) : bitPosition hashValue < 8 * FILTER_SIZE := by
  have byte := byteOffset_lt hashValue
  have bit : hashValue &&& BIT_OFFSET_MASK ≤ BIT_OFFSET_MASK := Nat.and_le_right
  simp only [BIT_OFFSET_MASK, FILTER_SIZE] at bit byte
  simp only [bitPosition, BIT_OFFSET_MASK, FILTER_SIZE]
  omega

/-- A filter is consistent when every stored value has its bit set. -/
def Consistent (f : BloomFilter V) : Prop :=
  ∀ u ∈ f.dataP, f.bitArray0.testBit (bitPosition (f.valueHashObj u)) = true

theorem empty_consistent (eq : V → V → Bool) (h : V → Nat) : (empty eq h).Consistent := by
  simp [Consistent, empty]

theorem testBit_or_shift (n p q : Nat) :
    (n ||| (1 <<< p)).testBit q = (n.testBit q || decide (p = q)) := by
  rw [Nat.testBit_or, Nat.testBit_shiftLeft]
  by_cases hpq : p = q
  · subst hpq; simp
  · have bit : (decide (q ≥ p) && Nat.testBit 1 (q - p)) = false := by
      cases h : Nat.testBit 1 (q - p)
      · simp
      · have := Nat.testBit_one_eq_true_iff_self_eq_zero.mp h
        have : ¬ p ≤ q := by omega
        simp [this]
    simp [bit, hpq]

theorem insertScalar_consistent (f : BloomFilter V) (value : V) (h : f.Consistent) :
    (f.insertScalar value).Consistent := by
  intro u hu
  simp only [insertScalar, List.mem_append, List.mem_singleton] at hu
  simp only [insertScalar, testBit_or_shift, Bool.or_eq_true, decide_eq_true_eq]
  rcases hu with hu | rfl
  · exact Or.inl (h u hu)
  · exact Or.inr rfl

theorem existsScalar_iff (f : BloomFilter V) (h : f.Consistent)
    (agree : ∀ x u, f.valueEqObj x u = true → f.valueHashObj x = f.valueHashObj u) (value : V) :
    f.existsScalar value = true ↔ ∃ u ∈ f.dataP, f.valueEqObj value u = true := by
  unfold existsScalar
  split
  next unset =>
    simp only [Bool.false_eq_true, false_iff, not_exists, not_and]
    intro u stored same
    have set := h u stored
    rw [← agree value u same] at set
    simp [set] at unset
  next => simp

section Inserts

variable (eq : V → V → Bool) (hash : V → Nat)

theorem foldl_insertScalar_dataP (f : BloomFilter V) (values : List V) :
    (values.foldl insertScalar f).dataP = f.dataP ++ values ∧
      (values.foldl insertScalar f).valueEqObj = f.valueEqObj ∧
      (values.foldl insertScalar f).valueHashObj = f.valueHashObj := by
  induction values generalizing f with
  | nil => simp
  | cons value rest ih =>
    obtain ⟨dataP, eqObj, hashObj⟩ := ih (f.insertScalar value)
    simp [dataP, eqObj, hashObj]

theorem foldl_insertScalar_consistent (f : BloomFilter V) (h : f.Consistent) (values : List V) :
    (values.foldl insertScalar f).Consistent := by
  induction values generalizing f with
  | nil => exact h
  | cons value rest ih => exact ih _ (insertScalar_consistent f value h)

theorem existsScalar_after_inserts (agree : ∀ x u, eq x u = true → hash x = hash u)
    (values : List V) (x : V) :
    (values.foldl insertScalar (empty eq hash)).existsScalar x = true ↔
      ∃ u ∈ values, eq x u = true := by
  obtain ⟨dataP, eqObj, hashObj⟩ := foldl_insertScalar_dataP (empty eq hash) values
  have consistent := foldl_insertScalar_consistent (empty eq hash) (empty_consistent eq hash) values
  rw [existsScalar_iff _ consistent (by rw [eqObj, hashObj]; exact agree), dataP, eqObj]
  simp [empty]

end Inserts

theorem existsScalar_after_inserts_last_digit :
    (∀ x u : Nat, (x % 10 == u % 10) = true → x % 10 = u % 10) ∧
      (([3, 14].foldl insertScalar
          (empty (fun x u => x % 10 == u % 10) (fun x => x % 10))).existsScalar 24 = true ↔
        ∃ u ∈ [3, 14], (24 % 10 == u % 10) = true) :=
  ⟨fun _ _ same => by simpa using same,
    existsScalar_after_inserts _ _ (fun _ _ same => by simpa using same) _ _⟩

end BloomFilter

end Peloton.Index
