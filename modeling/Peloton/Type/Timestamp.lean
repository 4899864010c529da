import Peloton.Type.Value
import Peloton.Type.IntegerParentType

set_option autoImplicit false

namespace Peloton.Type

def PELOTON_TIMESTAMP_NULL : UInt64 := 18446744073709551615

-- TIMESTAMP: value_.timestamp, a uint64_t.
structure TimestampValue where
  timestamp : UInt64
  deriving DecidableEq, Repr

def TimestampValue.asInt64 (v : TimestampValue) : Int := wrapTo 64 v.timestamp.toNat

namespace TimestampType

def IsNull (v : TimestampValue) : Bool := v.timestamp == PELOTON_TIMESTAMP_NULL

def compareBoth (op : TimestampValue → TimestampValue → Bool) (left right : TimestampValue) :
    CmpBool :=
  if IsNull left || IsNull right then .NULL_ else GetCmpBool (op left right)

def CompareEquals (left right : TimestampValue) : CmpBool :=
  compareBoth (fun l r => l.timestamp == r.timestamp) left right

def CompareNotEquals (left right : TimestampValue) : CmpBool :=
  if IsNull right then .NULL_ else GetCmpBool (left.timestamp != right.timestamp)

def CompareLessThan (left right : TimestampValue) : CmpBool :=
  compareBoth (fun l r => l.timestamp < r.timestamp) left right

def CompareLessThanEquals (left right : TimestampValue) : CmpBool :=
  compareBoth (fun l r => l.timestamp ≤ r.timestamp) left right

def CompareGreaterThan (left right : TimestampValue) : CmpBool :=
  compareBoth (fun l r => l.asInt64 > r.asInt64) left right

def CompareGreaterThanEquals (left right : TimestampValue) : CmpBool :=
  compareBoth (fun l r => l.timestamp ≥ r.timestamp) left right

def operateNullMessage : String := "OperateNull not implemented for type \x27TIMESTAMP\x27"

def Min (left right : TimestampValue) : Except String TimestampValue :=
  if IsNull left || IsNull right then .error operateNullMessage
  else if CompareLessThan left right = .CmpTrue then .ok left else .ok right

def Max (left right : TimestampValue) : Except String TimestampValue :=
  if IsNull left || IsNull right then .error operateNullMessage
  else if CompareGreaterThanEquals left right = .CmpTrue then .ok left else .ok right

def zeroPadded (width n : Nat) : List Char :=
  let digits := Nat.toDigits 10 n
  List.replicate (width - digits.length) '0' ++ digits

-- TimestampType::ToString: the fields taken back out of the packing of DateFunctions::Now, printed
-- as "%04d-%02d-%02d %02d:%02d:%02d.%06d"; str[26] then takes the sign of the zone, str[27] ends
-- the string, and the zone's two digits follow.
def ToString (val : TimestampValue) : String :=
  if IsNull val then "timestamp_null"
  else
    let tm := val.timestamp.toNat
    let micro := tm % 1000000
    let tm := tm / 1000000
    let second := tm % 100000
    let sec := second % 60
    let second := second / 60
    let min := second % 60
    let second := second / 60
    let hour := second % 24
    let tm := tm / 100000
    let year := tm % 10000
    let tm := tm / 10000
    let tz : Int := ((tm % 27 : Nat) : Int) - 12
    let tm := tm / 27
    let day := tm % 32
    let month := tm / 32
    let str := zeroPadded 4 year ++ ['-'] ++ zeroPadded 2 month ++ ['-'] ++ zeroPadded 2 day ++
      [' '] ++ zeroPadded 2 hour ++ [':'] ++ zeroPadded 2 min ++ [':'] ++ zeroPadded 2 sec ++
      ['.'] ++ zeroPadded 6 micro
    String.ofList (str.take 26 ++ [if tz ≥ 0 then '+' else '-'] ++ zeroPadded 2 tz.natAbs)

theorem compareBoth_of_not_null (op : TimestampValue → TimestampValue → Bool)
    {left right : TimestampValue} (leftNotNull : IsNull left = false)
    (rightNotNull : IsNull right = false) :
    compareBoth op left right = GetCmpBool (op left right) := by
  simp [compareBoth, leftNotNull, rightNotNull]

theorem isNull_of_lt {v : TimestampValue} (low : v.timestamp.toNat < 2 ^ 63) :
    IsNull v = false := by
  have notNull : v.timestamp ≠ PELOTON_TIMESTAMP_NULL := by
    intro same
    rw [same] at low
    exact absurd low (by decide)
  simpa [IsNull] using notNull

end TimestampType

namespace TimestampValue

theorem asInt64_of_lt {v : TimestampValue} (low : v.timestamp.toNat < 2 ^ 63) :
    v.asInt64 = v.timestamp.toNat :=
  wrapTo_eq_self (by decide) (by omega) (by push_cast; omega)

theorem asInt64_of_ge {v : TimestampValue} (high : 2 ^ 63 ≤ v.timestamp.toNat) :
    v.asInt64 = v.timestamp.toNat - 2 ^ 64 := by
  have fits := v.timestamp.toNat_lt
  exact wrapTo_of_above (by decide) (by push_cast; omega) (by push_cast; omega)

end TimestampValue

namespace TimestampType

theorem compareGreaterThan_eq_compareLessThan_swap (a b : TimestampValue)
    (sameHalf : (a.timestamp.toNat < 2 ^ 63 ↔ b.timestamp.toNat < 2 ^ 63)) :
    CompareGreaterThan a b = CompareLessThan b a := by
  have sameOrder : decide (a.asInt64 > b.asInt64) = decide (b.timestamp < a.timestamp) := by
    rw [decide_eq_decide, UInt64.lt_iff_toNat_lt]
    by_cases aLow : a.timestamp.toNat < 2 ^ 63
    · rw [TimestampValue.asInt64_of_lt aLow, TimestampValue.asInt64_of_lt (sameHalf.1 aLow)]
      omega
    · have bHigh : ¬b.timestamp.toNat < 2 ^ 63 := fun bLow => aLow (sameHalf.2 bLow)
      rw [TimestampValue.asInt64_of_ge (by omega), TimestampValue.asInt64_of_ge (by omega)]
      omega
  unfold CompareGreaterThan CompareLessThan compareBoth
  simp only [Bool.or_comm (IsNull a), sameOrder]

end TimestampType

namespace DateFunctions

def Now (usec hourMinSec year day month : Nat) : UInt64 :=
  let hour_min_sec_base : UInt64 := 1000000
  let year_base := hour_min_sec_base * 100000
  let day_base := year_base * 10000 * 27
  let month_base := day_base * 32
  usec.toUInt64 + hour_min_sec_base * hourMinSec.toUInt64 + year_base * year.toUInt64 +
    day_base * day.toUInt64 + month_base * month.toUInt64

theorem now_toNat {usec hourMinSec year day month : Nat} (usecValid : usec < 1000000)
    (secondValid : hourMinSec < 86400) (yearValid : year < 65536) (dayValid : day ≤ 31)
    (monthValid : month ≤ 12) :
    (Now usec hourMinSec year day month).toNat = usec + 1000000 * hourMinSec +
      100000000000 * year + 27000000000000000 * day + 864000000000000000 * month := by
  simp only [Now, UInt64.toNat_add, UInt64.toNat_mul, Nat.toUInt64, UInt64.toNat_ofNat',
    UInt64.reduceMul, UInt64.reduceToNat]
  omega

theorem now_top_bit_of_late_month {usec hourMinSec year day month : Nat} (usecValid : usec < 1000000)
    (secondValid : hourMinSec < 86400) (yearValid : year < 65536) (dayValid : day ≤ 31)
    (monthValid : month ≤ 12) (late : 11 ≤ month) :
    2 ^ 63 ≤ (Now usec hourMinSec year day month).toNat := by
  rw [now_toNat usecValid secondValid yearValid dayValid monthValid]
  omega

end DateFunctions

namespace TimestampType

-- Against a value below 2^63, a non-null value with its top bit set is neither less than, equal
-- to nor greater than it, while the smaller value is less than it.
theorem timestamp_top_bit_breaks_trichotomy (a b : TimestampValue) (aNotNull : IsNull a = false)
    (high : 2 ^ 63 ≤ a.timestamp.toNat) (low : b.timestamp.toNat < 2 ^ 63) :
    CompareLessThan a b = .CmpFalse ∧ CompareEquals a b = .CmpFalse ∧
      CompareGreaterThan a b = .CmpFalse ∧ CompareLessThan b a = .CmpTrue := by
  have bNotNull := isNull_of_lt low
  have signedBelow : ¬a.asInt64 > b.asInt64 := by
    have fits := a.timestamp.toNat_lt
    rw [TimestampValue.asInt64_of_ge high, TimestampValue.asInt64_of_lt low]
    omega
  have below : b.timestamp < a.timestamp := UInt64.lt_iff_toNat_lt.2 (by omega)
  have notAbove : ¬a.timestamp < b.timestamp := fun above => by
    rw [UInt64.lt_iff_toNat_lt] at above
    omega
  have different : a.timestamp ≠ b.timestamp := fun same => by
    rw [same] at high
    omega
  simp only [CompareLessThan, CompareEquals, CompareGreaterThan,
    compareBoth_of_not_null _ aNotNull bNotNull, compareBoth_of_not_null _ bNotNull aNotNull]
  simp [GetCmpBool, signedBelow, below, notAbove, different]

end TimestampType

theorem timestamp_top_bit_breaks_trichotomy_november :
    TimestampType.IsNull ⟨DateFunctions.Now 0 0 2017 1 11⟩ = false ∧
      2 ^ 63 ≤ (DateFunctions.Now 0 0 2017 1 11).toNat ∧
      (DateFunctions.Now 0 0 2017 1 10).toNat < 2 ^ 63 ∧
      TimestampType.CompareLessThan ⟨DateFunctions.Now 0 0 2017 1 11⟩ ⟨DateFunctions.Now 0 0 2017 1 10⟩ = .CmpFalse ∧
      TimestampType.CompareEquals ⟨DateFunctions.Now 0 0 2017 1 11⟩ ⟨DateFunctions.Now 0 0 2017 1 10⟩ = .CmpFalse ∧
      TimestampType.CompareGreaterThan ⟨DateFunctions.Now 0 0 2017 1 11⟩ ⟨DateFunctions.Now 0 0 2017 1 10⟩ = .CmpFalse ∧
      TimestampType.CompareLessThan ⟨DateFunctions.Now 0 0 2017 1 10⟩ ⟨DateFunctions.Now 0 0 2017 1 11⟩ = .CmpTrue :=
  have notNull : TimestampType.IsNull ⟨DateFunctions.Now 0 0 2017 1 11⟩ = false := by decide
  have high : 2 ^ 63 ≤ (DateFunctions.Now 0 0 2017 1 11).toNat := by decide
  have low : (DateFunctions.Now 0 0 2017 1 10).toNat < 2 ^ 63 := by decide
  ⟨notNull, high, low, TimestampType.timestamp_top_bit_breaks_trichotomy _ _ notNull high low⟩

end Peloton.Type
