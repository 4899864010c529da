import Peloton.Type.Timestamp

set_option autoImplicit false

namespace Peloton.Function

open Peloton.Type

inductive DatePartType where
  | INVALID
  | CENTURY
  | DAY
  | DECADE
  | DOW
  | DOY
  | HOUR
  | MICROSECOND
  | MILLENNIUM
  | MILLISECOND
  | MINUTE
  | MONTH
  | QUARTER
  | SECOND
  | WEEK
  | YEAR
  deriving DecidableEq, Repr

-- The fields of the mixed-radix encoding of DateFunctions::Now, most significant first.
structure TimestampFields where
  month : Nat
  day : Nat
  tz : Nat
  year : Nat
  hour_min_sec : Nat
  micro : Nat
  deriving DecidableEq, Repr

namespace TimestampFields

def encode (t : TimestampFields) : Nat :=
  ((((t.month * 32 + t.day) * 27 + t.tz) * 10000 + t.year) * 100000 + t.hour_min_sec) * 1000000 + t.micro

def IsLeapYear (year : Nat) : Bool := year % 4 == 0 && (year % 100 != 0 || year % 400 == 0)

def daysInMonth (year month : Nat) : Nat :=
  match month with
  | 2 => if IsLeapYear year then 29 else 28
  | 4 | 6 | 9 | 11 => 30
  | _ => 31

-- A Gregorian date of years 1 .. 9999 and a time of day.
def Valid (t : TimestampFields) : Prop :=
  1 ≤ t.month ∧ t.month ≤ 12 ∧ 1 ≤ t.day ∧ t.day ≤ daysInMonth t.year t.month ∧ t.tz < 27 ∧
    1 ≤ t.year ∧ t.year ≤ 9999 ∧ t.hour_min_sec < 86400 ∧ t.micro < 1000000

instance (t : TimestampFields) : Decidable t.Valid := inferInstanceAs (Decidable (_ ∧ _))

def instant (t : TimestampFields) : Nat :=
  (((t.year * 13 + t.month) * 32 + t.day) * 86400 + t.hour_min_sec) * 1000000 + t.micro

end TimestampFields

namespace TimestampFunctions

def decode (value : Nat) : TimestampFields where
  micro := value % 1000000
  hour_min_sec := value / 1000000 % 100000
  year := value / 1000000 / 100000 % 10000
  tz := value / 1000000 / 100000 / 10000 % 27
  day := value / 1000000 / 100000 / 10000 / 27 % 32
  month := value / 1000000 / 100000 / 10000 / 27 / 32 % 2 ^ 16

def toDays (year : Int) (month day : Nat) : Int :=
  let y := year - (if month ≤ 2 then 1 else 0)
  let era := (if 0 ≤ y then y else y - 399).tdiv 400
  let yoe := y - era * 400
  let doy : Int := ((153 * (if month > 2 then month - 3 else month + 9) + 2) / 5 : Nat) + (day : Int) - 1
  let doe := yoe * 365 + yoe / 4 - yoe / 100 + doy
  era * 146097 + doe - 719468

def dayOfWeek (t : TimestampFields) : Nat :=
  ((toDays t.year (t.month % 256) t.day + 4) % 7).toNat

def wrap (x : Int) : Nat := (x % 2 ^ 64).toNat

def DateTrunc (date_part : DatePartType) (value : Nat) : Nat :=
  if value = PELOTON_TIMESTAMP_NULL.toNat then PELOTON_TIMESTAMP_NULL.toNat
  else
    let t := decode value
    let micro := t.micro
    let sec := t.hour_min_sec % 60
    let hour := t.hour_min_sec / 60 / 60 % 24
    let quarter := (((t.month : Int) - 1).tdiv 3 + 1).toNat % 256
    let dow := dayOfWeek t
    match date_part with
    | .CENTURY => wrap (((((32 + 1) * 27 + t.tz) * 10000 + t.year - t.year % 100 + 1) * 100000 * 1000000 : Nat))
    | .DAY => wrap ((((t.month * 32 + t.day) * 27 + t.tz) * 10000 + t.year) * 100000 * 1000000 : Nat)
    | .DECADE => wrap (((((32 + 1) * 27 + t.tz) * 10000 + t.year - t.year % 10) * 100000 * 1000000 : Nat))
    | .HOUR => wrap (((((t.month * 32 + t.day) * 27 + t.tz) * 10000 + t.year) * 100000 + hour * 3600) * 1000000 : Nat)
    | .MICROSECOND => value
    | .MILLENNIUM => wrap (((((32 + 1) * 27 + t.tz) * 10000 + t.year - t.year % 1000 + 1) * 100000 * 1000000 : Nat))
    | .MILLISECOND => value - micro % 1000
    | .MINUTE => value - micro - sec * 1000000
    | .MONTH => wrap ((((t.month * 32 + 1) * 27 + t.tz) * 10000 + t.year) * 100000 * 1000000 : Nat)
    | .QUARTER => wrap ((((((quarter - 1) * 3 + 1) * 32 + 1) * 27 + t.tz) * 10000 + t.year) * 100000 * 1000000 : Nat)
    | .SECOND => value - micro
    | .WEEK =>
      -- month * 32 + day - offset in uint64_t
      wrap (((((t.month * 32 + t.day : Int) - (if dow = 0 then 6 else dow - 1)) * 27 + t.tz) * 10000 + t.year) *
        100000 * 1000000)
    | .YEAR => wrap ((((32 + 1) * 27 + t.tz) * 10000 + t.year) * 100000 * 1000000 : Nat)
    | _ => PELOTON_TIMESTAMP_NULL.toNat

/-! ## The encoding -/

open TimestampFields

section

variable {t : TimestampFields}

theorem day_le_of_valid (valid : t.Valid) : t.day ≤ 31 :=
  Nat.le_trans valid.2.2.2.1 (by unfold daysInMonth; split <;> (try split) <;> omega)

theorem encode_lt_of_valid (valid : t.Valid) : t.encode < 2 ^ 64 - 1 := by
  have := day_le_of_valid valid
  obtain ⟨-, month, -, -, tz, -, year, hms, micro⟩ := valid
  unfold encode
  omega

theorem decode_encode (day : t.day < 32) (tz : t.tz < 27) (year : t.year < 10000)
    (hms : t.hour_min_sec < 100000) (micro : t.micro < 1000000) (month : t.month < 2 ^ 16) :
    decode t.encode = t := by
  obtain ⟨month_, day_, tz_, year_, hms_, micro_⟩ := t
  simp only [decode, encode, TimestampFields.mk.injEq] at *
  omega

theorem decode_encode_of_valid (valid : t.Valid) : decode t.encode = t := by
  have := day_le_of_valid valid
  obtain ⟨-, month, -, -, tz, -, year, hms, micro⟩ := valid
  exact TimestampFunctions.decode_encode (by omega) tz (by omega) (by omega) micro (by omega)

theorem wrap_of_lt {x : Nat} (fits : x < 2 ^ 64) : wrap x = x := by
  unfold wrap
  omega

theorem encode_ne_null_of_valid (valid : t.Valid) : t.encode ≠ PELOTON_TIMESTAMP_NULL.toNat := by
  have := encode_lt_of_valid valid
  simp only [PELOTON_TIMESTAMP_NULL, UInt64.reduceToNat]
  omega

theorem dateTrunc_of_valid (valid : t.Valid) (date_part : DatePartType) :
    DateTrunc date_part t.encode =
      match date_part with
      | .CENTURY => wrap (((((32 + 1) * 27 + t.tz) * 10000 + t.year - t.year % 100 + 1) * 100000 * 1000000 : Nat))
      | .DAY => wrap ((((t.month * 32 + t.day) * 27 + t.tz) * 10000 + t.year) * 100000 * 1000000 : Nat)
      | .DECADE => wrap (((((32 + 1) * 27 + t.tz) * 10000 + t.year - t.year % 10) * 100000 * 1000000 : Nat))
      | .HOUR => wrap (((((t.month * 32 + t.day) * 27 + t.tz) * 10000 + t.year) * 100000 +
          t.hour_min_sec / 60 / 60 % 24 * 3600) * 1000000 : Nat)
      | .MICROSECOND => t.encode
      | .MILLENNIUM => wrap (((((32 + 1) * 27 + t.tz) * 10000 + t.year - t.year % 1000 + 1) * 100000 * 1000000 : Nat))
      | .MILLISECOND => t.encode - t.micro % 1000
      | .MINUTE => t.encode - t.micro - t.hour_min_sec % 60 * 1000000
      | .MONTH => wrap ((((t.month * 32 + 1) * 27 + t.tz) * 10000 + t.year) * 100000 * 1000000 : Nat)
      | .QUARTER => wrap (((((((((t.month : Int) - 1).tdiv 3 + 1).toNat % 256 - 1) * 3 + 1) * 32 + 1) * 27 +
          t.tz) * 10000 + t.year) * 100000 * 1000000 : Nat)
      | .SECOND => t.encode - t.micro
      | .WEEK => wrap (((((t.month * 32 + t.day : Int) -
          (if dayOfWeek t = 0 then 6 else dayOfWeek t - 1)) * 27 + t.tz) * 10000 + t.year) * 100000 * 1000000)
      | .YEAR => wrap ((((32 + 1) * 27 + t.tz) * 10000 + t.year) * 100000 * 1000000 : Nat)
      | _ => PELOTON_TIMESTAMP_NULL.toNat := by
  rw [DateTrunc, if_neg (encode_ne_null_of_valid valid), decode_encode_of_valid valid]

def weekOffset (t : TimestampFields) : Nat := if dayOfWeek t = 0 then 6 else dayOfWeek t - 1

theorem weekOffset_le (t : TimestampFields) : weekOffset t ≤ 6 := by
  have below : dayOfWeek t < 7 := by
    unfold dayOfWeek
    omega
  unfold weekOffset
  split <;> omega

theorem dateTrunc_week_of_valid (valid : t.Valid) :
    DateTrunc .WEEK t.encode = (⟨(t.month * 32 + t.day - weekOffset t) / 32,
      (t.month * 32 + t.day - weekOffset t) % 32, t.tz, t.year, 0, 0⟩ : TimestampFields).encode := by
  have offset := weekOffset_le t
  rw [dateTrunc_of_valid valid]
  dsimp only
  rw [show (if dayOfWeek t = 0 then 6 else dayOfWeek t - 1) = weekOffset t from rfl]
  have day := day_le_of_valid valid
  obtain ⟨month_pos, month, -, -, tz, -, year, -, -⟩ := valid
  -- month * 32 + day - offset does not go below zero
  have cast : ((((t.month * 32 + t.day : Int) - (weekOffset t : Nat)) * 27 + t.tz) * 10000 + t.year) *
      100000 * 1000000 =
      (((((t.month * 32 + t.day - weekOffset t) * 27 + t.tz) * 10000 + t.year) * 100000 * 1000000 : Nat) : Int) := by
    omega
  rw [cast, wrap_of_lt]
  · simp only [encode]
    omega
  · omega

theorem dateTrunc_century_of_valid (valid : t.Valid) :
    DateTrunc .CENTURY t.encode = (⟨1, 1, t.tz, t.year - t.year % 100 + 1, 0, 0⟩ : TimestampFields).encode := by
  rw [dateTrunc_of_valid valid]
  obtain ⟨-, -, -, -, tz, -, year, -, -⟩ := valid
  simp only [encode]
  rw [wrap_of_lt] <;> omega

theorem quarter_of_month {month : Nat} (positive : 1 ≤ month) (small : month ≤ 12) :
    ((((month : Int) - 1).tdiv 3 + 1).toNat % 256 - 1) = (month - 1) / 3 := by
  rw [Int.tdiv_eq_ediv_of_nonneg (by omega)]
  omega

end

def pgDateTrunc (date_part : DatePartType) (t : TimestampFields) : Option TimestampFields :=
  match date_part with
  | .MICROSECOND => some t
  | .MILLISECOND => some { t with micro := t.micro - t.micro % 1000 }
  | .SECOND => some { t with micro := 0 }
  | .MINUTE => some { t with hour_min_sec := t.hour_min_sec - t.hour_min_sec % 60, micro := 0 }
  | .HOUR => some { t with hour_min_sec := t.hour_min_sec - t.hour_min_sec % 3600, micro := 0 }
  | .DAY => some { t with hour_min_sec := 0, micro := 0 }
  | .MONTH => some { t with day := 1, hour_min_sec := 0, micro := 0 }
  | .QUARTER => some ⟨(t.month - 1) / 3 * 3 + 1, 1, t.tz, t.year, 0, 0⟩
  | .YEAR => some ⟨1, 1, t.tz, t.year, 0, 0⟩
  | .DECADE => some ⟨1, 1, t.tz, t.year - t.year % 10, 0, 0⟩
  | .CENTURY => some ⟨1, 1, t.tz, (t.year - 1) / 100 * 100 + 1, 0, 0⟩
  | .MILLENNIUM => some ⟨1, 1, t.tz, (t.year - 1) / 1000 * 1000 + 1, 0, 0⟩
  | _ => none

section

variable {t : TimestampFields}

-- In the first year of a century DateTrunc returns the next century's first day, after the
-- input; on the first of a month that is a Tuesday, WEEK returns day 0 of that month.
theorem dateTrunc_century_and_week_leave_the_unit (t : TimestampFields) (valid : t.Valid) :
    (t.year % 100 = 0 →
      decode (DateTrunc .CENTURY t.encode) = ⟨1, 1, t.tz, t.year + 1, 0, 0⟩ ∧
        t.instant < (decode (DateTrunc .CENTURY t.encode)).instant) ∧
    (t.day = 1 → dayOfWeek t = 2 →
      decode (DateTrunc .WEEK t.encode) = ⟨t.month, 0, t.tz, t.year, 0, 0⟩ ∧
        ¬ (decode (DateTrunc .WEEK t.encode)).Valid) := by
  have tz := valid.2.2.2.2.1
  have year := valid.2.2.2.2.2.2.1
  refine ⟨fun first_year => ?_, fun first tuesday => ?_⟩
  · have next : t.year - t.year % 100 + 1 = t.year + 1 := by omega
    have decoded : decode (DateTrunc .CENTURY t.encode) = ⟨1, 1, t.tz, t.year + 1, 0, 0⟩ := by
      rw [dateTrunc_century_of_valid valid, next]
      exact decode_encode (by simp) tz (show t.year + 1 < 10000 by omega) (by simp) (by simp) (by simp)
    refine ⟨decoded, ?_⟩
    have hms := valid.2.2.2.2.2.2.2.1
    have micro := valid.2.2.2.2.2.2.2.2
    have month := valid.2.1
    have day := day_le_of_valid valid
    rw [decoded]
    simp only [instant]
    omega
  · have offset : weekOffset t = 1 := by simp [weekOffset, tuesday]
    have same_month : (t.month * 32 + t.day - weekOffset t) / 32 = t.month := by omega
    have day_zero : (t.month * 32 + t.day - weekOffset t) % 32 = 0 := by omega
    have decoded : decode (DateTrunc .WEEK t.encode) = ⟨t.month, 0, t.tz, t.year, 0, 0⟩ := by
      rw [dateTrunc_week_of_valid valid, same_month, day_zero]
      exact decode_encode (by simp) tz (show t.year < 10000 by omega) (by simp) (by simp)
        (show t.month < 2 ^ 16 by have := valid.2.1; omega)
    refine ⟨decoded, fun result_valid => ?_⟩
    rw [decoded] at result_valid
    exact absurd result_valid.2.2.1 (by simp)

theorem dateTrunc_century_and_week_leave_the_unit_of_august_2000 :
    (⟨8, 1, 0, 2000, 0, 0⟩ : TimestampFields).Valid ∧ dayOfWeek ⟨8, 1, 0, 2000, 0, 0⟩ = 2 ∧
      decode (DateTrunc .CENTURY (⟨8, 1, 0, 2000, 0, 0⟩ : TimestampFields).encode) = ⟨1, 1, 0, 2001, 0, 0⟩ ∧
      decode (DateTrunc .WEEK (⟨8, 1, 0, 2000, 0, 0⟩ : TimestampFields).encode) = ⟨8, 0, 0, 2000, 0, 0⟩ :=
  have valid : (⟨8, 1, 0, 2000, 0, 0⟩ : TimestampFields).Valid := by decide
  have tuesday : dayOfWeek ⟨8, 1, 0, 2000, 0, 0⟩ = 2 := by decide
  have truncated := dateTrunc_century_and_week_leave_the_unit _ valid
  ⟨valid, tuesday, (truncated.1 (by decide)).1, (truncated.2 rfl tuesday).1⟩

end

end TimestampFunctions

end Peloton.Function
