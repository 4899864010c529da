import Mathlib.Data.Nat.Digits.Defs
import Mathlib.Data.List.TakeWhile
import Mathlib.Tactic.Ring
import Peloton.Type.Value
import Peloton.Type.IntegerParentType
import Peloton.Type.Timestamp

set_option autoImplicit false

namespace Peloton.Type

-- What std::stoi and std::stoll throw.
inductive StdException where
  | invalid_argument
  | out_of_range
  deriving DecidableEq, Repr

-- The exceptions of a cast: Exception(type, message), and Exception(message), whose type is
-- ExceptionType::INVALID.
inductive CastException where
  | typed (type : ExceptionType) (message : String)
  | invalid (message : String)
  deriving DecidableEq, Repr

namespace Stoi

def isspace (c : Char) : Bool :=
  c == ' ' || c == '\t' || c == '\n' || c == '\x0b' || c == '\x0c' || c == '\r'

def digitValue (c : Char) : Nat := c.toNat - '0'.toNat

def accumulate (digits : List Char) : Nat :=
  digits.foldl (fun value c => value * 10 + digitValue c) 0

def splitSign : List Char → Bool × List Char
  | '-' :: rest => (true, rest)
  | '+' :: rest => (false, rest)
  | rest => (false, rest)

def strtol (str : String) : Option Int :=
  let (negative, rest) := splitSign (str.toList.dropWhile isspace)
  let digits := rest.takeWhile Char.isDigit
  if digits.isEmpty then none
  else some (if negative then -(accumulate digits : Int) else accumulate digits)

def sto (w : Nat) (str : String) : Except StdException Int :=
  match strtol str with
  | none => .error .invalid_argument
  | some n => if n < -2 ^ (w - 1) ∨ 2 ^ (w - 1) ≤ n then .error .out_of_range else .ok n

def stoi (str : String) : Except StdException Int := sto 32 str

def stoll (str : String) : Except StdException Int := sto 64 str

-- The sign in front of the digits of a number's text.
inductive Sign where
  | none
  | plus
  | minus
  deriving DecidableEq, Repr

def Sign.chars : Sign → List Char
  | .none => []
  | .plus => ['+']
  | .minus => ['-']

def Sign.apply : Sign → Nat → Int
  | .minus, n => -(n : Int)
  | _, n => n

def signedValue (s : Sign) (digits : List Char) : Int :=
  s.apply (Nat.ofDigits 10 (digits.map digitValue).reverse)

theorem isspace_of_isDigit {c : Char} (digit : c.isDigit = true) : isspace c = false := by
  cases space : isspace c
  · rfl
  · simp only [isspace, Bool.or_eq_true, beq_iff_eq] at space
    rcases space with ((((rfl | rfl) | rfl) | rfl) | rfl) | rfl <;> exact absurd digit (by decide)

theorem foldl_accumulate (digits : List Char) (start : Nat) :
    digits.foldl (fun value c => value * 10 + digitValue c) start =
      start * 10 ^ digits.length + Nat.ofDigits 10 (digits.map digitValue).reverse := by
  induction digits generalizing start with
  | nil => simp
  | cons c rest ih =>
    rw [List.foldl_cons, ih, List.map_cons, List.reverse_cons, Nat.ofDigits_append,
      Nat.ofDigits_singleton, List.length_reverse, List.length_map, List.length_cons]
    ring

theorem accumulate_eq_ofDigits (digits : List Char) :
    accumulate digits = Nat.ofDigits 10 (digits.map digitValue).reverse := by
  rw [accumulate, foldl_accumulate, Nat.zero_mul, Nat.zero_add]

theorem strtol_signed (s : Sign) (digits : List Char) (nonempty : digits ≠ [])
    (allDigits : ∀ c ∈ digits, c.isDigit = true) :
    strtol (String.ofList (s.chars ++ digits)) = some (signedValue s digits) := by
  obtain ⟨first, rest, rfl⟩ := List.exists_cons_of_ne_nil nonempty
  have firstDigit := allDigits first (by simp)
  have kept : (s.chars ++ first :: rest).dropWhile isspace = s.chars ++ first :: rest := by
    cases s
    · exact List.dropWhile_cons_of_neg (by simp [isspace_of_isDigit firstDigit])
    · exact List.dropWhile_cons_of_neg (by decide)
    · exact List.dropWhile_cons_of_neg (by decide)
  have signRead : splitSign (s.chars ++ first :: rest) = (s == .minus, first :: rest) := by
    have notMinus : first ≠ '-' := fun same => absurd (same ▸ firstDigit) (by decide)
    have notPlus : first ≠ '+' := fun same => absurd (same ▸ firstDigit) (by decide)
    cases s <;> simp [Sign.chars, splitSign, notMinus, notPlus]
  have taken : (first :: rest).takeWhile Char.isDigit = first :: rest :=
    List.takeWhile_eq_self_iff.2 allDigits
  simp only [strtol, String.toList_ofList, kept, signRead, taken, List.isEmpty_cons,
    accumulate_eq_ofDigits]
  cases s <;> rfl

theorem sto_of_fits {w : Nat} {str : String} {n : Int} (parsed : strtol str = some n)
    (fits : -2 ^ (w - 1) ≤ n ∧ n < 2 ^ (w - 1)) : sto w str = .ok n := by
  have inside : ¬(n < -2 ^ (w - 1) ∨ 2 ^ (w - 1) ≤ n) := by omega
  simp [sto, parsed, inside]

theorem sto_of_not_fits {w : Nat} {str : String} {n : Int} (parsed : strtol str = some n)
    (outside : ¬(-2 ^ (w - 1) ≤ n ∧ n < 2 ^ (w - 1))) : sto w str = .error .out_of_range := by
  have beyond : n < -2 ^ (w - 1) ∨ 2 ^ (w - 1) ≤ n := by omega
  simp [sto, parsed, beyond]

theorem accumulate_append_digit (digits : List Char) (c : Char) :
    accumulate (digits ++ [c]) = accumulate digits * 10 + digitValue c := by
  simp [accumulate, List.foldl_append]

theorem accumulate_toDigits (n : Nat) : accumulate (Nat.toDigits 10 n) = n := by
  induction n using Nat.strong_induction_on with
  | _ n ih =>
    rw [Nat.toDigits_eq_if (by decide)]
    split
    next small =>
      have digit := Nat.toNat_digitChar_sub_48_of_lt_ten small
      simp [accumulate, digitValue, digit]
    next large =>
      have digit := Nat.toNat_digitChar_sub_48_of_lt_ten (Nat.mod_lt n (by decide : 10 > 0))
      have zero : '0'.toNat = 48 := rfl
      rw [accumulate_append_digit, ih (n / 10) (by omega), digitValue, zero, digit]
      omega

def signOf (n : Int) : Sign := if n < 0 then .minus else .none

theorem signedValue_toDigits (n : Int) :
    signedValue (signOf n) (Nat.toDigits 10 n.natAbs) = n := by
  rw [signedValue, ← accumulate_eq_ofDigits, accumulate_toDigits, signOf]
  split
  next negative =>
    simp only [Sign.apply]
    omega
  next nonNegative =>
    simp only [Sign.apply]
    omega

end Stoi

def toDecimalString (n : Int) : String :=
  String.ofList ((Stoi.signOf n).chars ++ Nat.toDigits 10 n.natAbs)

-- IntegerType::ToString.
def IntegerType.ToString (val : IntegerValue) : String :=
  if SqlType.IsNull val then "integer_null" else toDecimalString val.integer

namespace ValueFactory

def outOfRangeMessage : String := "Numeric value out of range."

def castFromVarchar (parse : String → Except StdException Int) (t : IntegerTypeId)
    (typeName : String) (outOfRange : Int → Bool) (value : VarlenValue) :
    Except CastException IntValue :=
  if SqlType.IsNull value then .ok ⟨t, t.PELOTON_NULL⟩
  else
    let str := value.ToString
    match parse str with
    | .error .out_of_range => .error (.typed .OUT_OF_RANGE outOfRangeMessage)
    | .error .invalid_argument =>
      .error (.invalid ("Invalid input syntax for " ++ typeName ++ ": \x27" ++ str ++ "\x27"))
    | .ok n =>
      let narrowed := wrapTo t.width n
      if outOfRange narrowed then .error (.typed .OUT_OF_RANGE outOfRangeMessage)
      else .ok ⟨t, narrowed⟩

-- int8_t tinyint = stoi(str), then only "tinyint < PELOTON_INT8_MIN" is tested.
def CastAsTinyInt (value : VarlenValue) : Except CastException IntValue :=
  castFromVarchar Stoi.stoi .TINYINT "tinyint"
    (fun v => v < IntegerTypeId.TINYINT.PELOTON_MIN) value

-- int16_t smallint = stoi(str), then only "smallint < PELOTON_INT16_MIN" is tested.
def CastAsSmallInt (value : VarlenValue) : Except CastException IntValue :=
  castFromVarchar Stoi.stoi .SMALLINT "smallint"
    (fun v => v < IntegerTypeId.SMALLINT.PELOTON_MIN) value

def CastAsInteger (value : VarlenValue) : Except CastException IntValue :=
  castFromVarchar Stoi.stoi .INTEGER "integer"
    (fun v => v > IntegerTypeId.INTEGER.PELOTON_MAX || v < IntegerTypeId.INTEGER.PELOTON_MIN) value

def CastAsBigInt (value : VarlenValue) : Except CastException IntValue :=
  castFromVarchar Stoi.stoll .BIGINT "bigint"
    (fun v => v > IntegerTypeId.BIGINT.PELOTON_MAX || v < IntegerTypeId.BIGINT.PELOTON_MIN) value

def timestampFormatError : CastException := .invalid "Timestamp format error."

def timestampOutOfRange : CastException := .typed .OUT_OF_RANGE "Timestamp value out of range."

def timestampDigitPositions : List Bool :=
  [true, true, true, true, false, true, true, false, true, true, false, true, true, false, true,
    true, false, true, true, false, true, true, true, true, true, true, false, true, true]

def max_day : List Nat := [0, 31, 28, 31, 30, 31, 30, 31, 31, 30, 31, 30, 31]

def max_day_lunar : List Nat := [0, 31, 29, 31, 30, 31, 30, 31, 31, 30, 31, 30, 31]

def field (str : List Char) (start len : Nat) : Nat := Stoi.accumulate ((str.drop start).take len)

-- The VARCHAR branch of CastAsTimestamp.
def CastAsTimestamp (value : VarlenValue) : Except CastException TimestampValue :=
  if SqlType.IsNull value then .ok ⟨PELOTON_TIMESTAMP_NULL⟩
  else
    let str := value.ToString.toList
    -- a string without microseconds gets ".000000" in front of its zone
    let str := if str.length = 22 then str.take 19 ++ ".000000".toList ++ (str.drop 19).take 3
      else str
    if str.length ≠ 29 then .error timestampFormatError
    else if str.getD 10 ' ' ≠ ' ' ∨ str.getD 4 ' ' ≠ '-' ∨ str.getD 7 ' ' ≠ '-' ∨
        str.getD 13 ' ' ≠ ':' ∨ str.getD 16 ' ' ≠ ':' ∨ str.getD 19 ' ' ≠ '.' ∨
        (str.getD 26 ' ' ≠ '+' ∧ str.getD 26 ' ' ≠ '-') then .error timestampFormatError
    else if !(List.zipWith (fun isDigit c => !isDigit || c.isDigit) timestampDigitPositions str).all id
    then .error timestampFormatError
    else
      let year := field str 0 4
      let month := field str 5 2
      let day := field str 8 2
      let hour := field str 11 2
      let min := field str 14 2
      let sec := field str 17 2
      let micro := field str 20 6
      let tz : Int := if str.getD 26 ' ' = '-' then -(field str 27 2 : Int) else field str 27 2
      if year > 9999 ∨ month > 12 ∨ day > 31 ∨ hour > 23 ∨ min > 59 ∨ sec > 59 ∨ micro > 999999 ∨
          day = 0 ∨ month = 0 then .error timestampOutOfRange
      else if ((year % 4 = 0 ∧ year % 100 ≠ 0) ∨ year % 400 = 0) ∧ day > max_day_lunar.getD month 0
      then .error timestampOutOfRange
      else if ¬((year % 4 = 0 ∧ year % 100 ≠ 0) ∨ year % 400 = 0) ∧ day > max_day.getD month 0
      then .error timestampOutOfRange
      else if tz > 26 then .error timestampFormatError
      else
        -- uint32_t timezone = tz + 12
        let timezone : UInt64 := (Int.toNat ((tz + 12) % 2 ^ 32)).toUInt64
        let res : UInt64 := month.toUInt64
        let res := res * 32 + day.toUInt64
        let res := res * 27 + timezone
        let res := res * 10000 + year.toUInt64
        let res := res * 100000 + (hour * 3600 + min * 60 + sec).toUInt64
        let res := res * 1000000 + micro.toUInt64
        .ok ⟨res⟩

section Cast

variable (parse : String → Except StdException Int) (t : IntegerTypeId) (typeName : String)
  (outOfRange : Int → Bool)

theorem castFromVarchar_of_ok {str : String} {n : Int} (parsed : parse str = .ok n) :
    castFromVarchar parse t typeName outOfRange ⟨some str⟩ =
      if outOfRange (wrapTo t.width n) then .error (.typed .OUT_OF_RANGE outOfRangeMessage)
      else .ok ⟨t, wrapTo t.width n⟩ := by
  have notNull : SqlType.IsNull (⟨some str⟩ : VarlenValue) = false := rfl
  simp only [castFromVarchar, notNull, VarlenValue.ToString, Option.getD_some, parsed]
  rfl

theorem castFromVarchar_of_out_of_range {str : String}
    (thrown : parse str = .error .out_of_range) :
    castFromVarchar parse t typeName outOfRange ⟨some str⟩ =
      .error (.typed .OUT_OF_RANGE outOfRangeMessage) := by
  have notNull : SqlType.IsNull (⟨some str⟩ : VarlenValue) = false := rfl
  simp only [castFromVarchar, notNull, VarlenValue.ToString, Option.getD_some, thrown]
  rfl

end Cast

theorem castFromVarchar_same_width_of_digits (t : IntegerTypeId) (typeName : String)
    (s : Stoi.Sign) (digits : List Char) (nonempty : digits ≠ [])
    (allDigits : ∀ c ∈ digits, c.isDigit = true) :
    castFromVarchar (Stoi.sto t.width) t typeName
        (fun v => v > t.PELOTON_MAX || v < t.PELOTON_MIN)
        ⟨some (String.ofList (s.chars ++ digits))⟩ =
      if t.PELOTON_MIN ≤ Stoi.signedValue s digits ∧ Stoi.signedValue s digits ≤ t.PELOTON_MAX
      then .ok ⟨t, Stoi.signedValue s digits⟩
      else .error (.typed .OUT_OF_RANGE outOfRangeMessage) := by
  have parsed := Stoi.strtol_signed s digits nonempty allDigits
  unfold IntegerTypeId.PELOTON_MIN IntegerTypeId.PELOTON_MAX
  by_cases fits : -2 ^ (t.width - 1) ≤ Stoi.signedValue s digits ∧
      Stoi.signedValue s digits < 2 ^ (t.width - 1)
  · rw [castFromVarchar_of_ok _ _ _ _ (Stoi.sto_of_fits parsed fits),
      wrapTo_eq_self t.width_pos fits.1 fits.2]
    by_cases inRange : -2 ^ (t.width - 1) + 1 ≤ Stoi.signedValue s digits ∧
        Stoi.signedValue s digits ≤ 2 ^ (t.width - 1) - 1
    · have accepted : (decide (Stoi.signedValue s digits > 2 ^ (t.width - 1) - 1) ||
          decide (Stoi.signedValue s digits < -2 ^ (t.width - 1) + 1)) = false := by
        simp only [Bool.or_eq_false_iff, decide_eq_false_iff_not]
        omega
      simp only [accepted, inRange, Bool.false_eq_true, if_false, and_self, if_true]
    · have rejected : (decide (Stoi.signedValue s digits > 2 ^ (t.width - 1) - 1) ||
          decide (Stoi.signedValue s digits < -2 ^ (t.width - 1) + 1)) = true := by
        simp only [Bool.or_eq_true, decide_eq_true_eq]
        omega
      simp only [rejected, inRange, if_true, if_false]
  · rw [castFromVarchar_of_out_of_range _ _ _ _ (Stoi.sto_of_not_fits parsed fits)]
    have rejected : ¬(-2 ^ (t.width - 1) + 1 ≤ Stoi.signedValue s digits ∧
        Stoi.signedValue s digits ≤ 2 ^ (t.width - 1) - 1) := by omega
    rw [if_neg rejected]

theorem castAsInteger_of_digits (s : Stoi.Sign) (digits : List Char) (nonempty : digits ≠ [])
    (allDigits : ∀ c ∈ digits, c.isDigit = true) :
    CastAsInteger ⟨some (String.ofList (s.chars ++ digits))⟩ =
      if IntegerTypeId.INTEGER.PELOTON_MIN ≤ Stoi.signedValue s digits ∧
          Stoi.signedValue s digits ≤ IntegerTypeId.INTEGER.PELOTON_MAX
      then .ok ⟨.INTEGER, Stoi.signedValue s digits⟩
      else .error (.typed .OUT_OF_RANGE outOfRangeMessage) :=
  castFromVarchar_same_width_of_digits .INTEGER "integer" s digits nonempty allDigits

theorem castAsBigInt_of_digits (s : Stoi.Sign) (digits : List Char) (nonempty : digits ≠ [])
    (allDigits : ∀ c ∈ digits, c.isDigit = true) :
    CastAsBigInt ⟨some (String.ofList (s.chars ++ digits))⟩ =
      if IntegerTypeId.BIGINT.PELOTON_MIN ≤ Stoi.signedValue s digits ∧
          Stoi.signedValue s digits ≤ IntegerTypeId.BIGINT.PELOTON_MAX
      then .ok ⟨.BIGINT, Stoi.signedValue s digits⟩
      else .error (.typed .OUT_OF_RANGE outOfRangeMessage) :=
  castFromVarchar_same_width_of_digits .BIGINT "bigint" s digits nonempty allDigits

theorem castAsInteger_toDecimalString (n : Int) :
    CastAsInteger ⟨some (toDecimalString n)⟩ =
      if IntegerTypeId.INTEGER.PELOTON_MIN ≤ n ∧ n ≤ IntegerTypeId.INTEGER.PELOTON_MAX
      then .ok ⟨.INTEGER, n⟩
      else .error (.typed .OUT_OF_RANGE outOfRangeMessage) := by
  have digits := castAsInteger_of_digits (Stoi.signOf n) (Nat.toDigits 10 n.natAbs)
    Nat.toDigits_ne_nil (fun _ mem => Nat.isDigit_of_mem_toDigits (by decide) (by decide) mem)
  rw [Stoi.signedValue_toDigits] at digits
  exact digits

theorem castAsSmallInt_of_digits (s : Stoi.Sign) (digits : List Char) (nonempty : digits ≠ [])
    (allDigits : ∀ c ∈ digits, c.isDigit = true)
    (fitsInt : -2 ^ 31 ≤ Stoi.signedValue s digits ∧ Stoi.signedValue s digits < 2 ^ 31) :
    CastAsSmallInt ⟨some (String.ofList (s.chars ++ digits))⟩ =
      if wrapTo 16 (Stoi.signedValue s digits) < IntegerTypeId.SMALLINT.PELOTON_MIN
      then .error (.typed .OUT_OF_RANGE outOfRangeMessage)
      else .ok ⟨.SMALLINT, wrapTo 16 (Stoi.signedValue s digits)⟩ := by
  have parsed := Stoi.strtol_signed s digits nonempty allDigits
  rw [CastAsSmallInt, castFromVarchar_of_ok Stoi.stoi .SMALLINT "smallint" _
    (Stoi.sto_of_fits (w := 32) parsed fitsInt)]
  simp only [decide_eq_true_eq]
  rfl

end ValueFactory

-- A signed digit string whose number lies past PELOTON_INT16_MAX but inside int casts to SMALLINT
-- without an exception, as that number modulo 2^16, which is another number.
theorem castAsSmallInt_wraps_past_max (s : Stoi.Sign) (digits : List Char)
    (nonempty : digits ≠ []) (allDigits : ∀ c ∈ digits, c.isDigit = true)
    (aboveMax : IntegerTypeId.SMALLINT.PELOTON_MAX < Stoi.signedValue s digits)
    (fitsInt : Stoi.signedValue s digits < 2 ^ 31)
    (notNull : wrapTo 16 (Stoi.signedValue s digits) ≠ IntegerTypeId.SMALLINT.PELOTON_NULL) :
    ValueFactory.CastAsSmallInt ⟨some (String.ofList (s.chars ++ digits))⟩ =
        .ok ⟨.SMALLINT, wrapTo 16 (Stoi.signedValue s digits)⟩ ∧
      wrapTo 16 (Stoi.signedValue s digits) ≠ Stoi.signedValue s digits := by
  have inside := wrapTo_bounds (by decide : 0 < 16) (Stoi.signedValue s digits)
  have smallMax : IntegerTypeId.SMALLINT.PELOTON_MAX = 32767 := by decide
  have smallMin : IntegerTypeId.SMALLINT.PELOTON_MIN = -32767 := by decide
  have smallNull : IntegerTypeId.SMALLINT.PELOTON_NULL = -32768 := by decide
  have halfRange : (2 : Int) ^ (16 - 1) = 32768 := by decide
  rw [smallMax] at aboveMax
  rw [smallNull] at notNull
  rw [halfRange] at inside
  have kept : ¬wrapTo 16 (Stoi.signedValue s digits) < IntegerTypeId.SMALLINT.PELOTON_MIN := by
    rw [smallMin]
    omega
  rw [ValueFactory.castAsSmallInt_of_digits s digits nonempty allDigits ⟨by omega, fitsInt⟩]
  exact ⟨by simp [kept], by omega⟩

theorem castAsSmallInt_wraps_past_max_forty_thousand :
    ValueFactory.CastAsSmallInt ⟨some (String.ofList (Stoi.Sign.none.chars ++ "40000".toList))⟩ =
        .ok ⟨.SMALLINT, wrapTo 16 (Stoi.signedValue .none "40000".toList)⟩ ∧
      wrapTo 16 (Stoi.signedValue .none "40000".toList) = -25536 ∧
      Stoi.signedValue .none "40000".toList = 40000 := by
  have chars : "40000".toList = ['4', '0', '0', '0', '0'] := by decide
  have value : Stoi.signedValue .none "40000".toList = 40000 := by decide
  have smallMax : IntegerTypeId.SMALLINT.PELOTON_MAX = 32767 := by decide
  exact ⟨(castAsSmallInt_wraps_past_max .none "40000".toList (by decide) (by simp [chars])
    (by rw [smallMax, value]; decide) (by decide) (by decide)).1, by decide, value⟩

end Peloton.Type
