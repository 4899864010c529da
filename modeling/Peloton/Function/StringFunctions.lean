import Peloton.Type.IntegerParentType

set_option autoImplicit false

/-!
# StringFunctions

The string functions the generated code calls. A VARCHAR reaches them as a pointer and a length;
the codegen operators pass the length with the terminating NUL counted, the unit tests pass it
without. A result is a StrWithLen whose length counts a terminator.
-/

namespace Peloton.Function

open Peloton.Type

/-- StrWithLen: where the result starts, as an offset into the input (none for nullptr), and its
length, terminator included. -/
structure StrWithLen where
  str : Option Nat
  length : Nat
  deriving DecidableEq, Repr

def StrWithLen.bytes (buffer : List UInt8) (result : StrWithLen) : List UInt8 :=
  match result.str with
  | none => []
  | some offset => (buffer.drop offset).take (result.length - 1)

def toUInt32 (n : Int) : Nat := (n % 2 ^ 32).toNat

namespace StringFunctions

/-! ## Substr -/

/-- Substr(str, str_length, from, len). -/
def Substr (str_length : Nat) («from» len : Int) : StrWithLen :=
  let signed_end := wrapTo 32 («from» + len - 1)
  if signed_end < 0 ∨ str_length = 0 then ⟨none, 0⟩
  else
    let begin := if 0 < «from» then («from» - 1).toNat else 0
    let end_ := min signed_end.toNat str_length
    if begin > end_ then ⟨none, 0⟩
    else ⟨some begin, (end_ - begin + 1) % 2 ^ 32⟩

def pgSubstring (s : List UInt8) («from» len : Int) : List UInt8 :=
  let first := max «from» 1
  let last := min («from» + len - 1) s.length
  (s.drop (first - 1).toNat).take (last - first + 1).toNat

/-- With the length of the unit tests, and a window end that int32 holds, Substr returns
PostgreSQL's substring, and its length counts the bytes and the terminator. -/
theorem substr_eq_pgSubstring (s : List UInt8) («from» len : Int) (nonneg : 0 ≤ len)
    (fits : -2 ^ 31 ≤ «from» + len - 1 ∧ «from» + len - 1 < 2 ^ 31)
    (short : s.length < 2 ^ 32 - 1) :
    (Substr s.length «from» len).bytes s = pgSubstring s «from» len ∧
      (pgSubstring s «from» len ≠ [] →
        (Substr s.length «from» len).length = (pgSubstring s «from» len).length + 1) := by
  have exact : wrapTo 32 («from» + len - 1) = «from» + len - 1 :=
    wrapTo_eq_self (by decide) (by simpa using fits.1) (by simpa using fits.2)
  unfold Substr pgSubstring
  have begin_eq : (if 0 < «from» then («from» - 1).toNat else 0) = (max «from» 1 - 1).toNat := by
    split <;> omega
  simp only [exact, begin_eq]
  by_cases empty : «from» + len - 1 < 0 ∨ s.length = 0
  · -- the window ends before the string starts, or there is no string
    rw [if_pos empty]
    rcases empty with before | none
    · have : min («from» + len - 1) s.length - max «from» 1 + 1 ≤ 0 := by omega
      simp [StrWithLen.bytes, Int.toNat_of_nonpos this]
    · simp [StrWithLen.bytes, List.eq_nil_of_length_eq_zero none]
  · rw [if_neg empty]
    simp only [not_or] at empty
    have end_eq : min («from» + len - 1).toNat s.length =
        (min («from» + len - 1) s.length).toNat := by omega
    rw [end_eq]
    by_cases past : (max «from» 1 - 1).toNat > (min («from» + len - 1) s.length).toNat
    · -- the window starts after it ends or after the string
      rw [if_pos past]
      have : min («from» + len - 1) s.length - max «from» 1 + 1 ≤ 0 := by omega
      simp [StrWithLen.bytes, Int.toNat_of_nonpos this]
    · rw [if_neg past]
      have count : (min («from» + len - 1) s.length - max «from» 1 + 1).toNat =
          (min («from» + len - 1) s.length).toNat - (max «from» 1 - 1).toNat := by omega
      have below : (min («from» + len - 1) s.length).toNat - (max «from» 1 - 1).toNat + 1 <
          2 ^ 32 := by omega
      rw [Nat.mod_eq_of_lt below, count]
      refine ⟨by simp [StrWithLen.bytes], fun _ => ?_⟩
      simp only [List.length_take, List.length_drop]
      omega

theorem substr_eq_pgSubstring_of_hello :
    (Substr 5 2 3).bytes [104, 101, 108, 108, 111] = pgSubstring [104, 101, 108, 108, 111] 2 3 ∧
      (pgSubstring [104, 101, 108, 108, 111] 2 3 ≠ [] →
        (Substr 5 2 3).length = (pgSubstring [104, 101, 108, 108, 111] 2 3).length + 1) :=
  substr_eq_pgSubstring [104, 101, 108, 108, 111] 2 3 (by decide) (by decide) (by decide)

/-- Two inputs where Substr departs from substring. Called as the codegen operator calls it, with
the length of "abc" counting its NUL, the window 1 .. 10 returns the NUL as a fourth byte. And
substring("abc" from 2 for 2147483647) is "bc", but 2 + 2147483647 - 1 overflows int32 to a
negative end, so Substr returns nothing. -/
theorem substr_returns_terminator_and_overflows :
    (Substr 4 1 10).bytes [97, 98, 99, 0] = [97, 98, 99, 0] ∧
      pgSubstring [97, 98, 99] 1 10 = [97, 98, 99] ∧
      Substr 3 2 2147483647 = ⟨none, 0⟩ ∧
      pgSubstring [97, 98, 99] 2 2147483647 = [98, 99] :=
  ⟨by decide, by decide, by decide, by decide⟩

/-! ## Repeat -/

def repeatLoop (chunk : List UInt8) : Nat → List UInt8
  | 0 => []
  | num_repeat + 1 => chunk ++ repeatLoop chunk num_repeat

/-- Repeat(str, length, num_repeat): the size it allocates, ((length - 1) * num_repeat) + 1 in
uint32 arithmetic, and the bytes its loop writes into that allocation. -/
def Repeat (str : List UInt8) (length num_repeat : Nat) : Nat × List UInt8 :=
  -- length - 1 is a uint32 expression too
  let chars := (length + (2 ^ 32 - 1)) % 2 ^ 32
  let total_len := (chars * num_repeat + 1) % 2 ^ 32
  (total_len, repeatLoop (str.take chars) num_repeat)

@[simp] theorem length_repeatLoop (chunk : List UInt8) (num_repeat : Nat) :
    (repeatLoop chunk num_repeat).length = num_repeat * chunk.length := by
  induction num_repeat with
  | zero => simp [repeatLoop]
  | succ num_repeat ih => simp [repeatLoop, ih, Nat.succ_mul, Nat.add_comm]

theorem repeat_of_no_wrap (chars : List UInt8) (num_repeat : Nat)
    (short : chars.length + 1 < 2 ^ 32) (fits : chars.length * num_repeat + 1 < 2 ^ 32) :
    Repeat (chars ++ [0]) (chars.length + 1) num_repeat =
        (chars.length * num_repeat + 1, repeatLoop chars num_repeat) ∧
      (repeatLoop chars num_repeat).length + 1 = chars.length * num_repeat + 1 := by
  have charCount : (chars.length + 1 + (2 ^ 32 - 1)) % 2 ^ 32 = chars.length := by omega
  refine ⟨?_, by simp [Nat.mul_comm]⟩
  simp only [Repeat, charCount, List.take_left', Nat.mod_eq_of_lt fits]

/-- SQL REPEAT('a', -1): the count reaches Repeat as 4294967295, the size (1 * 4294967295) + 1
wraps to 0, and the loop still writes 4294967295 bytes. -/
theorem repeat_count_wraps_allocation :
    toUInt32 (-1) = 4294967295 ∧
      (Repeat [97, 0] 2 (toUInt32 (-1))).1 = 0 ∧
      (Repeat [97, 0] 2 (toUInt32 (-1))).2.length = 4294967295 := by
  have count : toUInt32 (-1) = 4294967295 := by decide
  refine ⟨count, ?_, ?_⟩
  · rw [count]
    rfl
  · rw [count]
    simp [Repeat]

end StringFunctions

end Peloton.Function
