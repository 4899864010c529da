import Mathlib

set_option autoImplicit false

/-!
Decimal texts of exact rationals as the C and C++ libraries write and read doubles: printf's
%g at its default precision of six significant digits (what an ostream also writes for a
double), the extraction of a double from an istream (libstdc++ with the GNU locale), and the
round-to-nearest-even binary64 value that the extraction stores.
-/

namespace DecimalText

/-! ## Rounding -/

def roundHalfEven (r : ℚ) : ℕ :=
  if r - ⌊r⌋₊ < 1 / 2 then ⌊r⌋₊
  else if 1 / 2 < r - ⌊r⌋₊ then ⌊r⌋₊ + 1
  else if ⌊r⌋₊ % 2 = 0 then ⌊r⌋₊ else ⌊r⌋₊ + 1

theorem roundHalfEven_natCast (n : ℕ) : roundHalfEven n = n := by
  simp [roundHalfEven]

theorem roundHalfEven_cases (r : ℚ) :
    roundHalfEven r = ⌊r⌋₊ ∨ (roundHalfEven r = ⌊r⌋₊ + 1 ∧ 1 / 2 ≤ r - ⌊r⌋₊) := by
  unfold roundHalfEven
  split
  · exact Or.inl rfl
  split
  next _ above => exact Or.inr ⟨rfl, above.le⟩
  split
  · exact Or.inl rfl
  next below _ _ => exact Or.inr ⟨rfl, not_lt.mp below⟩

theorem le_roundHalfEven {r : ℚ} {n : ℕ} (h : (n : ℚ) ≤ r) : n ≤ roundHalfEven r := by
  have floor : n ≤ ⌊r⌋₊ := Nat.le_floor h
  rcases roundHalfEven_cases r with same | ⟨up, -⟩
  · rw [same]
    exact floor
  · rw [up]
    exact floor.trans (Nat.le_succ _)

theorem roundHalfEven_le {r : ℚ} {n : ℕ} (h : r < n + 1 / 2) : roundHalfEven r ≤ n := by
  have nonneg : (0 : ℚ) ≤ n := Nat.cast_nonneg n
  rcases roundHalfEven_cases r with same | ⟨up, half⟩
  · rw [same]
    exact Nat.le_of_lt_succ ((Nat.floor_lt' (Nat.succ_ne_zero n)).mpr (by push_cast; linarith))
  · rw [up]
    by_contra past
    have : (n : ℚ) ≤ ⌊r⌋₊ := by exact_mod_cast (show n ≤ ⌊r⌋₊ by omega)
    linarith

theorem roundHalfEven_of_half_lt {r : ℚ} (above : 1 / 2 < r - ⌊r⌋₊) :
    roundHalfEven r = ⌊r⌋₊ + 1 := by
  rw [roundHalfEven, if_neg (not_lt.mpr above.le), if_pos above]

def DBL_MAX : ℚ := (2 ^ 53 - 1) * 2 ^ 971

def roundToDouble (q : ℚ) : ℚ :=
  if q = 0 then 0
  else
    let E := max (Int.log 2 |q|) (-1022) - 52
    (if q < 0 then -1 else 1) * (roundHalfEven (|q| / 2 ^ E) * 2 ^ E)

theorem roundToDouble_zero : roundToDouble 0 = 0 := by simp [roundToDouble]

theorem spacing_le_zero {q : ℚ} (pos : 0 < q) (small : q < 2 ^ 53) :
    max (Int.log 2 q) (-1022) - 52 ≤ 0 := by
  have log : Int.log 2 q < 53 :=
    (Int.lt_zpow_iff_log_lt (b := 2) (by norm_num) pos).mp (by exact_mod_cast small)
  omega

theorem roundToDouble_intCast (n : ℤ) (small : |n| < 2 ^ 53) : roundToDouble n = n := by
  rcases eq_or_ne n 0 with rfl | nonzero
  · simp [roundToDouble]
  have pos : (0 : ℚ) < |(n : ℚ)| := by positivity
  have spacing := spacing_le_zero pos (by exact_mod_cast small)
  unfold roundToDouble
  rw [if_neg (by exact_mod_cast nonzero)]
  dsimp only
  generalize max (Int.log 2 |(n : ℚ)|) (-1022) - 52 = E at spacing ⊢
  obtain ⟨k, rfl⟩ : ∃ k : ℕ, E = -k := ⟨(-E).toNat, by omega⟩
  -- |n| * 2^k is a whole number, which rounding leaves alone
  have whole : |(n : ℚ)| / 2 ^ (-(k : ℤ)) = ((n.natAbs * 2 ^ k : ℕ) : ℚ) := by
    rw [zpow_neg, zpow_natCast, div_inv_eq_mul, Nat.cast_mul, Nat.cast_pow, Nat.cast_ofNat,
      Nat.cast_natAbs, Int.cast_abs]
  rw [whole, roundHalfEven_natCast, Nat.cast_mul, Nat.cast_pow, Nat.cast_natAbs, zpow_neg,
    zpow_natCast, Int.cast_abs, Nat.cast_ofNat, mul_assoc, mul_inv_cancel₀ (by positivity), mul_one]
  split
  next negative => rw [abs_of_neg negative]; ring
  next nonneg => rw [abs_of_nonneg (not_lt.mp nonneg)]; ring

theorem roundToDouble_natCast (n : ℕ) (small : n < 2 ^ 53) : roundToDouble n = n := by
  have read := roundToDouble_intCast n (by rw [abs_of_nonneg (by positivity)]; exact_mod_cast small)
  rwa [Int.cast_natCast] at read

theorem roundToDouble_of_binade {q : ℚ} {k : ℤ} (lo : 2 ^ k ≤ q) (hi : q < 2 ^ (k + 1))
    (normal : -1022 ≤ k) : roundToDouble q = roundHalfEven (q / 2 ^ (k - 52)) * 2 ^ (k - 52) := by
  have pos : 0 < q := lt_of_lt_of_le (zpow_pos (by norm_num) k) lo
  have above : k ≤ Int.log 2 q :=
    (Int.zpow_le_iff_le_log (by norm_num) pos).mp (by exact_mod_cast lo)
  have below : Int.log 2 q < k + 1 :=
    (Int.lt_zpow_iff_log_lt (by norm_num) pos).mp (by exact_mod_cast hi)
  rw [roundToDouble, if_neg pos.ne', abs_of_pos pos, if_neg (not_lt.mpr pos.le), one_mul,
    show Int.log 2 q = k by omega, max_eq_left normal]

theorem DBL_MAX_lt : DBL_MAX < 2 ^ 1024 := by
  rw [DBL_MAX, show (2 : ℚ) ^ 1024 = 2 ^ 53 * 2 ^ 971 by rw [← pow_add]]
  exact mul_lt_mul_of_pos_right (by norm_num) (by positivity)

theorem two_pow_le_DBL_MAX : (2 : ℚ) ^ 1023 ≤ DBL_MAX := by
  rw [DBL_MAX, show (2 : ℚ) ^ 1023 = 2 ^ 52 * 2 ^ 971 by rw [← pow_add]]
  exact mul_le_mul_of_nonneg_right (by norm_num) (by positivity)

theorem DBL_MAX_pos : 0 < DBL_MAX := lt_of_lt_of_le (by positivity) two_pow_le_DBL_MAX

theorem le_DBL_MAX_of_le_two_pow {q : ℚ} {k : ℕ} (h : q ≤ 2 ^ k) (small : k ≤ 1023) :
    q ≤ DBL_MAX :=
  (h.trans (pow_le_pow_right₀ (by norm_num) small)).trans two_pow_le_DBL_MAX

theorem abs_roundToDouble_le {q : ℚ} (finite : |q| ≤ DBL_MAX) : |roundToDouble q| ≤ DBL_MAX := by
  rcases eq_or_ne q 0 with rfl | nonzero
  · rw [roundToDouble_zero, abs_zero]
    exact DBL_MAX_pos.le
  have pos : 0 < |q| := abs_pos.mpr nonzero
  have log : Int.log 2 |q| < 1024 :=
    (Int.lt_zpow_iff_log_lt (b := 2) (by norm_num) pos).mp
      (by exact_mod_cast finite.trans_lt DBL_MAX_lt)
  have below := Int.lt_zpow_succ_log_self (b := 2) (by norm_num) |q|
  unfold roundToDouble
  rw [if_neg nonzero]
  dsimp only
  generalize hE : max (Int.log 2 |q|) (-1022) - 52 = E
  have spacing : (0 : ℚ) < 2 ^ E := zpow_pos (by norm_num) E
  -- the scaled value stays below 2^53, so the significand is at most 2^53
  have scaled : |q| / 2 ^ E < 2 ^ 53 := by
    rw [div_lt_iff₀ spacing]
    calc |q| < (2 : ℚ) ^ (Int.log 2 |q| + 1) := by exact_mod_cast below
      _ ≤ 2 ^ (E + 53) := zpow_le_zpow_right₀ (by norm_num) (by omega)
      _ = 2 ^ 53 * 2 ^ E := by rw [zpow_add₀ (by norm_num), mul_comm]; rfl
  have significand : roundHalfEven (|q| / 2 ^ E) ≤ 2 ^ 53 :=
    roundHalfEven_le (by push_cast; linarith)
  have sign : |(if q < 0 then (-1 : ℚ) else 1)| = 1 := by split <;> simp
  rw [abs_mul, sign, one_mul, abs_of_nonneg (by positivity)]
  by_cases top : E = 971
  · -- in the top binade the significand is at most 2^53 - 1, that of DBL_MAX
    subst top
    have cast : ((2 ^ 53 - 1 : ℕ) : ℚ) = 2 ^ 53 - 1 := by norm_num
    have within : |q| / 2 ^ (971 : ℤ) < (2 ^ 53 - 1 : ℕ) + 1 / 2 := by
      rw [div_lt_iff₀ spacing, cast]
      calc |q| ≤ DBL_MAX := finite
        _ < (2 ^ 53 - 1 + 1 / 2) * 2 ^ (971 : ℤ) := by
          rw [DBL_MAX, zpow_ofNat]
          exact mul_lt_mul_of_pos_right (by norm_num) (by positivity)
    have top := roundHalfEven_le within
    calc (roundHalfEven (|q| / 2 ^ (971 : ℤ)) : ℚ) * 2 ^ (971 : ℤ)
        ≤ ((2 ^ 53 - 1 : ℕ) : ℚ) * 2 ^ (971 : ℤ) :=
          mul_le_mul_of_nonneg_right (by exact_mod_cast top) spacing.le
      _ = DBL_MAX := by rw [DBL_MAX, zpow_ofNat, cast]
  · calc (roundHalfEven (|q| / 2 ^ E) : ℚ) * 2 ^ E ≤ 2 ^ 53 * 2 ^ E := by
          gcongr
          exact_mod_cast significand
      _ = 2 ^ (E + 53) := by rw [zpow_add₀ (by norm_num), mul_comm]; rfl
      _ ≤ 2 ^ (1023 : ℤ) := zpow_le_zpow_right₀ (by norm_num) (by omega)
      _ ≤ DBL_MAX := by rw [zpow_ofNat]; exact two_pow_le_DBL_MAX

theorem DBL_MAX_natCast : (((2 ^ 53 - 1) * 2 ^ 971 : ℕ) : ℚ) = DBL_MAX := by
  rw [DBL_MAX, Nat.cast_mul, Nat.cast_pow, Nat.cast_sub Nat.one_le_two_pow, Nat.cast_pow,
    Nat.cast_one, Nat.cast_ofNat]

theorem ten_pow_le_DBL_MAX : (10 : ℚ) ^ 308 ≤ DBL_MAX := by
  have h : ((10 ^ 308 : ℕ) : ℚ) ≤ (((2 ^ 53 - 1) * 2 ^ 971 : ℕ) : ℚ) :=
    Nat.cast_le.mpr (by decide +kernel)
  rwa [DBL_MAX_natCast, Nat.cast_pow, Nat.cast_ofNat] at h

theorem DBL_MAX_lt_ten_pow : DBL_MAX < (10 : ℚ) ^ 309 := by
  have h : (((2 ^ 53 - 1) * 2 ^ 971 : ℕ) : ℚ) < ((10 ^ 309 : ℕ) : ℚ) :=
    Nat.cast_lt.mpr (by decide +kernel)
  rwa [DBL_MAX_natCast, Nat.cast_pow, Nat.cast_ofNat] at h

theorem six_digits_le_DBL_MAX : (179769 : ℚ) * 10 ^ 303 ≤ DBL_MAX := by
  have h : ((179769 * 10 ^ 303 : ℕ) : ℚ) ≤ (((2 ^ 53 - 1) * 2 ^ 971 : ℕ) : ℚ) :=
    Nat.cast_le.mpr (by decide +kernel)
  rwa [DBL_MAX_natCast, Nat.cast_mul, Nat.cast_pow, Nat.cast_ofNat, Nat.cast_ofNat] at h

theorem DBL_MAX_lt_six_digits : DBL_MAX < ((179769 : ℕ) + 1 / 2) * (10 : ℚ) ^ 303 := by
  have h : ((2 * ((2 ^ 53 - 1) * 2 ^ 971) : ℕ) : ℚ) < ((359539 * 10 ^ 303 : ℕ) : ℚ) :=
    Nat.cast_lt.mpr (by decide +kernel)
  rw [Nat.cast_mul, DBL_MAX_natCast, Nat.cast_mul, Nat.cast_pow, Nat.cast_ofNat, Nat.cast_ofNat,
    Nat.cast_ofNat] at h
  rw [show ((179769 : ℕ) + 1 / 2 : ℚ) = 359539 / 2 by norm_num, div_mul_eq_mul_div,
    lt_div_iff₀ two_pos, mul_comm]
  exact h

/-! ## printf's %g -/

def digitText (n : ℕ) : List Char := Nat.toDigits 10 n

def sixDigits (a : ℚ) : ℕ × ℤ :=
  let X := Int.log 10 a
  let M := roundHalfEven (a / 10 ^ (X - 5))
  if M = 10 ^ 6 then (10 ^ 5, X + 1) else (M, X)

def sixDigitValue (q : ℚ) : ℚ :=
  if q = 0 then 0
  else (if q < 0 then -1 else 1) * ((sixDigits |q|).1 * 10 ^ ((sixDigits |q|).2 - 5))

theorem scaled_mem_Ico {a : ℚ} (pos : 0 < a) :
    ((10 ^ 5 : ℕ) : ℚ) ≤ a / 10 ^ (Int.log 10 a - 5) ∧
      a / 10 ^ (Int.log 10 a - 5) < ((10 ^ 6 : ℕ) : ℚ) := by
  have lo : (10 : ℚ) ^ Int.log 10 a ≤ a := by exact_mod_cast Int.zpow_log_le_self (by norm_num) pos
  have hi : a < (10 : ℚ) ^ (Int.log 10 a + 1) := by
    exact_mod_cast Int.lt_zpow_succ_log_self (by norm_num) a
  generalize Int.log 10 a = X at lo hi
  have scale : (0 : ℚ) < 10 ^ (X - 5) := zpow_pos (by norm_num) _
  have shift (k : ℕ) : ((10 ^ k : ℕ) : ℚ) * 10 ^ (X - 5) = 10 ^ (X - 5 + k) := by
    rw [zpow_add₀ (by norm_num), zpow_natCast, Nat.cast_pow, Nat.cast_ofNat, mul_comm]
  constructor
  · rw [le_div_iff₀ scale, shift, show X - 5 + ((5 : ℕ) : ℤ) = X by omega]
    exact lo
  · rw [div_lt_iff₀ scale, shift, show X - 5 + ((6 : ℕ) : ℤ) = X + 1 by omega]
    exact hi

theorem sixDigits_mem_Ico {a : ℚ} (pos : 0 < a) :
    10 ^ 5 ≤ (sixDigits a).1 ∧ (sixDigits a).1 < 10 ^ 6 := by
  obtain ⟨lo, hi⟩ := scaled_mem_Ico pos
  have above := le_roundHalfEven lo
  have below : roundHalfEven (a / 10 ^ (Int.log 10 a - 5)) ≤ 10 ^ 6 :=
    roundHalfEven_le (hi.trans (by linarith))
  unfold sixDigits
  dsimp only
  split
  · exact ⟨le_rfl, by norm_num⟩
  · omega

theorem sixDigits_value {a : ℚ} :
    ((sixDigits a).1 : ℚ) * 10 ^ ((sixDigits a).2 - 5) =
      roundHalfEven (a / 10 ^ (Int.log 10 a - 5)) * 10 ^ (Int.log 10 a - 5) := by
  unfold sixDigits
  dsimp only
  split
  next carry =>
    rw [carry, show Int.log 10 a + 1 - 5 = Int.log 10 a - 5 + 1 by ring, zpow_add₀ (by norm_num)]
    push_cast
    ring
  · rfl

theorem abs_sixDigitValue_le {q : ℚ} (finite : |q| ≤ DBL_MAX) : |sixDigitValue q| ≤ DBL_MAX := by
  rcases eq_or_ne q 0 with rfl | nonzero
  · simpa [sixDigitValue] using DBL_MAX_pos.le
  have pos : 0 < |q| := abs_pos.mpr nonzero
  have sign : |(if q < 0 then (-1 : ℚ) else 1)| = 1 := by split <;> simp
  unfold sixDigitValue
  rw [if_neg nonzero, abs_mul, sign, one_mul, sixDigits_value, abs_of_nonneg (by positivity)]
  have lo : (10 : ℚ) ^ Int.log 10 |q| ≤ |q| := by
    exact_mod_cast Int.zpow_log_le_self (by norm_num) pos
  have hi := (scaled_mem_Ico pos).2
  generalize Int.log 10 |q| = X at lo hi
  have scale : (0 : ℚ) < 10 ^ (X - 5) := zpow_pos (by norm_num) _
  rcases lt_trichotomy X 308 with low | rfl | high
  · -- below the top decade the rounding stays under 10^(X+1) ≤ 10^308
    have significand : roundHalfEven (|q| / 10 ^ (X - 5)) ≤ 10 ^ 6 :=
      roundHalfEven_le (hi.trans (by linarith))
    calc (roundHalfEven (|q| / 10 ^ (X - 5)) : ℚ) * 10 ^ (X - 5)
        ≤ ((10 ^ 6 : ℕ) : ℚ) * 10 ^ (X - 5) := by gcongr
      _ = 10 ^ (X - 5 + 6) := by
        rw [zpow_add₀ (by norm_num), Nat.cast_pow, Nat.cast_ofNat, mul_comm]; rfl
      _ ≤ 10 ^ (308 : ℤ) := zpow_le_zpow_right₀ (by norm_num) (by omega)
      _ ≤ DBL_MAX := by rw [zpow_ofNat]; exact ten_pow_le_DBL_MAX
  · -- in the top decade the six digits are at most 179769, those of DBL_MAX
    have within : |q| / 10 ^ ((308 : ℤ) - 5) < (179769 : ℕ) + 1 / 2 := by
      rw [div_lt_iff₀ scale, show (308 : ℤ) - 5 = (303 : ℕ) from rfl, zpow_natCast]
      exact finite.trans_lt DBL_MAX_lt_six_digits
    calc (roundHalfEven (|q| / 10 ^ ((308 : ℤ) - 5)) : ℚ) * 10 ^ ((308 : ℤ) - 5)
        ≤ (179769 : ℕ) * 10 ^ ((308 : ℤ) - 5) := by
          gcongr
          exact_mod_cast roundHalfEven_le within
      _ ≤ DBL_MAX := by
        rw [show (308 : ℤ) - 5 = (303 : ℕ) from rfl, zpow_natCast, Nat.cast_ofNat]
        exact six_digits_le_DBL_MAX
  · -- a decade past 308 lies past DBL_MAX
    have : (10 : ℚ) ^ (309 : ℤ) ≤ 10 ^ X := zpow_le_zpow_right₀ (by norm_num) (by omega)
    rw [zpow_ofNat] at this
    exact absurd (this.trans (lo.trans finite)) (not_le.mpr DBL_MAX_lt_ten_pow)

theorem isDigit_of_mem_digitText {n : ℕ} {c : Char} (h : c ∈ digitText n) : c.isDigit :=
  Nat.isDigit_of_mem_toDigits (by norm_num) (by norm_num) h

@[simp]
theorem ofDigitChars_digitText (n : ℕ) : Nat.ofDigitChars 10 (digitText n) 0 = n :=
  Nat.ofDigitChars_ten_toDigits

theorem length_digitText {n : ℕ} (lo : 10 ^ 5 ≤ n) (hi : n < 10 ^ 6) : (digitText n).length = 6 := by
  unfold digitText
  have atMost := (Nat.length_toDigits_le_iff (by norm_num) (by norm_num)).mpr hi
  have notBelow : ¬(Nat.toDigits 10 n).length ≤ 5 := by
    rw [Nat.length_toDigits_le_iff (by norm_num) (by norm_num)]
    omega
  omega

def stripZeros (f : List Char) : List Char := (f.reverse.dropWhile (· == '0')).reverse

theorem stripZeros_append_zeros (f : List Char) :
    ∃ k, stripZeros f ++ List.replicate k '0' = f := by
  -- what dropWhile takes off the reversed fraction is a run of zeros
  obtain ⟨k, zeros⟩ : ∃ k, f.reverse.takeWhile (· == '0') = List.replicate k '0' :=
    ⟨_, List.eq_replicate_iff.mpr ⟨rfl, fun c hc => by simpa using List.mem_takeWhile_imp hc⟩⟩
  have whole := @List.takeWhile_append_dropWhile _ (· == '0') f.reverse
  rw [zeros] at whole
  refine ⟨k, ?_⟩
  calc stripZeros f ++ List.replicate k '0'
      = (List.replicate k '0' ++ f.reverse.dropWhile (· == '0')).reverse := by
        rw [List.reverse_append, List.reverse_replicate]
        rfl
    _ = f := by rw [whole, List.reverse_reverse]

theorem mem_of_mem_stripZeros {f : List Char} {c : Char} (h : c ∈ stripZeros f) : c ∈ f := by
  obtain ⟨k, whole⟩ := stripZeros_append_zeros f
  rw [← whole]
  exact List.mem_append_left _ h

theorem ofDigitChars_stripZeros (ints f : List Char) (e : ℤ) :
    (Nat.ofDigitChars 10 (ints ++ stripZeros f) 0 : ℚ) * 10 ^ (e - (stripZeros f).length) =
      Nat.ofDigitChars 10 (ints ++ f) 0 * 10 ^ (e - f.length) := by
  obtain ⟨k, whole⟩ := stripZeros_append_zeros f
  conv_rhs => rw [← whole, ← List.append_assoc, Nat.ofDigitChars_append,
    Nat.ofDigitChars_replicate_zero, List.length_append, List.length_replicate]
  generalize (stripZeros f).length = L
  have shift : (10 : ℚ) ^ (e - L) = 10 ^ k * 10 ^ (e - ↑(L + k)) := by
    rw [← zpow_natCast, ← zpow_add₀ (by norm_num)]
    congr 1
    push_cast
    ring
  rw [shift]
  push_cast
  ring

def pointFraction (f : List Char) : List Char :=
  if stripZeros f = [] then [] else '.' :: stripZeros f

def exponentText (X : ℤ) : List Char :=
  (if X < 0 then '-' else '+') ::
    (if X.natAbs < 10 then '0' :: digitText X.natAbs else digitText X.natAbs)

def formatG (x : ℚ) : List Char :=
  if x = 0 then ['0']
  else
    let M := (sixDigits |x|).1
    let X := (sixDigits |x|).2
    let D := digitText M
    (if x < 0 then ['-'] else []) ++
      if X < -4 ∨ 6 ≤ X then D.take 1 ++ pointFraction (D.drop 1) ++ 'e' :: exponentText X
      else if 0 ≤ X then D.take (X.toNat + 1) ++ pointFraction (D.drop (X.toNat + 1))
      else '0' :: pointFraction (List.replicate ((-X).toNat - 1) '0' ++ D)

def toStringInt (v : ℤ) : List Char := (if v < 0 then ['-'] else []) ++ digitText v.natAbs

/-! ## Reading a double from an istream -/

def isSpace (c : Char) : Bool :=
  c == ' ' || c == '\t' || c == '\n' || c == '\x0b' || c == '\x0c' || c == '\r'

def decimalValue (negative : Bool) (digits : List Char) (e : ℤ) : ℚ :=
  (if negative then -1 else 1) * (Nat.ofDigitChars 10 digits 0 * 10 ^ e)

def scanSign : List Char → Bool × List Char
  | '-' :: cs => (true, cs)
  | '+' :: cs => (false, cs)
  | cs => (false, cs)

def scanFraction : List Char → List Char × List Char
  | '.' :: cs => cs.span Char.isDigit
  | cs => ([], cs)

def scanExponent : List Char → Option (ℤ × List Char)
  | c :: cs =>
    if c = 'e' ∨ c = 'E' then
      let sign := scanSign cs
      let digits := sign.2.span Char.isDigit
      if digits.1 = [] then none
      else some ((if sign.1 then -1 else 1) * Nat.ofDigitChars 10 digits.1 0, digits.2)
    else some (0, c :: cs)
  | [] => some (0, [])

def scanDouble (cs : List Char) : Option (ℚ × List Char) :=
  let sign := scanSign (cs.dropWhile isSpace)
  let int := sign.2.span Char.isDigit
  let frac := scanFraction int.2
  if int.1 ++ frac.1 = [] then none
  else
    match scanExponent frac.2 with
    | none => none
    | some (e, rest) =>
      let d := roundToDouble (decimalValue sign.1 (int.1 ++ frac.1) (e - frac.1.length))
      if DBL_MAX < |d| then none else some (d, rest)

theorem length_span {α : Type} (p : α → Bool) (l : List α) :
    (l.span p).1.length + (l.span p).2.length = l.length := by
  rw [List.span_eq_takeWhile_dropWhile, ← List.length_append, List.takeWhile_append_dropWhile]

theorem length_scanSign_le (cs : List Char) : (scanSign cs).2.length ≤ cs.length := by
  unfold scanSign
  split <;> simp

theorem length_scanFraction_le (cs : List Char) :
    (scanFraction cs).1.length + (scanFraction cs).2.length ≤ cs.length := by
  unfold scanFraction
  split
  · rw [length_span, List.length_cons]
    omega
  · simp

theorem length_of_scanExponent {cs rest : List Char} {e : ℤ}
    (h : scanExponent cs = some (e, rest)) : rest.length ≤ cs.length := by
  unfold scanExponent at h
  split at h
  next c cs =>
    split at h
    · dsimp only at h
      split at h
      · cases h
      · cases h
        have := length_span Char.isDigit (scanSign cs).2
        have := length_scanSign_le cs
        rw [List.length_cons]
        omega
    · cases h
      rfl
  · cases h
    rfl

theorem length_of_scanDouble {cs rest : List Char} {d : ℚ} (h : scanDouble cs = some (d, rest)) :
    rest.length < cs.length := by
  unfold scanDouble at h
  dsimp only at h
  split at h
  · cases h
  next digits =>
    split at h
    · cases h
    next e after exponent =>
      split at h
      · cases h
      · cases h
        have skip := List.length_dropWhile_le isSpace cs
        have sign := length_scanSign_le (cs.dropWhile isSpace)
        have int := length_span Char.isDigit (scanSign (cs.dropWhile isSpace)).2
        have frac := length_scanFraction_le ((scanSign (cs.dropWhile isSpace)).2.span Char.isDigit).2
        have exp := length_of_scanExponent exponent
        have some : 0 < (((scanSign (cs.dropWhile isSpace)).2.span Char.isDigit).1 ++
            (scanFraction ((scanSign (cs.dropWhile isSpace)).2.span Char.isDigit).2).1).length :=
          List.length_pos_iff.mpr digits
        rw [List.length_append] at some
        omega

/-! ## What the reader makes of the texts %g and to_string write -/

def Separated (rest : List Char) : Prop := ∀ c ∈ rest.head?, c = ','

theorem separated_nil : Separated [] := fun _ hc => by cases hc

theorem separated_comma (cs : List Char) : Separated (',' :: cs) :=
  fun _ hc => (Option.some_inj.mp hc).symm

theorem Separated.stop {rest : List Char} (sep : Separated rest) :
    ∀ c ∈ rest.head?, c.isDigit = false ∧ c ≠ '.' := by
  intro c hc
  rw [sep c hc]
  decide

theorem Separated.scanExponent {rest : List Char} (sep : Separated rest) :
    scanExponent rest = some (0, rest) := by
  cases rest with
  | nil => rfl
  | cons c cs =>
    have comma : c = ',' := sep c rfl
    subst comma
    rfl

theorem isSpace_of_isDigit {c : Char} (digit : c.isDigit) : isSpace c = false := by
  unfold isSpace
  by_contra space
  simp only [Bool.not_eq_false, Bool.or_eq_true, beq_iff_eq] at space
  rcases space with (((((rfl | rfl) | rfl) | rfl) | rfl) | rfl) <;> revert digit <;> decide

theorem span_digits_append {ds rest : List Char} (digits : ∀ c ∈ ds, c.isDigit)
    (stop : ∀ c ∈ rest.head?, c.isDigit = false) : (ds ++ rest).span Char.isDigit = (ds, rest) := by
  rw [List.span_eq_takeWhile_dropWhile, List.takeWhile_append_of_pos digits,
    List.dropWhile_append_of_pos digits]
  cases rest with
  | nil => simp
  | cons c cs =>
    have notDigit : ¬c.isDigit = true := by simp [stop c rfl]
    rw [List.takeWhile_cons_of_neg notDigit, List.dropWhile_cons_of_neg notDigit, List.append_nil]

theorem scanSign_signText (negative : Bool) {c : Char} {cs : List Char} (digit : c.isDigit) :
    scanSign (((if negative then ['-'] else []) ++ c :: cs).dropWhile isSpace) = (negative, c :: cs) := by
  cases negative with
  | true => rfl
  | false =>
    rw [if_neg Bool.false_ne_true, List.nil_append,
      List.dropWhile_cons_of_neg (by rw [isSpace_of_isDigit digit]; decide)]
    unfold scanSign
    split
    next same => cases same; exact absurd digit (by decide)
    next same => cases same; exact absurd digit (by decide)
    · rfl

theorem scanFraction_pointFraction {f rest : List Char} (digits : ∀ c ∈ f, c.isDigit)
    (stop : ∀ c ∈ rest.head?, c.isDigit = false ∧ c ≠ '.') :
    scanFraction (pointFraction f ++ rest) = (stripZeros f, rest) := by
  unfold pointFraction
  split
  next empty =>
    rw [empty, List.nil_append]
    cases rest with
    | nil => rfl
    | cons c cs =>
      unfold scanFraction
      split
      next same => cases same; exact absurd rfl (stop '.' rfl).2
      · rfl
  · exact span_digits_append (fun c hc => digits c (mem_of_mem_stripZeros hc)) (fun c hc => (stop c hc).1)

theorem decimalValue_stripZeros (negative : Bool) (ints f : List Char) (e : ℤ) :
    decimalValue negative (ints ++ stripZeros f) (e - (stripZeros f).length) =
      decimalValue negative (ints ++ f) (e - f.length) := by
  rw [decimalValue, decimalValue, ofDigitChars_stripZeros]

theorem scanDouble_digits (negative : Bool) {D ints f expo rest : List Char} {e X : ℤ}
    (parts : ints ++ f = D) (digits : ∀ c ∈ D, c.isDigit) (nonempty : ints ≠ [])
    (exponent : scanExponent (expo ++ rest) = some (e, rest)) (scale : e - f.length = X)
    (stop : ∀ c ∈ (expo ++ rest).head?, c.isDigit = false ∧ c ≠ '.')
    (finite : |roundToDouble (decimalValue negative D X)| ≤ DBL_MAX) :
    scanDouble ((if negative then ['-'] else []) ++ ints ++ pointFraction f ++ expo ++ rest) =
      some (roundToDouble (decimalValue negative D X), rest) := by
  subst parts scale
  obtain ⟨c, cs, rfl⟩ := List.exists_cons_of_ne_nil nonempty
  have intDigits : ∀ x ∈ c :: cs, x.isDigit := fun x hx => digits x (List.mem_append_left _ hx)
  have fracDigits : ∀ x ∈ f, x.isDigit := fun x hx => digits x (List.mem_append_right _ hx)
  have pointStop : ∀ x ∈ (pointFraction f ++ (expo ++ rest)).head?, x.isDigit = false := by
    unfold pointFraction
    split
    · rw [List.nil_append]
      exact fun x hx => (stop x hx).1
    · intro x hx
      cases hx
      decide
  have text : (if negative then ['-'] else []) ++ c :: cs ++ pointFraction f ++ expo ++ rest =
      (if negative then ['-'] else []) ++ c :: (cs ++ (pointFraction f ++ (expo ++ rest))) := by
    simp only [List.append_assoc, List.cons_append]
  unfold scanDouble
  rw [text, scanSign_signText negative (intDigits c List.mem_cons_self)]
  dsimp only
  rw [← List.cons_append, span_digits_append intDigits pointStop]
  dsimp only
  rw [scanFraction_pointFraction fracDigits stop, if_neg (by simp), exponent]
  dsimp only
  rw [decimalValue_stripZeros, if_neg (not_lt.mpr finite)]

theorem scanExponent_exponentText (X : ℤ) {rest : List Char} (sep : Separated rest) :
    scanExponent ('e' :: exponentText X ++ rest) = some (X, rest) := by
  -- the exponent's digits, with the leading zero of a one-digit exponent, spell |X|
  obtain ⟨ds, text, digits, nonempty, value⟩ : ∃ ds, exponentText X =
      (if X < 0 then '-' else '+') :: ds ∧ (∀ c ∈ ds, c.isDigit) ∧ ds ≠ [] ∧
        Nat.ofDigitChars 10 ds 0 = X.natAbs := by
    refine ⟨_, rfl, ?_, ?_, ?_⟩ <;> split
    · intro c hc
      rcases List.mem_cons.mp hc with rfl | hc
      · decide
      · exact isDigit_of_mem_digitText hc
    · exact fun c hc => isDigit_of_mem_digitText hc
    · exact List.cons_ne_nil _ _
    · exact Nat.toDigits_ne_nil
    · rw [Nat.ofDigitChars_cons]
      simp
    · exact ofDigitChars_digitText _
  have sign : scanSign ((if X < 0 then '-' else '+') :: (ds ++ rest)) = (decide (X < 0), ds ++ rest) := by
    split <;> simp_all [scanSign]
  rw [List.cons_append, text, List.cons_append, scanExponent, if_pos (Or.inl rfl)]
  dsimp only
  rw [sign]
  dsimp only
  rw [span_digits_append digits (fun c hc => (sep.stop c hc).1), if_neg nonempty, value]
  congr
  simp only [decide_eq_true_eq]
  split <;> omega

theorem decimalValue_zeros_append (negative : Bool) (k : ℕ) (D : List Char) (e : ℤ) :
    decimalValue negative (List.replicate k '0' ++ D) e = decimalValue negative D e := by
  rw [decimalValue, decimalValue, Nat.ofDigitChars_append, Nat.ofDigitChars_replicate_zero,
    mul_zero]

theorem sixDigitValue_eq_decimalValue {x : ℚ} (nonzero : x ≠ 0) :
    sixDigitValue x =
      decimalValue (decide (x < 0)) (digitText (sixDigits |x|).1) ((sixDigits |x|).2 - 5) := by
  rw [sixDigitValue, if_neg nonzero, decimalValue, ofDigitChars_digitText]
  simp only [decide_eq_true_eq]

theorem scanDouble_formatG {x : ℚ} (finite : |x| ≤ DBL_MAX) {rest : List Char}
    (sep : Separated rest) :
    scanDouble (formatG x ++ rest) = some (roundToDouble (sixDigitValue x), rest) := by
  have bounded := abs_roundToDouble_le (abs_sixDigitValue_le finite)
  rcases eq_or_ne x 0 with rfl | nonzero
  · have zero : decimalValue false ['0'] 0 = sixDigitValue 0 := by
      simp [decimalValue, sixDigitValue, Nat.ofDigitChars_cons]
    rw [← zero] at bounded ⊢
    have read := @scanDouble_digits false ['0'] ['0'] [] [] rest 0 0 rfl
      (fun c hc => by rw [List.mem_singleton.mp hc]; rfl) (List.cons_ne_nil _ _)
      sep.scanExponent (by simp) sep.stop bounded
    rw [formatG, if_pos rfl]
    exact read
  obtain ⟨lo, hi⟩ := sixDigits_mem_Ico (abs_pos.mpr nonzero)
  rw [sixDigitValue_eq_decimalValue nonzero] at bounded ⊢
  have sign : (if x < 0 then ['-'] else ([] : List Char)) = if decide (x < 0) then ['-'] else [] := by
    simp only [decide_eq_true_eq]
  rw [formatG, if_neg nonzero]
  dsimp only
  rw [sign]
  generalize decide (x < 0) = negative at bounded ⊢
  generalize (sixDigits |x|).1 = M at lo hi bounded ⊢
  generalize (sixDigits |x|).2 = X at bounded ⊢
  have length := length_digitText lo hi
  have digits : ∀ c ∈ digitText M, c.isDigit := fun c hc => isDigit_of_mem_digitText hc
  have nonempty (k : ℕ) : (digitText M).take (k + 1) ≠ [] := by
    simp [← List.length_pos_iff, length]
  by_cases exponentForm : X < -4 ∨ 6 ≤ X
  · -- d.ddddde±XX
    rw [if_pos exponentForm]
    have read := @scanDouble_digits negative (digitText M) ((digitText M).take 1)
      ((digitText M).drop 1) ('e' :: exponentText X) rest X (X - 5) (List.take_append_drop _ _)
      digits (nonempty 0) (scanExponent_exponentText X sep) (by simp [length]) (by simp) bounded
    simpa only [List.append_assoc] using read
  rw [if_neg exponentForm]
  by_cases fixedForm : 0 ≤ X
  · -- the point after digit X + 1
    rw [if_pos fixedForm]
    have read := @scanDouble_digits negative (digitText M) ((digitText M).take (X.toNat + 1))
      ((digitText M).drop (X.toNat + 1)) [] rest 0 (X - 5) (List.take_append_drop _ _)
      digits (nonempty _) sep.scanExponent (by simp only [List.length_drop, length]; omega)
      sep.stop bounded
    simpa only [List.append_assoc, List.append_nil] using read
  · -- 0.000ddddd
    rw [if_neg fixedForm]
    rw [← decimalValue_zeros_append negative ((-X).toNat - 1 + 1)] at bounded ⊢
    have read := @scanDouble_digits negative
      (List.replicate ((-X).toNat - 1 + 1) '0' ++ digitText M) ['0']
      (List.replicate ((-X).toNat - 1) '0' ++ digitText M) [] rest 0 (X - 5)
      rfl
      (by simpa [List.mem_replicate] using digits) (List.cons_ne_nil _ _) sep.scanExponent
      (by simp only [List.length_append, List.length_replicate, length]; omega) sep.stop bounded
    simpa only [List.append_assoc, List.append_nil, List.nil_append, List.singleton_append,
      List.cons_append] using read

theorem scanDouble_toStringInt (v : ℤ) (finite : |(v : ℚ)| ≤ DBL_MAX) {rest : List Char}
    (sep : Separated rest) : scanDouble (toStringInt v ++ rest) = some (roundToDouble v, rest) := by
  have value : decimalValue (decide (v < 0)) (digitText v.natAbs) 0 = v := by
    rw [decimalValue, ofDigitChars_digitText, zpow_zero, mul_one, Nat.cast_natAbs, Int.cast_abs]
    simp only [decide_eq_true_eq]
    split
    next negative => rw [abs_of_neg (by exact_mod_cast negative)]; ring
    next nonneg => rw [abs_of_nonneg (by exact_mod_cast not_lt.mp nonneg)]; ring
  have read := @scanDouble_digits (decide (v < 0)) (digitText v.natAbs) (digitText v.natAbs) [] []
    rest 0 0 (List.append_nil _) (fun c hc => isDigit_of_mem_digitText hc) Nat.toDigits_ne_nil
    sep.scanExponent (by simp) sep.stop (by rw [value]; exact abs_roundToDouble_le finite)
  have sign : (if v < 0 then ['-'] else ([] : List Char)) = if decide (v < 0) then ['-'] else [] := by
    simp only [decide_eq_true_eq]
  have noFraction : pointFraction [] = [] := by decide
  rw [value, noFraction] at read
  rw [toStringInt, sign]
  simpa only [List.append_nil, List.nil_append] using read

theorem sixDigitValue_natCast {n : ℕ} (small : n < 10 ^ 6) : sixDigitValue n = n := by
  rcases Nat.eq_zero_or_pos n with rfl | pos
  · simp [sixDigitValue]
  have posQ : (0 : ℚ) < n := by exact_mod_cast pos
  have log : Int.log 10 (n : ℚ) < 6 :=
    (Int.lt_zpow_iff_log_lt (by norm_num) posQ).mp (by exact_mod_cast small)
  unfold sixDigitValue
  rw [if_neg posQ.ne', if_neg (not_lt.mpr posQ.le), one_mul, abs_of_pos posQ, sixDigits_value]
  generalize Int.log 10 (n : ℚ) = X at log
  obtain ⟨k, rfl⟩ : ∃ k : ℕ, X = 5 - k := ⟨(5 - X).toNat, by omega⟩
  -- over 10^(X-5) = 10^-k the number is the whole number n * 10^k, which rounding keeps
  have whole : (n : ℚ) / 10 ^ (-(k : ℤ)) = ((n * 10 ^ k : ℕ) : ℚ) := by
    rw [zpow_neg, zpow_natCast, div_inv_eq_mul]
    push_cast
    ring
  rw [show (5 - k : ℤ) - 5 = -k by ring, whole, roundHalfEven_natCast, Nat.cast_mul, Nat.cast_pow,
    Nat.cast_ofNat, zpow_neg, zpow_natCast, mul_assoc, mul_inv_cancel₀ (by positivity), mul_one]

end DecimalText
