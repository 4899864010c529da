import Mathlib
import Peloton.Lib.DecimalText
import Peloton.Type.TypeId

set_option autoImplicit false

/-! The column stats the optimizer keeps in pg_column_stats: StatsStorage::InsertOrUpdateTableStats
writes each column's most common values, their frequencies and its histogram bounds as
comma-separated texts, ConvertVectorToColumnStats reads them back with an istream, and
Selectivity::Equal estimates an equality from what was read. A double is the rational it denotes,
and each conversion or arithmetic step of the C++ rounds with roundToDouble. -/

namespace Peloton.Optimizer

open DecimalText Peloton.Type

/-- A type::Value as get_all_ordered_max_first builds it from a top-k element: an INTEGER of the
int item, a DECIMAL of stod of the string item, or a VARCHAR. -/
inductive CommonValue where
  | integer (v : Int32)
  | decimal (d : ℚ)
  | varchar (s : List Char)
  deriving DecidableEq

namespace CommonValue

def GetTypeId : CommonValue → TypeId
  | .integer _ => .INTEGER
  | .decimal _ => .DECIMAL
  | .varchar _ => .VARCHAR

-- IntegerType::ToString is std::to_string and DecimalType::ToString is printf's %g.
def ToString : CommonValue → List Char
  | .integer v => toStringInt v.toInt
  | .decimal d => formatG d
  | .varchar s => s

def PelotonValueToNumericValue : CommonValue → Option ℚ
  | .integer v => some v.toInt
  | .decimal d => some d
  | .varchar _ => none

def IsFiniteNumber : CommonValue → Prop
  | .integer _ => True
  | .decimal d => |d| ≤ DBL_MAX
  | .varchar _ => False

def readBack : CommonValue → ℚ
  | .integer v => v.toInt
  | .decimal d => roundToDouble (sixDigitValue d)
  | .varchar _ => 0

end CommonValue

-- What InsertOrUpdateTableStats asks a column's collector for: GetCardinality (a uint64_t),
-- GetFracNull, GetCommonValueAndFrequency, GetHistogramBound, GetColumnName and HasIndex.
structure ColumnStatsCollector where
  cardinality : ℕ
  fracNull : ℚ
  commonValueAndFrequency : List (CommonValue × ℚ)
  histogramBound : List ℚ
  columnName : List Char
  hasIndex : Bool

structure TableStatsCollector where
  activeTupleCount : ℕ
  columnStats : List ColumnStatsCollector

-- A row of pg_column_stats for one column; none is a NULL text.
structure ColumnStatsRow where
  numRows : Int32
  cardinality : ℚ
  fracNull : ℚ
  mostCommonVals : Option (List Char)
  mostCommonFreqs : Option (List Char)
  histogramBounds : Option (List Char)
  columnName : List Char
  hasIndex : Bool

structure ColumnStats where
  numRows : ℕ
  cardinality : ℚ
  fracNull : ℚ
  mostCommonVals : List ℚ
  mostCommonFreqs : List ℚ
  histogramBounds : List ℚ
  columnName : List Char
  hasIndex : Bool

namespace StatsStorage

def writeWithCommas {α : Type} (write : α → List Char) : List α → List Char
  | [] => []
  | [x] => write x
  | x :: y :: rest => write x ++ ',' :: writeWithCommas write (y :: rest)

def ConvertDoubleArrayToString (double_array : List ℚ) : List Char :=
  if double_array.length = 0 then [] else writeWithCommas formatG double_array

def ConvertValueFreqArrayToStrings (val_freqs : List (CommonValue × ℚ)) :
    List Char × List Char :=
  match val_freqs with
  | [] => ([], [])
  | first :: _ =>
    if first.1.GetTypeId = .VARBINARY ∨ first.1.GetTypeId = .VARCHAR then ([], [])
    else (writeWithCommas (fun p => p.1.ToString) val_freqs,
      writeWithCommas (fun p => formatG p.2) val_freqs)

def skipComma : List Char → List Char
  | ',' :: cs => cs
  | cs => cs

theorem length_skipComma_le (cs : List Char) : (skipComma cs).length ≤ cs.length := by
  unfold skipComma
  split <;> simp

/-- ConvertStringToDoubleArray: extract doubles while the stream gives one, skipping a comma after
each. -/
def ConvertStringToDoubleArray (str : List Char) : List ℚ :=
  match _read : scanDouble str with
  | none => []
  | some (num, rest) => num :: ConvertStringToDoubleArray (skipComma rest)
termination_by str.length
decreasing_by exact lt_of_le_of_lt (length_skipComma_le rest) (length_of_scanDouble _read)

def InsertColumnStats (num_rows : Int32) (cardinality frac_null : ℚ)
    (most_common_vals most_common_freqs histogram_bounds column_name : List Char)
    (has_index : Bool) : ColumnStatsRow :=
  { numRows := num_rows, cardinality := cardinality, fracNull := frac_null,
    mostCommonVals := if most_common_vals.isEmpty then none else some most_common_vals,
    mostCommonFreqs := if most_common_vals.isEmpty then none else some most_common_freqs,
    histogramBounds := if histogram_bounds.isEmpty then none else some histogram_bounds,
    columnName := column_name, hasIndex := has_index }

def InsertOrUpdateColumnStats (catalog : ℕ → Option ColumnStatsRow) (column_id : ℕ)
    (num_rows : Int32) (cardinality frac_null : ℚ)
    (most_common_vals most_common_freqs histogram_bounds column_name : List Char)
    (has_index : Bool) : ℕ → Option ColumnStatsRow :=
  Function.update catalog column_id (some (InsertColumnStats num_rows cardinality frac_null
    most_common_vals most_common_freqs histogram_bounds column_name has_index))

def insertColumn (num_rows : Int32) (catalog : ℕ → Option ColumnStatsRow) (column_id : ℕ)
    (collector : ColumnStatsCollector) : ℕ → Option ColumnStatsRow :=
  let val_freq_str := ConvertValueFreqArrayToStrings collector.commonValueAndFrequency
  InsertOrUpdateColumnStats catalog column_id num_rows (roundToDouble collector.cardinality)
    collector.fracNull val_freq_str.1 val_freq_str.2
    (ConvertDoubleArrayToString collector.histogramBound) collector.columnName collector.hasIndex

def insertColumns (num_rows : Int32) :
    (ℕ → Option ColumnStatsRow) → ℕ → List ColumnStatsCollector → ℕ → Option ColumnStatsRow
  | catalog, _, [] => catalog
  | catalog, column_id, collector :: rest =>
    insertColumns num_rows (insertColumn num_rows catalog column_id collector) (column_id + 1) rest

/-- InsertOrUpdateTableStats: the size_t GetActiveTupleCount is passed on as an int. -/
def InsertOrUpdateTableStats (table : TableStatsCollector) (catalog : ℕ → Option ColumnStatsRow) :
    ℕ → Option ColumnStatsRow :=
  insertColumns (Int32.ofNat table.activeTupleCount) catalog 0 table.columnStats

-- num_rows is read as an int and handed to ColumnStats as a size_t.
def ConvertVectorToColumnStats (row : ColumnStatsRow) : ColumnStats :=
  { numRows := (row.numRows.toInt % 2 ^ 64).toNat,
    cardinality := row.cardinality, fracNull := row.fracNull,
    mostCommonVals := (row.mostCommonVals.map ConvertStringToDoubleArray).getD [],
    mostCommonFreqs := (row.mostCommonFreqs.map ConvertStringToDoubleArray).getD [],
    histogramBounds := (row.histogramBounds.map ConvertStringToDoubleArray).getD [],
    columnName := row.columnName, hasIndex := row.hasIndex }

def GetColumnStatsByID (catalog : ℕ → Option ColumnStatsRow) (column_id : ℕ) :
    Option ColumnStats :=
  (catalog column_id).map ConvertVectorToColumnStats

end StatsStorage

namespace Selectivity

def DEFAULT_SELECTIVITY : ℚ := 1 / 2

/-- Selectivity::Equal over the column stats the table stats give for the condition's column (none:
nullptr). -/
def Equal (column_stats : Option ColumnStats) (condition_value : CommonValue) : Option ℚ :=
  match condition_value.PelotonValueToNumericValue, column_stats with
  | some value, some stats =>
    let numrows : ℚ := roundToDouble stats.numRows
    match stats.mostCommonVals.findIdx? (· == value) with
    | some idx =>
      match stats.mostCommonFreqs[idx]? with
      | some freq => if numrows = 0 then none else some (roundToDouble (freq / numrows))
      | none => none
    | none =>
      -- (1 - sum(mvf)) / (num_distinct - num_mcv), each step rounded
      let sum_mvf := stats.mostCommonFreqs.foldl (fun sum freq => roundToDouble (sum + freq)) 0
      let num_mcv : ℚ := roundToDouble stats.mostCommonVals.length
      if stats.numRows = 0 ∨ stats.cardinality = num_mcv then some DEFAULT_SELECTIVITY
      else
        some (roundToDouble (roundToDouble (1 - roundToDouble (sum_mvf / numrows)) /
          roundToDouble (stats.cardinality - num_mcv)))
  | _, _ => some DEFAULT_SELECTIVITY

end Selectivity

/-! ## Reading back what was written -/

namespace StatsStorage

theorem ConvertStringToDoubleArray_nil : ConvertStringToDoubleArray [] = [] := by
  rw [ConvertStringToDoubleArray]
  split
  · rfl
  next read => cases (show scanDouble [] = none from rfl) ▸ read

theorem ConvertStringToDoubleArray_of_scanDouble {str rest : List Char} {num : ℚ}
    (read : scanDouble str = some (num, rest)) :
    ConvertStringToDoubleArray str = num :: ConvertStringToDoubleArray (skipComma rest) := by
  rw [ConvertStringToDoubleArray]
  split
  next fails => cases read ▸ fails
  next reads => cases read ▸ reads; rfl

theorem ConvertStringToDoubleArray_writeWithCommas {α : Type} (write : α → List Char)
    (read : α → ℚ) (xs : List α)
    (each : ∀ x ∈ xs, ∀ rest, Separated rest → scanDouble (write x ++ rest) = some (read x, rest)) :
    ConvertStringToDoubleArray (writeWithCommas write xs) = xs.map read := by
  fun_induction writeWithCommas write xs with
  | case1 => exact ConvertStringToDoubleArray_nil
  | case2 x =>
    have last := each x List.mem_cons_self [] separated_nil
    rw [List.append_nil] at last
    rw [ConvertStringToDoubleArray_of_scanDouble last, show skipComma [] = [] from rfl,
      ConvertStringToDoubleArray_nil, List.map_singleton]
  | case3 x y rest ih =>
    have first := each x List.mem_cons_self _ (separated_comma (writeWithCommas write (y :: rest)))
    rw [ConvertStringToDoubleArray_of_scanDouble first, skipComma,
      ih (fun z hz => each z (List.mem_cons_of_mem _ hz))]
    rfl

theorem readText (text : List Char) :
    ((if text.isEmpty then none else some text).map ConvertStringToDoubleArray).getD [] =
      ConvertStringToDoubleArray text := by
  cases text with
  | nil => rw [ConvertStringToDoubleArray_nil]; rfl
  | cons c cs => rfl

theorem ConvertStringToDoubleArray_ConvertDoubleArrayToString {double_array : List ℚ}
    (finite : ∀ x ∈ double_array, |x| ≤ DBL_MAX) :
    ConvertStringToDoubleArray (ConvertDoubleArrayToString double_array) =
      double_array.map fun x => roundToDouble (sixDigitValue x) := by
  unfold ConvertDoubleArrayToString
  split
  next empty => rw [List.length_eq_zero_iff.mp empty, ConvertStringToDoubleArray_nil, List.map_nil]
  · exact ConvertStringToDoubleArray_writeWithCommas _ _ _
      (fun x hx _ sep => scanDouble_formatG (finite x hx) sep)

theorem scanDouble_ToString {v : CommonValue} (number : v.IsFiniteNumber) {rest : List Char}
    (sep : Separated rest) : scanDouble (v.ToString ++ rest) = some (v.readBack, rest) := by
  cases v with
  | integer v =>
    -- an int is far inside the doubles' range and exact among them
    have bounds : |v.toInt| ≤ 2 ^ 31 := abs_le.mpr ⟨v.le_toInt, v.toInt_lt.le⟩
    have small : |(v.toInt : ℚ)| ≤ 2 ^ 31 := by exact_mod_cast bounds
    have finite : |(v.toInt : ℚ)| ≤ DBL_MAX := le_DBL_MAX_of_le_two_pow small (by norm_num)
    rw [CommonValue.ToString, scanDouble_toStringInt v.toInt finite sep,
      roundToDouble_intCast v.toInt (bounds.trans_lt (by norm_num))]
    rfl
  | decimal d => exact scanDouble_formatG number sep
  | varchar s => exact number.elim

theorem ConvertValueFreqArrayToStrings_of_numbers {val_freqs : List (CommonValue × ℚ)}
    (numbers : ∀ p ∈ val_freqs, p.1.IsFiniteNumber ∧ |p.2| ≤ DBL_MAX) :
    ConvertStringToDoubleArray (ConvertValueFreqArrayToStrings val_freqs).1 =
        val_freqs.map (fun p => p.1.readBack) ∧
      ConvertStringToDoubleArray (ConvertValueFreqArrayToStrings val_freqs).2 =
        val_freqs.map (fun p => roundToDouble (sixDigitValue p.2)) := by
  cases val_freqs with
  | nil => exact ⟨ConvertStringToDoubleArray_nil, ConvertStringToDoubleArray_nil⟩
  | cons first rest =>
    -- the first value is a number, so the texts are written
    have numeric : ¬(first.1.GetTypeId = .VARBINARY ∨ first.1.GetTypeId = .VARCHAR) := by
      have number := (numbers first List.mem_cons_self).1
      generalize first.1 = value at number
      cases value <;> simp_all [CommonValue.GetTypeId, CommonValue.IsFiniteNumber]
    rw [ConvertValueFreqArrayToStrings, if_neg numeric]
    exact ⟨ConvertStringToDoubleArray_writeWithCommas _ _ _
        (fun p hp _ sep => scanDouble_ToString (numbers p hp).1 sep),
      ConvertStringToDoubleArray_writeWithCommas _ _ _
        (fun p hp _ sep => scanDouble_formatG (numbers p hp).2 sep)⟩

def collectorRow (num_rows : Int32) (collector : ColumnStatsCollector) : ColumnStatsRow :=
  InsertColumnStats num_rows (roundToDouble collector.cardinality) collector.fracNull
    (ConvertValueFreqArrayToStrings collector.commonValueAndFrequency).1
    (ConvertValueFreqArrayToStrings collector.commonValueAndFrequency).2
    (ConvertDoubleArrayToString collector.histogramBound) collector.columnName collector.hasIndex

theorem insertColumn_self (num_rows : Int32) (catalog : ℕ → Option ColumnStatsRow)
    (column_id : ℕ) (collector : ColumnStatsCollector) :
    insertColumn num_rows catalog column_id collector column_id =
      some (collectorRow num_rows collector) :=
  Function.update_self _ _ _

theorem insertColumns_of_lt (num_rows : Int32) {catalog : ℕ → Option ColumnStatsRow}
    {column_id i : ℕ} (cols : List ColumnStatsCollector) (before : i < column_id) :
    insertColumns num_rows catalog column_id cols i = catalog i := by
  induction cols generalizing catalog column_id with
  | nil => rfl
  | cons collector rest ih =>
    rw [insertColumns, ih (by omega)]
    exact Function.update_of_ne (by omega) _ _

theorem insertColumns_of_getElem? (num_rows : Int32) {catalog : ℕ → Option ColumnStatsRow}
    {column_id i : ℕ} {cols : List ColumnStatsCollector} {collector : ColumnStatsCollector}
    (from_ : column_id ≤ i) (present : cols[i - column_id]? = some collector) :
    insertColumns num_rows catalog column_id cols i = some (collectorRow num_rows collector) := by
  induction cols generalizing catalog column_id with
  | nil => cases present
  | cons first rest ih =>
    rw [insertColumns]
    rcases Nat.eq_or_lt_of_le from_ with same | later
    · subst same
      rw [Nat.sub_self, List.getElem?_cons_zero, Option.some_inj] at present
      subst present
      rw [insertColumns_of_lt num_rows rest (Nat.lt_succ_self _), insertColumn_self]
    · obtain ⟨k, hk⟩ : ∃ k, i - column_id = k + 1 := ⟨i - column_id - 1, by omega⟩
      rw [hk, List.getElem?_cons_succ, show k = i - (column_id + 1) by omega] at present
      exact ih (by omega) present

theorem ConvertVectorToColumnStats_collectorRow (num_rows : Int32) (collector : ColumnStatsCollector)
    (numbers : ∀ p ∈ collector.commonValueAndFrequency, p.1.IsFiniteNumber ∧ |p.2| ≤ DBL_MAX)
    (bounds : ∀ b ∈ collector.histogramBound, |b| ≤ DBL_MAX) :
    ConvertVectorToColumnStats (collectorRow num_rows collector) =
      { numRows := (num_rows.toInt % 2 ^ 64).toNat,
        cardinality := roundToDouble collector.cardinality, fracNull := collector.fracNull,
        mostCommonVals := collector.commonValueAndFrequency.map (fun p => p.1.readBack),
        mostCommonFreqs :=
          collector.commonValueAndFrequency.map (fun p => roundToDouble (sixDigitValue p.2)),
        histogramBounds := collector.histogramBound.map (fun b => roundToDouble (sixDigitValue b)),
        columnName := collector.columnName, hasIndex := collector.hasIndex } := by
  obtain ⟨vals, freqs⟩ := ConvertValueFreqArrayToStrings_of_numbers numbers
  have hist := ConvertStringToDoubleArray_ConvertDoubleArrayToString bounds
  -- the frequencies are NULL only when the values' text is empty, and then there are none
  have freqsRead : ((if (ConvertValueFreqArrayToStrings collector.commonValueAndFrequency).1.isEmpty
      then none else some (ConvertValueFreqArrayToStrings collector.commonValueAndFrequency).2).map
        ConvertStringToDoubleArray).getD [] =
      collector.commonValueAndFrequency.map (fun p => roundToDouble (sixDigitValue p.2)) := by
    split
    next empty =>
      rw [List.isEmpty_iff.mp empty, ConvertStringToDoubleArray_nil] at vals
      rw [List.map_eq_nil_iff.mp vals.symm]
      rfl
    · exact freqs
  simp only [ConvertVectorToColumnStats, collectorRow, InsertColumnStats, readText, vals, hist,
    freqsRead]

theorem GetColumnStatsByID_InsertOrUpdateTableStats (table : TableStatsCollector)
    (catalog : ℕ → Option ColumnStatsRow) {column_id : ℕ} {collector : ColumnStatsCollector}
    (present : table.columnStats[column_id]? = some collector) :
    GetColumnStatsByID (InsertOrUpdateTableStats table catalog) column_id =
      some (ConvertVectorToColumnStats (collectorRow (Int32.ofNat table.activeTupleCount) collector)) := by
  rw [GetColumnStatsByID, InsertOrUpdateTableStats,
    insertColumns_of_getElem? _ (Nat.zero_le _) (by rwa [Nat.sub_zero]), Option.map_some]

theorem numRows_ofNat {n : ℕ} (small : n < 2 ^ 31) : ((Int32.ofNat n).toInt % 2 ^ 64).toNat = n := by
  rw [Int32.toInt_ofNat_of_lt small]
  omega

theorem findIdx?_readBack {val_freqs : List (CommonValue × ℚ)}
    (integers : ∀ p ∈ val_freqs, ∃ w, p.1 = .integer w) (distinct : (val_freqs.map Prod.fst).Nodup)
    {i : ℕ} (hi : i < val_freqs.length) {v : Int32} (at_ : val_freqs[i].1 = .integer v) :
    (val_freqs.map fun p => p.1.readBack).findIdx? (· == (v.toInt : ℚ)) = some i := by
  rw [List.findIdx?_eq_some_iff_getElem]
  refine ⟨by simpa using hi, by simp [at_, CommonValue.readBack], ?_⟩
  intro j before same
  obtain ⟨w, hw⟩ := integers val_freqs[j] (List.getElem_mem _)
  simp only [List.getElem_map, hw, CommonValue.readBack, beq_iff_eq, Int.cast_inj,
    Int32.toInt_inj] at same
  have hj : j < (val_freqs.map Prod.fst).length := by simp only [List.length_map]; omega
  have hi' : i < (val_freqs.map Prod.fst).length := by simpa using hi
  have clash : (val_freqs.map Prod.fst)[j] = (val_freqs.map Prod.fst)[i] := by
    simp [hw, at_, same]
  rw [distinct.getElem_inj_iff] at clash
  omega

end StatsStorage

namespace Selectivity

theorem Equal_of_findIdx? {stats : ColumnStats} {v : Int32} {idx : ℕ} {freq : ℚ}
    (found : stats.mostCommonVals.findIdx? (· == (v.toInt : ℚ)) = some idx)
    (read : stats.mostCommonFreqs[idx]? = some freq) (rows : 0 < stats.numRows)
    (exact : stats.numRows < 2 ^ 53) :
    Equal (some stats) (.integer v) = some (roundToDouble (freq / stats.numRows)) := by
  have nonzero : (stats.numRows : ℚ) ≠ 0 := by exact_mod_cast rows.ne'
  simp only [Equal, CommonValue.PelotonValueToNumericValue, found, read,
    roundToDouble_natCast _ exact, if_neg nonzero]

end Selectivity

open StatsStorage in
/-- A column of 1234567 rows that all hold 0: the frequency 1234567 is stored as 1.23457e+06 and
read back as 1234570, and Equal on 0 returns 1234570/1234567, past the 1 that its
PELOTON_ASSERT(res <= 1) requires. -/
theorem equal_exceeds_one_after_frequency_rounding :
    GetColumnStatsByID (InsertOrUpdateTableStats
        ⟨1234567, [⟨1, 0, [(.integer 0, 1234567)], [], [], false⟩]⟩ (fun _ => none)) 0 =
      some
        { numRows := 1234567, cardinality := 1, fracNull := 0, mostCommonVals := [0],
          mostCommonFreqs := [1234570], histogramBounds := [], columnName := [], hasIndex := false } ∧
    Selectivity.Equal (GetColumnStatsByID (InsertOrUpdateTableStats
        ⟨1234567, [⟨1, 0, [(.integer 0, 1234567)], [], [], false⟩]⟩ (fun _ => none)) 0)
        (.integer 0) = some (roundToDouble (1234570 / 1234567)) ∧
    1 < roundToDouble (1234570 / 1234567) := by
  -- %g writes 1234567 as 1.23457e+06: six digits 123457 with the last at 10^1
  have log : Int.log 10 (1234567 : ℚ) = 6 := by
    rw [show (1234567 : ℚ) = ((1234567 : ℕ) : ℚ) by norm_num, Int.log_natCast]
    exact_mod_cast (Nat.log_eq_iff (by norm_num)).mpr ⟨by norm_num, by norm_num⟩
  have floor : ⌊(1234567 : ℚ) / 10 ^ ((6 : ℤ) - 5)⌋₊ = 123456 := by
    rw [Nat.floor_eq_iff (by positivity)]
    norm_num
  have digits : roundHalfEven ((1234567 : ℚ) / 10 ^ ((6 : ℤ) - 5)) = 123457 := by
    rw [roundHalfEven_of_half_lt (by rw [floor]; norm_num), floor]
  have written : sixDigitValue 1234567 = 1234570 := by
    rw [sixDigitValue, if_neg (by norm_num), if_neg (by norm_num), one_mul,
      abs_of_pos (by norm_num), sixDigits_value, log, digits]
    norm_num
  have read : roundToDouble (sixDigitValue 1234567) = 1234570 := by
    rw [written]
    exact_mod_cast roundToDouble_natCast 1234570 (by norm_num)
  have numbers : ∀ p ∈ [((.integer 0 : CommonValue), (1234567 : ℚ))], p.1.IsFiniteNumber ∧
      |p.2| ≤ DBL_MAX := by
    simpa [CommonValue.IsFiniteNumber] using
      le_DBL_MAX_of_le_two_pow (show (1234567 : ℚ) ≤ 2 ^ 21 by norm_num) (by norm_num)
  have stats := @GetColumnStatsByID_InsertOrUpdateTableStats
    ⟨1234567, [⟨1, 0, [(.integer 0, 1234567)], [], [], false⟩]⟩ (fun _ => none) 0 _ rfl
  rw [ConvertVectorToColumnStats_collectorRow _ _ numbers (by simp), numRows_ofNat (by norm_num)]
    at stats
  have stored : GetColumnStatsByID (InsertOrUpdateTableStats
        ⟨1234567, [⟨1, 0, [(.integer 0, 1234567)], [], [], false⟩]⟩ (fun _ => none)) 0 =
      some
        { numRows := 1234567, cardinality := 1, fracNull := 0, mostCommonVals := [0],
          mostCommonFreqs := [1234570], histogramBounds := [], columnName := [],
          hasIndex := false } := by
    have one : roundToDouble 1 = 1 := by exact_mod_cast roundToDouble_natCast 1 (by norm_num)
    rw [stats]
    simp [CommonValue.readBack, read, one]
  refine ⟨stored, ?_, ?_⟩
  · have found : [(0 : ℚ)].findIdx? (· == ((0 : Int32).toInt : ℚ)) = some 0 := by decide
    rw [stored, Selectivity.Equal_of_findIdx? found rfl (by norm_num) (by norm_num)]
    norm_num
  · -- 1234570/1234567 lies in [1, 2) and at least one spacing 2^-52 above 1
    have inBinade : roundToDouble ((1234570 : ℚ) / 1234567) =
        roundHalfEven ((1234570 : ℚ) / 1234567 / 2 ^ ((0 : ℤ) - 52)) * 2 ^ ((0 : ℤ) - 52) :=
      roundToDouble_of_binade (by norm_num) (by norm_num) (by norm_num)
    have above : ((2 ^ 52 + 1 : ℕ) : ℚ) ≤ (1234570 : ℚ) / 1234567 / 2 ^ ((0 : ℤ) - 52) := by
      norm_num
    have rounded := le_roundHalfEven above
    rw [inBinade]
    calc (1 : ℚ) < ((2 ^ 52 + 1 : ℕ) : ℚ) * 2 ^ ((0 : ℤ) - 52) := by norm_num
      _ ≤ _ := by gcongr

end Peloton.Optimizer
