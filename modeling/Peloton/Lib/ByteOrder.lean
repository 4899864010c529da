import Mathlib.Order.Basic
import Mathlib.Order.Compare
import Mathlib.Tactic.Ring

set_option autoImplicit false

/-!
# Binary-comparable byte strings

A number written as its bytes, the most significant first, compares under memcmp as the number
does, and flipping the top bit of a two's-complement pattern turns the signed order into the
unsigned one. Keys laid out this way, one fixed-width field after another, compare with a single
memcmp in the lexicographic order of their fields.
-/

namespace ByteOrder

def toBigEndian : Nat → Nat → List UInt8
  | 0, _ => []
  | n + 1, u => UInt8.ofNat (u / 256 ^ n) :: toBigEndian n (u % 256 ^ n)

def ofBigEndian (bytes : List UInt8) : Nat := bytes.foldl (fun acc b => acc * 256 + b.toNat) 0

def memcmp : List UInt8 → List UInt8 → Int
  | a :: as, b :: bs => if a = b then memcmp as bs else (a.toNat : Int) - b.toNat
  | _, _ => 0

def writeBytes {α : Type} : List α → Nat → List α → List α
  | data, _, [] => data
  | data, offset, b :: bs => writeBytes (data.set offset b) (offset + 1) bs

section Compare

variable {α β : Type} [LinearOrder α] [LinearOrder β]

theorem compare_eq_compare_of_iff {a a' : α} {b b' : β} (lt : a < a' ↔ b < b')
    (gt : a' < a ↔ b' < b) : compare a a' = compare b b' := by
  rcases lt_trichotomy b b' with below | same | above
  · rw [compare_lt_iff_lt.2 below, compare_lt_iff_lt.2 (lt.2 below)]
  · have notBelow : ¬ a < a' := fun h => absurd (lt.1 h) (by rw [same]; exact lt_irrefl b')
    have notAbove : ¬ a' < a := fun h => absurd (gt.1 h) (by rw [same]; exact lt_irrefl b')
    rw [compare_eq_iff_eq.2 same, compare_eq_iff_eq.2 (le_antisymm (not_lt.1 notAbove)
      (not_lt.1 notBelow))]
  · rw [compare_gt_iff_gt.2 above, compare_gt_iff_gt.2 (gt.2 above)]

end Compare

section BigEndian

@[simp] theorem length_toBigEndian : ∀ n u, (toBigEndian n u).length = n
  | 0, _ => rfl
  | n + 1, u => by rw [toBigEndian, List.length_cons, length_toBigEndian n]

theorem toNat_ofNat_digit {n u : Nat} (small : u < 256 ^ (n + 1)) :
    (UInt8.ofNat (u / 256 ^ n)).toNat = u / 256 ^ n := by
  have digit : u / 256 ^ n < 256 := by
    rw [Nat.div_lt_iff_lt_mul (Nat.pow_pos (by decide)), ← Nat.pow_succ']
    exact small
  rw [UInt8.toNat_ofNat', Nat.mod_eq_of_lt digit]

theorem foldl_toBigEndian : ∀ (n acc u : Nat), u < 256 ^ n →
    (toBigEndian n u).foldl (fun acc b => acc * 256 + b.toNat) acc = acc * 256 ^ n + u
  | 0, acc, u, small => by
    have zero : u = 0 := by simpa using small
    simp [toBigEndian, zero]
  | n + 1, acc, u, small => by
    have remainder : u % 256 ^ n < 256 ^ n := Nat.mod_lt _ (Nat.pow_pos (by decide))
    rw [toBigEndian, List.foldl_cons, toNat_ofNat_digit small,
      foldl_toBigEndian n _ _ remainder]
    calc (acc * 256 + u / 256 ^ n) * 256 ^ n + u % 256 ^ n
        = acc * 256 ^ (n + 1) + (256 ^ n * (u / 256 ^ n) + u % 256 ^ n) := by ring
      _ = acc * 256 ^ (n + 1) + u := by rw [Nat.div_add_mod]

theorem ofBigEndian_toBigEndian {n u : Nat} (small : u < 256 ^ n) :
    ofBigEndian (toBigEndian n u) = u := by
  rw [ofBigEndian, foldl_toBigEndian n 0 u small, Nat.zero_mul, Nat.zero_add]

theorem memcmp_self : ∀ bytes : List UInt8, memcmp bytes bytes = 0
  | [] => rfl
  | b :: bytes => by rw [memcmp, if_pos rfl, memcmp_self bytes]

theorem memcmp_append : ∀ (as bs cs ds : List UInt8), as.length = bs.length →
    memcmp (as ++ cs) (bs ++ ds) = if as = bs then memcmp cs ds else memcmp as bs
  | [], [], _, _, _ => by simp
  | a :: as, b :: bs, cs, ds, sameLength => by
    have rest := memcmp_append as bs cs ds (by simpa using sameLength)
    by_cases same : a = b
    · subst same
      simp only [List.cons_append, memcmp, if_true, rest, List.cons.injEq, true_and]
    · simp [memcmp, same]

theorem compare_memcmp_toBigEndian : ∀ (n u v : Nat), u < 256 ^ n → v < 256 ^ n →
    compare (memcmp (toBigEndian n u) (toBigEndian n v)) 0 = compare u v
  | 0, u, v, smallU, smallV => by
    have zeroU : u = 0 := by simpa using smallU
    have zeroV : v = 0 := by simpa using smallV
    simp [toBigEndian, memcmp, zeroU, zeroV]
  | n + 1, u, v, smallU, smallV => by
    have positive : 0 < 256 ^ n := Nat.pow_pos (by decide)
    have splitU := Nat.div_add_mod u (256 ^ n)
    have splitV := Nat.div_add_mod v (256 ^ n)
    have lowU : u % 256 ^ n < 256 ^ n := Nat.mod_lt _ positive
    have lowV : v % 256 ^ n < 256 ^ n := Nat.mod_lt _ positive
    rw [toBigEndian, toBigEndian, memcmp]
    by_cases same : u / 256 ^ n = v / 256 ^ n
    · -- the leading bytes agree, and the rest of the numbers decide
      rw [if_pos (congrArg UInt8.ofNat same),
        compare_memcmp_toBigEndian n _ _ lowU lowV]
      rw [same] at splitU
      apply compare_eq_compare_of_iff (α := Nat) (β := Nat) <;> omega
    · -- the leading bytes differ, and so do the numbers, the same way round
      have bytesDiffer : UInt8.ofNat (u / 256 ^ n) ≠ UInt8.ofNat (v / 256 ^ n) := fun equal =>
        same (by rw [← toNat_ofNat_digit smallU, ← toNat_ofNat_digit smallV, equal])
      rw [if_neg bytesDiffer, toNat_ofNat_digit smallU, toNat_ofNat_digit smallV]
      apply compare_eq_compare_of_iff (α := Int) (β := Nat)
      · constructor
        · intro below
          exact Nat.lt_of_div_lt_div (c := 256 ^ n) (by omega)
        · intro below
          have := Nat.div_le_div_right (c := 256 ^ n) below.le
          omega
      · constructor
        · intro above
          exact Nat.lt_of_div_lt_div (c := 256 ^ n) (by omega)
        · intro above
          have := Nat.div_le_div_right (c := 256 ^ n) above.le
          omega

theorem compare_memcmp : ∀ as bs : List UInt8, as.length = bs.length →
    compare (memcmp as bs) 0 = compare as bs
  | [], [], _ => by decide
  | a :: as, b :: bs, sameLength => by
    rw [List.compare_cons_cons]
    by_cases same : a = b
    · subst same
      rw [memcmp, if_pos rfl, compare_memcmp as bs (by simpa using sameLength), Std.compare_self,
        Ordering.eq_then]
    · -- the first bytes differ and decide, compared as numbers
      have differ : a.toNat ≠ b.toNat := fun equal => same (UInt8.toNat_inj.1 equal)
      have byNat : compare ((a.toNat : Int) - b.toNat) 0 = compare a.toNat b.toNat := by
        apply compare_eq_compare_of_iff (α := Int) (β := Nat) <;> omega
      rw [memcmp, if_neg same, byNat, UInt8.compare_eq_toNat_compare_toNat]
      cases order : compare a.toNat b.toNat
      · rfl
      · exact absurd (compare_eq_iff_eq.1 order) differ
      · rfl
  | [], _ :: _, sameLength => by simp at sameLength
  | _ :: _, [], sameLength => by simp at sameLength

end BigEndian

section Write

variable {α : Type}

@[simp] theorem length_writeBytes : ∀ (data : List α) (offset : Nat) (bytes : List α),
    (writeBytes data offset bytes).length = data.length
  | _, _, [] => rfl
  | data, offset, b :: bytes => by
    rw [writeBytes, length_writeBytes, List.length_set]

theorem writeBytes_eq : ∀ (data : List α) (offset : Nat) (bytes : List α),
    offset + bytes.length ≤ data.length →
      writeBytes data offset bytes =
        data.take offset ++ bytes ++ data.drop (offset + bytes.length)
  | data, offset, [], _ => by simp [writeBytes]
  | data, offset, b :: bytes, fits => by
    have inside : offset < data.length := by simp at fits; omega
    rw [writeBytes, writeBytes_eq _ _ bytes (by simp at fits ⊢; omega),
      List.set_eq_take_append_cons_drop, if_pos inside]
    simp only [List.take_append, List.length_take, List.drop_append, List.length_cons,
      List.append_assoc, List.cons_append]
    have keep : min offset data.length = offset := by omega
    simp [keep, List.take_take, List.drop_drop, Nat.add_comm, Nat.add_left_comm]

theorem getElem?_writeBytes_of_le : ∀ (data : List α) (offset : Nat) (bytes : List α) {i : Nat},
    offset + bytes.length ≤ i → (writeBytes data offset bytes)[i]? = data[i]?
  | _, _, [], _, _ => rfl
  | data, offset, b :: bytes, i, past => by
    rw [writeBytes, getElem?_writeBytes_of_le _ _ bytes (by simp at past; omega),
      List.getElem?_set_ne (by simp at past; omega)]

theorem take_drop_after_write {data bytes : List α} {offset : Nat}
    (fits : offset + bytes.length ≤ data.length) (m : Nat) :
    (data.take offset ++ bytes ++ data.drop (offset + bytes.length)).take (offset + bytes.length) =
        data.take offset ++ bytes ∧
      (data.take offset ++ bytes ++ data.drop (offset + bytes.length)).drop
          (offset + bytes.length + m) = data.drop (offset + bytes.length + m) := by
  have prefixLength : (data.take offset ++ bytes).length = offset + bytes.length := by
    rw [List.length_append, List.length_take]
    omega
  refine ⟨List.take_left' prefixLength, ?_⟩
  rw [List.drop_append, List.drop_eq_nil_of_le (by rw [prefixLength]; omega), List.nil_append,
    prefixLength, List.drop_drop]
  congr 1
  omega

end Write

section SignFlip

theorem xor_two_pow_of_lt {u k : Nat} (small : u < 2 ^ k) : u ^^^ 2 ^ k = u + 2 ^ k := by
  apply Nat.eq_of_testBit_eq
  intro i
  rw [Nat.testBit_xor, Nat.testBit_two_pow, Nat.add_comm]
  rcases Nat.lt_trichotomy i k with below | rfl | above
  · rw [Nat.testBit_two_pow_add_gt below, decide_eq_false (by omega), Bool.xor_false]
  · rw [Nat.testBit_two_pow_add_eq, Nat.testBit_lt_two_pow small, decide_eq_true rfl]
    rfl
  · have wide : 2 ^ k + u < 2 ^ i :=
      calc 2 ^ k + u < 2 ^ k + 2 ^ k := by omega
        _ = 2 ^ (k + 1) := by rw [Nat.pow_succ]; omega
        _ ≤ 2 ^ i := Nat.pow_le_pow_right (by decide) above
    rw [Nat.testBit_lt_two_pow wide, decide_eq_false (by omega), Bool.xor_false,
      Nat.testBit_lt_two_pow (Nat.lt_of_lt_of_le small
        (Nat.pow_le_pow_right (by decide) (Nat.le_of_lt above)))]

theorem xor_two_pow_of_le {u k : Nat} (large : 2 ^ k ≤ u) (small : u < 2 ^ (k + 1)) :
    u ^^^ 2 ^ k = u - 2 ^ k := by
  have low : u - 2 ^ k < 2 ^ k := by rw [Nat.pow_succ] at small; omega
  calc u ^^^ 2 ^ k = (u - 2 ^ k + 2 ^ k) ^^^ 2 ^ k := by rw [Nat.sub_add_cancel large]
    _ = (u - 2 ^ k) ^^^ 2 ^ k ^^^ 2 ^ k := by rw [xor_two_pow_of_lt low]
    _ = u - 2 ^ k := by rw [Nat.xor_assoc, Nat.xor_self, Nat.xor_zero]

variable {w : Nat}

theorem toNat_topBit (positive : 0 < w) : (1#w <<< (w - 1)).toNat = 2 ^ (w - 1) := by
  have below : 2 ^ (w - 1) < 2 ^ w := Nat.pow_lt_pow_right (by decide) (by omega)
  rw [BitVec.toNat_shiftLeft, BitVec.toNat_ofNat, Nat.one_mod_two_pow positive, Nat.one_shiftLeft,
    Nat.mod_eq_of_lt below]

theorem toNat_xor_topBit (positive : 0 < w) {x : Int} (lo : -2 ^ (w - 1) ≤ x)
    (hi : x < 2 ^ (w - 1)) :
    (BitVec.ofInt w x ^^^ 1#w <<< (w - 1)).toNat = (x + 2 ^ (w - 1)).toNat := by
  rw [BitVec.toNat_xor, toNat_topBit positive, BitVec.toNat_ofInt]
  cases w with
  | zero => exact absurd positive (Nat.lt_irrefl 0)
  | succ v =>
    rw [Nat.add_sub_cancel] at lo hi ⊢
    have double : (2 : Int) ^ (v + 1) = 2 * 2 ^ v := Int.pow_succ' 2 v
    have castPow : ((2 ^ v : Nat) : Int) = 2 ^ v := by simp
    have castDouble : ((2 ^ (v + 1) : Nat) : Int) = 2 ^ (v + 1) := by simp
    push_cast
    rcases Int.lt_or_le x 0 with negative | nonnegative
    · -- a negative value is stored as x + 2^w, whose top bit is set
      have stored : x % 2 ^ (v + 1) = x + 2 ^ (v + 1) := by
        rw [Int.emod_eq_add_self_emod, Int.emod_eq_of_lt (by omega) (by omega)]
      rw [stored, xor_two_pow_of_le (by omega) (by omega)]
      omega
    · have stored : x % 2 ^ (v + 1) = x := Int.emod_eq_of_lt nonnegative (by omega)
      rw [stored, xor_two_pow_of_lt (by omega)]
      omega

end SignFlip

section HostOrder

def toLittleEndian (n u : Nat) : List UInt8 := (toBigEndian n u).reverse

def ofLittleEndian (bytes : List UInt8) : Nat := ofBigEndian bytes.reverse

def byteSwap (n u : Nat) : Nat := ofBigEndian (toLittleEndian n u)

theorem foldl_ofBigEndian : ∀ (bytes : List UInt8) (acc : Nat),
    bytes.foldl (fun acc b => acc * 256 + b.toNat) acc = acc * 256 ^ bytes.length + ofBigEndian bytes
  | [], acc => by simp [ofBigEndian]
  | b :: bytes, acc => by
    have shift := foldl_ofBigEndian bytes (acc * 256 + b.toNat)
    have start := foldl_ofBigEndian bytes (0 * 256 + b.toNat)
    simp only [List.foldl_cons, ofBigEndian, List.length_cons] at shift start ⊢
    rw [shift, start]
    ring

theorem ofBigEndian_cons (b : UInt8) (bytes : List UInt8) :
    ofBigEndian (b :: bytes) = b.toNat * 256 ^ bytes.length + ofBigEndian bytes := by
  rw [ofBigEndian, List.foldl_cons, foldl_ofBigEndian]
  simp

theorem ofBigEndian_lt : ∀ bytes : List UInt8, ofBigEndian bytes < 256 ^ bytes.length
  | [] => by decide
  | b :: bytes => by
    have rest := ofBigEndian_lt bytes
    have digit := b.toNat_lt
    rw [ofBigEndian_cons, List.length_cons, Nat.pow_succ]
    calc b.toNat * 256 ^ bytes.length + ofBigEndian bytes
        < b.toNat * 256 ^ bytes.length + 256 ^ bytes.length := by omega
      _ = (b.toNat + 1) * 256 ^ bytes.length := by ring
      _ ≤ 256 * 256 ^ bytes.length := Nat.mul_le_mul_right _ digit
      _ = 256 ^ bytes.length * 256 := Nat.mul_comm _ _

theorem toBigEndian_ofBigEndian : ∀ bytes : List UInt8,
    toBigEndian bytes.length (ofBigEndian bytes) = bytes
  | [] => rfl
  | b :: bytes => by
    have rest := ofBigEndian_lt bytes
    have positive : 0 < 256 ^ bytes.length := Nat.pow_pos (by decide)
    have high : (b.toNat * 256 ^ bytes.length + ofBigEndian bytes) / 256 ^ bytes.length = b.toNat := by
      rw [Nat.add_comm, Nat.add_mul_div_right _ _ positive, Nat.div_eq_of_lt rest, Nat.zero_add]
    have low : (b.toNat * 256 ^ bytes.length + ofBigEndian bytes) % 256 ^ bytes.length =
        ofBigEndian bytes := by
      rw [Nat.add_comm, Nat.add_mul_mod_self_right, Nat.mod_eq_of_lt rest]
    rw [List.length_cons, toBigEndian, ofBigEndian_cons, high, low, toBigEndian_ofBigEndian bytes,
      UInt8.ofNat_toNat]

theorem toBigEndian_add_of_lt {n u : Nat} (small : u < 256 ^ n) :
    ∀ m, toBigEndian (m + n) u = List.replicate m 0 ++ toBigEndian n u
  | 0 => by simp
  | m + 1 => by
    have wide : u < 256 ^ (m + n) :=
      Nat.lt_of_lt_of_le small (Nat.pow_le_pow_right (by decide) (by omega))
    rw [Nat.add_right_comm, toBigEndian, Nat.div_eq_of_lt wide, Nat.mod_eq_of_lt wide,
      toBigEndian_add_of_lt small m, List.replicate_succ, List.cons_append]
    rfl

theorem take_toLittleEndian {n u : Nat} (small : u < 256 ^ n) (m : Nat) :
    (toLittleEndian (m + n) u).take n = toLittleEndian n u := by
  rw [toLittleEndian, toBigEndian_add_of_lt small, List.reverse_append, toLittleEndian]
  exact List.take_left' (by simp)

theorem byteSwap_ofLittleEndian (bytes : List UInt8) :
    byteSwap bytes.length (ofLittleEndian bytes) = ofBigEndian bytes := by
  have sameLength : bytes.reverse.length = bytes.length := List.length_reverse
  rw [byteSwap, toLittleEndian, ofLittleEndian, ← sameLength, toBigEndian_ofBigEndian,
    List.reverse_reverse]

theorem byteSwap_lt (n u : Nat) : byteSwap n u < 256 ^ n := by
  have := ofBigEndian_lt (toLittleEndian n u)
  rwa [toLittleEndian, List.length_reverse, length_toBigEndian] at this

theorem toLittleEndian_byteSwap (n u : Nat) :
    toLittleEndian n (byteSwap n u) = toBigEndian n u := by
  have sameLength : (toLittleEndian n u).length = n := by simp [toLittleEndian]
  have bytes := toBigEndian_ofBigEndian (toLittleEndian n u)
  rw [sameLength] at bytes
  show (toBigEndian n (ofBigEndian (toLittleEndian n u))).reverse = _
  rw [bytes, toLittleEndian, List.reverse_reverse]

end HostOrder

end ByteOrder
