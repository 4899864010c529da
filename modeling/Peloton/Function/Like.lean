import Mathlib.Data.List.Basic

set_option autoImplicit false

namespace Peloton.Function.StringFunctions

def tolower (c : UInt8) : UInt8 := if 65 ≤ c.toNat ∧ c.toNat ≤ 90 then c + 32 else c

def percentSign : UInt8 := 37

def underscore : UInt8 := 95

def backslash : UInt8 := 92

theorem underscore_ne_percentSign : underscore ≠ percentSign := by decide

theorem backslash_ne_percentSign : backslash ≠ percentSign := by decide

theorem backslash_ne_underscore : backslash ≠ underscore := by decide

/-! ## Like -/

def skipWildcards : List UInt8 → List UInt8 → Option (List UInt8 × List UInt8)
  | t, [] => some (t, [])
  | t, c :: p =>
    if c = percentSign then skipWildcards t p
    else if c = underscore then
      match t with
      | [] => none
      | _ :: t => skipWildcards t p
    else some (t, c :: p)

def firstPattern : List UInt8 → Option UInt8
  | [] => none
  | c :: rest => if c = backslash then rest.head?.map tolower else some (tolower c)

theorem skipWildcards_length : ∀ {t p t' p' : List UInt8}, skipWildcards t p = some (t', p') →
    p'.length ≤ p.length
  | _, [], _, _, skipped => by simp_all [skipWildcards]
  | t, c :: p, t', p', skipped => by
    unfold skipWildcards at skipped
    split at skipped
    · exact Nat.le_succ_of_le (skipWildcards_length skipped)
    · split at skipped
      · split at skipped
        · cases skipped
        · exact Nat.le_succ_of_le (skipWildcards_length skipped)
      · cases skipped
        exact Nat.le_refl _

-- Like(t, tlen, p, plen) with the bytes the lengths cover. A '%' recurses on each candidate
-- position of the text with the pattern after it, which is shorter.
mutual

def Like (t p : List UInt8) : Bool :=
  if p = [percentSign] then true else likeLoop t p
termination_by (3 * p.length + 1, 0)

def likeLoop : List UInt8 → List UInt8 → Bool
  | [], p => (p.dropWhile (· == percentSign)).isEmpty
  | _ :: _, [] => false
  | a :: t, c :: p =>
    if c = backslash then
      match p with
      | [] => false
      | x :: p => tolower x == tolower a && likeLoop t p
    else if c = percentSign then
      match _skipped : skipWildcards (a :: t) p with
      | none => false
      | some (_, []) => true
      | some (t', c' :: p') =>
        match firstPattern (c' :: p') with
        | none => false
        | some firstpat => scanText firstpat (c' :: p') t'
    else if c = underscore then likeLoop t p
    else tolower c == tolower a && likeLoop t p
termination_by _ p => (3 * p.length, 0)
decreasing_by
  all_goals simp_wf
  · apply Prod.Lex.left; omega
  · have := skipWildcards_length _skipped
    apply Prod.Lex.left
    simp only [List.length_cons] at this ⊢
    omega
  · apply Prod.Lex.left; omega
  · apply Prod.Lex.left; omega

def scanText (firstpat : UInt8) (p : List UInt8) : List UInt8 → Bool
  | [] => false
  | b :: t => (tolower b == firstpat && Like (b :: t) p) || scanText firstpat p t
termination_by t => (3 * p.length + 2, t.length)
decreasing_by
  all_goals simp_wf
  · apply Prod.Lex.left; omega
  · apply Prod.Lex.right; omega

end

theorem skipWildcards_head (t p : List UInt8) {t' p' : List UInt8} {c : UInt8} :
    skipWildcards t p = some (t', c :: p') → c ≠ percentSign ∧ c ≠ underscore := by
  fun_induction skipWildcards t p with
  | case5 t c p hp hu => rintro ⟨⟩; exact ⟨hp, hu⟩
  | _ => simp_all

theorem firstPattern_eq_none {c : UInt8} {q : List UInt8} :
    firstPattern (c :: q) = none ↔ c = backslash ∧ q = [] := by
  simp only [firstPattern]
  split_ifs with h <;> cases q <;> simp [h]

/-! ## Equations of the loop -/

theorem likeLoop_nil_text (p : List UInt8) :
    likeLoop [] p = (p.dropWhile (· == percentSign)).isEmpty := by
  rw [likeLoop.eq_def]

theorem likeLoop_nil_pattern (a : UInt8) (t : List UInt8) : likeLoop (a :: t) [] = false := by
  rw [likeLoop.eq_def]

theorem likeLoop_lone_escape (a : UInt8) (t : List UInt8) :
    likeLoop (a :: t) [backslash] = false := by
  rw [likeLoop.eq_def]; simp

theorem likeLoop_escape (a x : UInt8) (t p : List UInt8) :
    likeLoop (a :: t) (backslash :: x :: p) = (tolower x == tolower a && likeLoop t p) := by
  rw [likeLoop.eq_def]; simp

theorem likeLoop_underscore (a : UInt8) (t p : List UInt8) :
    likeLoop (a :: t) (underscore :: p) = likeLoop t p := by
  rw [likeLoop.eq_def]; simp [underscore_ne_percentSign, Ne.symm backslash_ne_underscore]

theorem likeLoop_literal {c : UInt8} (hp : c ≠ percentSign) (hu : c ≠ underscore)
    (he : c ≠ backslash) (a : UInt8) (t p : List UInt8) :
    likeLoop (a :: t) (c :: p) = (tolower c == tolower a && likeLoop t p) := by
  rw [likeLoop.eq_def]; simp [hp, hu, he]

theorem likeLoop_percent (a : UInt8) (t p : List UInt8) :
    likeLoop (a :: t) (percentSign :: p) =
      match skipWildcards (a :: t) p with
      | none => false
      | some (_, []) => true
      | some (t', c' :: p') =>
        match firstPattern (c' :: p') with
        | none => false
        | some firstpat => scanText firstpat (c' :: p') t' := by
  rw [likeLoop.eq_def]
  simp only [Ne.symm backslash_ne_percentSign, if_false, if_true]
  split <;> rename_i h <;> simp [h]

/-! ## The LIKE language -/

def likeLanguage (escapeEq : UInt8 → UInt8 → Bool) : List UInt8 → List UInt8 → Bool
  | t, [] => t.isEmpty
  | t, c :: p =>
    if c = percentSign then (List.range (t.length + 1)).any fun i => likeLanguage escapeEq (t.drop i) p
    else if c = underscore then
      match t with
      | [] => false
      | _ :: t => likeLanguage escapeEq t p
    else if c = backslash then
      match p with
      | [] => false
      | x :: p =>
        match t with
        | [] => false
        | a :: t => escapeEq x a && likeLanguage escapeEq t p
    else
      match t with
      | [] => false
      | a :: t => tolower c == tolower a && likeLanguage escapeEq t p

def likeMatches : List UInt8 → List UInt8 → Bool := likeLanguage fun x a => tolower x == tolower a

def literalEscapeMatches : List UInt8 → List UInt8 → Bool := likeLanguage fun x a => x == a

def endsInEscape : List UInt8 → Bool
  | [] => false
  | c :: rest =>
    if c = backslash then
      match rest with
      | [] => true
      | _ :: rest => endsInEscape rest
    else endsInEscape rest

theorem endsInEscape_escape (x : UInt8) (p : List UInt8) :
    endsInEscape (backslash :: x :: p) = endsInEscape p := by
  simp [endsInEscape]

theorem endsInEscape_of_ne {c : UInt8} (he : c ≠ backslash) (p : List UInt8) :
    endsInEscape (c :: p) = endsInEscape p := by
  rw [endsInEscape.eq_def]
  simp [he]

section Language

variable (escapeEq : UInt8 → UInt8 → Bool)

theorem likeLanguage_cons (t : List UInt8) (c : UInt8) (p : List UInt8) :
    likeLanguage escapeEq t (c :: p) =
      if c = percentSign then
        (List.range (t.length + 1)).any fun i => likeLanguage escapeEq (t.drop i) p
      else if c = underscore then
        match t with
        | [] => false
        | _ :: t => likeLanguage escapeEq t p
      else if c = backslash then
        match p with
        | [] => false
        | x :: p =>
          match t with
          | [] => false
          | a :: t => escapeEq x a && likeLanguage escapeEq t p
      else
        match t with
        | [] => false
        | a :: t => tolower c == tolower a && likeLanguage escapeEq t p := by
  rw [likeLanguage.eq_def]

theorem likeLanguage_nil_pattern (t : List UInt8) : likeLanguage escapeEq t [] = t.isEmpty := by
  rw [likeLanguage.eq_def]

theorem likeLanguage_percent (t p : List UInt8) :
    likeLanguage escapeEq t (percentSign :: p) =
      (List.range (t.length + 1)).any fun i => likeLanguage escapeEq (t.drop i) p := by
  rw [likeLanguage_cons]; simp

@[simp] theorem likeLanguage_underscore_nil (p : List UInt8) :
    likeLanguage escapeEq [] (underscore :: p) = false := by
  rw [likeLanguage_cons]; simp [underscore_ne_percentSign]

@[simp] theorem likeLanguage_underscore_cons (a : UInt8) (t p : List UInt8) :
    likeLanguage escapeEq (a :: t) (underscore :: p) = likeLanguage escapeEq t p := by
  rw [likeLanguage_cons]; simp [underscore_ne_percentSign]

theorem likeLanguage_lone_escape (t : List UInt8) :
    likeLanguage escapeEq t [backslash] = false := by
  rw [likeLanguage_cons]; simp [backslash_ne_percentSign, backslash_ne_underscore]

theorem likeLanguage_escape_nil (x : UInt8) (p : List UInt8) :
    likeLanguage escapeEq [] (backslash :: x :: p) = false := by
  rw [likeLanguage_cons]; simp [backslash_ne_percentSign, backslash_ne_underscore]

theorem likeLanguage_escape_cons (x a : UInt8) (t p : List UInt8) :
    likeLanguage escapeEq (a :: t) (backslash :: x :: p) = (escapeEq x a && likeLanguage escapeEq t p) := by
  rw [likeLanguage_cons]; simp [backslash_ne_percentSign, backslash_ne_underscore]

section Literal

variable {c : UInt8} (hp : c ≠ percentSign) (hu : c ≠ underscore) (he : c ≠ backslash)
include hp hu he

theorem likeLanguage_literal_nil (p : List UInt8) : likeLanguage escapeEq [] (c :: p) = false := by
  rw [likeLanguage_cons]; simp [hp, hu, he]

theorem likeLanguage_literal_cons (a : UInt8) (t p : List UInt8) :
    likeLanguage escapeEq (a :: t) (c :: p) = (tolower c == tolower a && likeLanguage escapeEq t p) := by
  rw [likeLanguage_cons]; simp [hp, hu, he]

end Literal

theorem likeLanguage_nil_text (p : List UInt8) :
    likeLanguage escapeEq [] p = (p.dropWhile (· == percentSign)).isEmpty := by
  induction p with
  | nil => rfl
  | cons c p ih =>
    by_cases hp : c = percentSign
    · subst hp
      simp [likeLanguage_percent, ih]
    have hne : (c == percentSign) = false := beq_false_of_ne hp
    rw [List.dropWhile_cons, if_neg (by simp [hne])]
    by_cases hu : c = underscore
    · subst hu
      exact likeLanguage_underscore_nil escapeEq p
    by_cases he : c = backslash
    · subst he
      cases p with
      | nil => exact likeLanguage_lone_escape escapeEq []
      | cons x p => exact likeLanguage_escape_nil escapeEq x p
    · exact likeLanguage_literal_nil escapeEq hp hu he p

theorem likeLanguage_percent_iff (t p : List UInt8) :
    likeLanguage escapeEq t (percentSign :: p) = true ↔
      ∃ i ≤ t.length, likeLanguage escapeEq (t.drop i) p = true := by
  simp [likeLanguage_percent, List.any_eq_true, Nat.lt_succ_iff]

theorem likeLanguage_percent_only (t : List UInt8) :
    likeLanguage escapeEq t [percentSign] = true :=
  (likeLanguage_percent_iff escapeEq t []).2 ⟨t.length, Nat.le_refl _, by simp [likeLanguage_nil_pattern]⟩

theorem likeLanguage_percent_lone_escape (t : List UInt8) :
    likeLanguage escapeEq t [percentSign, backslash] = false := by
  rw [← Bool.not_eq_true, likeLanguage_percent_iff]
  simp [likeLanguage_lone_escape]

theorem likeLanguage_percent_percent (t p : List UInt8) :
    likeLanguage escapeEq t (percentSign :: percentSign :: p) =
      likeLanguage escapeEq t (percentSign :: p) := by
  rw [Bool.eq_iff_iff, likeLanguage_percent_iff, likeLanguage_percent_iff]
  constructor
  · rintro ⟨i, hi, h⟩
    obtain ⟨j, hj, h⟩ := (likeLanguage_percent_iff escapeEq _ _).1 h
    rw [List.drop_drop] at h
    exact ⟨i + j, by simp at hj; omega, h⟩
  · rintro ⟨i, hi, h⟩
    exact ⟨0, Nat.zero_le _, (likeLanguage_percent_iff escapeEq _ _).2 ⟨i, hi, h⟩⟩

theorem likeLanguage_percent_underscore_nil (p : List UInt8) :
    likeLanguage escapeEq [] (percentSign :: underscore :: p) = false := by
  rw [← Bool.not_eq_true, likeLanguage_percent_iff]
  rintro ⟨i, -, h⟩
  simp at h

theorem likeLanguage_percent_underscore (a : UInt8) (t p : List UInt8) :
    likeLanguage escapeEq (a :: t) (percentSign :: underscore :: p) =
      likeLanguage escapeEq t (percentSign :: p) := by
  rw [Bool.eq_iff_iff, likeLanguage_percent_iff, likeLanguage_percent_iff]
  constructor
  · rintro ⟨i, hi, h⟩
    -- the '_' takes the byte at the position the '%' stopped at, so there is one
    have hlt : i < (a :: t).length := by
      by_contra hge
      rw [List.drop_eq_nil_of_le (by omega), likeLanguage_underscore_nil] at h
      contradiction
    rw [List.drop_eq_getElem_cons hlt, likeLanguage_underscore_cons, List.drop_succ_cons] at h
    exact ⟨i, by simp at hlt; omega, h⟩
  · rintro ⟨i, hi, h⟩
    have hlt : i < (a :: t).length := by simp; omega
    refine ⟨i, Nat.le_of_lt hlt, ?_⟩
    rw [List.drop_eq_getElem_cons hlt, likeLanguage_underscore_cons, List.drop_succ_cons]
    exact h

theorem likeLanguage_percent_skip (t p : List UInt8) :
    likeLanguage escapeEq t (percentSign :: p) =
      match skipWildcards t p with
      | none => false
      | some (t', p') => likeLanguage escapeEq t' (percentSign :: p') := by
  induction p generalizing t with
  | nil => rfl
  | cons c p ih =>
    by_cases hp : c = percentSign
    · subst hp
      rw [likeLanguage_percent_percent, ih]
      simp [skipWildcards]
    by_cases hu : c = underscore
    · subst hu
      cases t with
      | nil => simp [likeLanguage_percent_underscore_nil, skipWildcards, underscore_ne_percentSign]
      | cons a t =>
        rw [likeLanguage_percent_underscore, ih]
        simp [skipWildcards, underscore_ne_percentSign]
    · simp [skipWildcards, hp, hu]

theorem likeLanguage_nil_append_zero (p : List UInt8) :
    likeLanguage escapeEq [] (p ++ [0]) = false := by
  rw [likeLanguage_nil_text, List.dropWhile_append]
  split <;> simp [percentSign]

theorem likeLanguage_zero_cons (a : UInt8) (t p : List UInt8) :
    likeLanguage escapeEq (a :: t) (0 :: p) = (tolower 0 == tolower a && likeLanguage escapeEq t p) :=
  likeLanguage_literal_cons escapeEq (by decide) (by decide) (by decide) a t p

theorem likeLanguage_append_zero (t p : List UInt8) (he : endsInEscape p = false) :
    likeLanguage escapeEq (t ++ [0]) (p ++ [0]) = likeLanguage escapeEq t p := by
  fun_induction likeLanguage escapeEq t p with
  | case1 t =>
    cases t <;> simp [likeLanguage_zero_cons, likeLanguage_nil_pattern]
  | case2 t p ih =>
    have he' : endsInEscape p = false := by
      rwa [endsInEscape_of_ne (Ne.symm backslash_ne_percentSign)] at he
    rw [← likeLanguage_percent, List.cons_append, Bool.eq_iff_iff, likeLanguage_percent_iff,
      likeLanguage_percent_iff]
    constructor
    · rintro ⟨i, hi, h⟩
      -- the '%' cannot take the appended NUL: the rest of the pattern still needs it
      have hle : i ≤ t.length := by
        by_contra hgt
        rw [List.drop_eq_nil_of_le (by simp; omega), likeLanguage_nil_append_zero] at h
        contradiction
      rw [List.drop_append_of_le_length hle, ih i he'] at h
      exact ⟨i, hle, h⟩
    · rintro ⟨i, hi, h⟩
      refine ⟨i, by simp; omega, ?_⟩
      rw [List.drop_append_of_le_length hi, ih i he']
      exact h
  | case3 p =>
    simp [likeLanguage_nil_append_zero]
  | case4 p a t _ ih =>
    rw [endsInEscape_of_ne (Ne.symm backslash_ne_underscore)] at he
    simp only [List.cons_append]
    rw [likeLanguage_underscore_cons, ih he]
  | case5 t =>
    simp [endsInEscape] at he
  | case6 x p =>
    simp [likeLanguage_escape_cons, likeLanguage_nil_append_zero]
  | case7 x p a t _ _ ih =>
    rw [endsInEscape_escape] at he
    simp only [List.cons_append]
    rw [likeLanguage_escape_cons, ih he]
  | case8 c p hp hu he' =>
    simp [likeLanguage_literal_cons _ hp hu he', likeLanguage_nil_append_zero]
  | case9 c p hp hu he' a t ih =>
    rw [endsInEscape_of_ne he'] at he
    simp only [List.cons_append]
    rw [likeLanguage_literal_cons _ hp hu he', ih he]

end Language

/-! ## Like decides the language -/

theorem likeMatches_head {c f : UInt8} {q : List UInt8} (hp : c ≠ percentSign)
    (hu : c ≠ underscore) (hf : firstPattern (c :: q) = some f) :
    likeMatches [] (c :: q) = false ∧ ∀ b s, likeMatches (b :: s) (c :: q) = true → tolower b = f := by
  simp only [firstPattern] at hf
  by_cases he : c = backslash
  · subst he
    cases q with
    | nil => simp at hf
    | cons x q =>
      simp only [if_true, List.head?_cons, Option.map_some, Option.some_inj] at hf
      refine ⟨likeLanguage_escape_nil _ x q, fun b s h => ?_⟩
      simp only [likeMatches, likeLanguage_escape_cons, Bool.and_eq_true, beq_iff_eq] at h
      rw [← hf, h.1]
  · rw [if_neg he, Option.some_inj] at hf
    refine ⟨likeLanguage_literal_nil _ hp hu he q, fun b s h => ?_⟩
    simp only [likeMatches, likeLanguage_literal_cons _ hp hu he, Bool.and_eq_true, beq_iff_eq] at h
    rw [← hf, h.1]

section Scan

variable (f : UInt8) (q : List UInt8) (hLike : ∀ s, Like s q = likeMatches s q)
  (hhead : ∀ b s, likeMatches (b :: s) q = true → tolower b = f) (hnil : likeMatches [] q = false)
include hLike hhead hnil

theorem scanText_iff : ∀ t, scanText f q t = true ↔ ∃ i ≤ t.length, likeMatches (t.drop i) q = true
  | [] => by simp [scanText, hnil]
  | b :: t => by
    rw [scanText, Bool.or_eq_true, Bool.and_eq_true, beq_iff_eq, hLike, scanText_iff t]
    constructor
    · rintro (⟨-, h⟩ | ⟨i, hi, h⟩)
      · exact ⟨0, Nat.zero_le _, h⟩
      · exact ⟨i + 1, by simp; omega, h⟩
    · rintro ⟨_ | i, hi, h⟩
      · exact Or.inl ⟨hhead b t h, h⟩
      · exact Or.inr ⟨i, by simp at hi; omega, h⟩

end Scan

theorem likeLoop_eq_likeMatches : ∀ t p, likeLoop t p = likeMatches t p
  | [], p => by rw [likeLoop_nil_text, likeMatches, likeLanguage_nil_text]
  | a :: t, [] => by rw [likeLoop_nil_pattern, likeMatches, likeLanguage_nil_pattern]; rfl
  | a :: t, c :: p => by
    by_cases he : c = backslash
    · subst he
      cases p with
      | nil => rw [likeLoop_lone_escape, likeMatches, likeLanguage_lone_escape]
      | cons x p =>
        rw [likeLoop_escape, likeLoop_eq_likeMatches t p, likeMatches, likeLanguage_escape_cons]
    by_cases hp : c = percentSign
    · subst hp
      rw [likeLoop_percent, likeMatches, likeLanguage_percent_skip]
      split
      next h => rw [h]
      next t' h => simp only [h, likeLanguage_percent_only]
      next t' c' p' h =>
        simp only [h]
        obtain ⟨hp', hu'⟩ := skipWildcards_head _ _ h
        have hlen := skipWildcards_length h
        split
        next hf =>
          obtain ⟨rfl, rfl⟩ := firstPattern_eq_none.1 hf
          rw [likeLanguage_percent_lone_escape]
        next f hf =>
          have hLike : ∀ s, Like s (c' :: p') = likeMatches s (c' :: p') := fun s => by
            rw [Like, if_neg (by simp [hp'])]
            exact likeLoop_eq_likeMatches s (c' :: p')
          obtain ⟨hnil, hhead⟩ := likeMatches_head hp' hu' hf
          rw [Bool.eq_iff_iff, scanText_iff f _ hLike hhead hnil, likeLanguage_percent_iff]
          rfl
    by_cases hu : c = underscore
    · subst hu
      rw [likeLoop_underscore, likeLoop_eq_likeMatches t p, likeMatches, likeLanguage_underscore_cons]
    · rw [likeLoop_literal hp hu he, likeLoop_eq_likeMatches t p, likeMatches,
        likeLanguage_literal_cons _ hp hu he]
termination_by _ p => p.length

theorem like_eq_likeMatches (t p : List UInt8) : Like t p = likeMatches t p := by
  rw [Like]
  split
  next h =>
    subst h
    exact (likeLanguage_percent_only _ t).symm
  next => exact likeLoop_eq_likeMatches t p

theorem like_escaped_byte_compares_under_tolower :
    Like [97] [92, 65] = true ∧ literalEscapeMatches [97] [92, 65] = false := by
  refine ⟨?_, by decide⟩
  show Like [97] [backslash, 65] = true
  rw [Like, if_neg (by decide), likeLoop_escape, likeLoop_nil_text]
  decide

theorem like_matches_under_both_length_conventions (t p : List UInt8)
    (hesc : endsInEscape p = false) :
    Like t p = likeMatches t p ∧ Like (t ++ [0]) (p ++ [0]) = Like t p := by
  refine ⟨like_eq_likeMatches t p, ?_⟩
  rw [like_eq_likeMatches, like_eq_likeMatches]
  exact likeLanguage_append_zero _ t p hesc

theorem like_matches_under_both_length_conventions_of_unit_test :
    endsInEscape [37, 98, 95, 115, 32, 92, 92, 97, 118, 101, 110, 117, 101] = false ∧
      (Like [102, 111, 114, 98, 101, 115, 32, 92, 97, 118, 101, 110, 117, 101]
          [37, 98, 95, 115, 32, 92, 92, 97, 118, 101, 110, 117, 101] =
        likeMatches [102, 111, 114, 98, 101, 115, 32, 92, 97, 118, 101, 110, 117, 101]
          [37, 98, 95, 115, 32, 92, 92, 97, 118, 101, 110, 117, 101] ∧
      Like ([102, 111, 114, 98, 101, 115, 32, 92, 97, 118, 101, 110, 117, 101] ++ [0])
          ([37, 98, 95, 115, 32, 92, 92, 97, 118, 101, 110, 117, 101] ++ [0]) =
        Like [102, 111, 114, 98, 101, 115, 32, 92, 97, 118, 101, 110, 117, 101]
          [37, 98, 95, 115, 32, 92, 92, 97, 118, 101, 110, 117, 101]) :=
  ⟨by decide, like_matches_under_both_length_conventions _ _ (by decide)⟩

example : Like [65, 108, 108, 105, 115, 111, 110] [37, 108, 105, 115, 111, 110] = true := by
  rw [like_eq_likeMatches]; decide

end Peloton.Function.StringFunctions
