import Mathlib.Algebra.Group.Nat.Defs
import Mathlib.Data.Nat.Log

/-!
# Rounding to significant bits

An integer rounded to `p` significant bits, ties to even: what remains of it in a
binary floating-point format with a significand of `p` bits and no bound on the
exponent. Integers of `p` bits are kept, and nothing else is rounded to one. The other
integers that share their rounding with none are the odd multiples of two of `p + 1` bits.
-/

namespace OcppGo.Lib

/-- The quotient to the nearest integer, ties to even. -/
def divHalfEven (n d : Nat) : Nat :=
  if 2 * (n % d) < d ∨ 2 * (n % d) = d ∧ n / d % 2 = 0 then n / d else n / d + 1

/-- A natural number rounded to `p` significant bits. -/
def roundBits (p n : Nat) : Nat :=
  -- the bits beyond the first `p`
  let k := n.log2 + 1 - p
  divHalfEven n (2 ^ k) * 2 ^ k

/-- An integer rounded to `p` significant bits. -/
def roundInt (p : Nat) (n : Int) : Int :=
  if n < 0 then -(roundBits p n.natAbs : Int) else roundBits p n.natAbs

section

variable {p q k n m : Nat}

theorem divHalfEven_ge (n d : Nat) : n / d ≤ divHalfEven n d := by
  unfold divHalfEven
  split <;> omega

theorem divHalfEven_le (n d : Nat) : divHalfEven n d ≤ n / d + 1 := by
  unfold divHalfEven
  split <;> omega

/-- A multiple is divided as it is. -/
theorem divHalfEven_mul (hd : 0 < m) : divHalfEven (q * m) m = q := by
  unfold divHalfEven
  rw [Nat.mul_mod_left, Nat.mul_div_cancel q hd, if_pos (Or.inl hd)]

theorem roundBits_of_dvd (h : 2 ^ (n.log2 + 1 - p) ∣ n) : roundBits p n = n := by
  obtain ⟨q, hq⟩ := h
  unfold roundBits
  dsimp only
  generalize hk : n.log2 + 1 - p = k at hq ⊢
  rw [hq, Nat.mul_comm (2 ^ k) q, divHalfEven_mul (Nat.two_pow_pos k)]

/-- **What fits into `p` bits is kept.** -/
theorem roundBits_of_lt (h : n < 2 ^ p) : roundBits p n = n := by
  refine roundBits_of_dvd ?_
  rcases Nat.eq_zero_or_pos n with rfl | hn
  · exact Nat.dvd_zero _
  · have hlog : n.log2 < p := (Nat.log2_lt hn.ne').mpr h
    rw [show n.log2 + 1 - p = 0 by omega]
    exact Nat.one_dvd n

/-- Rounding does not lead below the leading power of two. -/
theorem roundBits_ge_log2 (hp : 0 < p) (h : p ≤ n.log2) : 2 ^ n.log2 ≤ roundBits p n := by
  have hn : n ≠ 0 := by
    rintro rfl
    rw [Nat.log2_zero] at h
    omega
  unfold roundBits
  dsimp only
  generalize hk : n.log2 + 1 - p = k
  have hquot : 2 ^ (p - 1) ≤ n / 2 ^ k := by
    rw [Nat.le_div_iff_mul_le (Nat.two_pow_pos k), ← Nat.pow_add,
      show p - 1 + k = n.log2 by omega]
    exact Nat.log2_self_le hn
  calc 2 ^ n.log2 = 2 ^ (p - 1) * 2 ^ k := by rw [← Nat.pow_add, show p - 1 + k = n.log2 by omega]
    _ ≤ divHalfEven n (2 ^ k) * 2 ^ k :=
        Nat.mul_le_mul_right _ (hquot.trans (divHalfEven_ge _ _))

theorem roundBits_ge (hp : 0 < p) (hpq : p ≤ q) (h : 2 ^ q ≤ n) : 2 ^ q ≤ roundBits p n := by
  have hn : n ≠ 0 := by
    have := Nat.two_pow_pos q
    omega
  have hlog : q ≤ n.log2 := (Nat.le_log2 hn).mpr h
  exact (Nat.pow_le_pow_right (by decide) hlog).trans (roundBits_ge_log2 hp (hpq.trans hlog))

/-- **Nothing else is rounded to a number of `p` bits.** -/
theorem eq_of_roundBits_eq (hp : 0 < p) (h : roundBits p m = n) (hn : n < 2 ^ p) : m = n := by
  by_cases hm : m < 2 ^ p
  · rw [← h, roundBits_of_lt hm]
  · have hge := roundBits_ge hp (Nat.le_refl p) (Nat.le_of_not_lt hm)
    omega

/-- With one bit too many, a number is halved, and a tie goes to the even half. -/
theorem roundBits_succ (h : 2 ^ p ≤ n) (h' : n < 2 ^ (p + 1)) :
    roundBits p n = (if n % 2 = 0 ∨ n / 2 % 2 = 0 then n / 2 else n / 2 + 1) * 2 := by
  have hlog : n.log2 = p := by
    have hn : n ≠ 0 := by
      have := Nat.two_pow_pos p
      omega
    exact (Nat.log2_eq_iff hn).mpr ⟨h, h'⟩
  have hsplit : (2 * (n % 2) < 2 ∨ 2 * (n % 2) = 2 ∧ n / 2 % 2 = 0) ↔
      (n % 2 = 0 ∨ n / 2 % 2 = 0) := by omega
  unfold roundBits divHalfEven
  simp only [hlog, Nat.add_sub_cancel_left, Nat.pow_one, hsplit]

/-- A multiple of two of `p + 1` bits is kept, and an odd one is the rounding of nothing else. -/
theorem eq_of_roundBits_eq_succ (hp : 0 < p) (h : roundBits p m = n) (hn : n < 2 ^ (p + 1))
    (hodd : n % 4 = 2) : m = n := by
  rcases Nat.lt_or_ge m (2 ^ p) with hm | hm
  · rw [← h, roundBits_of_lt hm]
  · have hm' : m < 2 ^ (p + 1) := by
      by_contra hge
      have := roundBits_ge hp (Nat.le_succ p) (Nat.le_of_not_lt hge)
      omega
    rw [roundBits_succ hm hm'] at h
    split at h <;> omega

/-- A significand of `p` bits, and the next power of two, with zeros behind. -/
theorem roundBits_of_representable (hp : 0 < p) (hq : q ≤ 2 ^ p) :
    roundBits p (q * 2 ^ k) = q * 2 ^ k := by
  refine roundBits_of_dvd ?_
  rcases Nat.eq_zero_or_pos q with rfl | hpos
  · rw [Nat.zero_mul]
    exact Nat.dvd_zero _
  rcases Nat.lt_or_eq_of_le hq with hlt | rfl
  · have hne : q * 2 ^ k ≠ 0 := Nat.mul_ne_zero hpos.ne' (Nat.two_pow_pos k).ne'
    have hlog : (q * 2 ^ k).log2 < p + k := by
      rw [Nat.log2_lt hne, Nat.pow_add]
      exact Nat.mul_lt_mul_of_pos_right hlt (Nat.two_pow_pos k)
    exact Nat.dvd_trans (Nat.pow_dvd_pow 2 (by omega)) (Nat.dvd_mul_left _ _)
  · rw [← Nat.pow_add, Nat.log2_two_pow]
    exact Nat.pow_dvd_pow 2 (by omega)

/-- **Rounding twice is rounding once.** -/
theorem roundBits_idem (hp : 0 < p) : roundBits p (roundBits p n) = roundBits p n := by
  refine roundBits_of_representable hp ((divHalfEven_le _ _).trans ?_)
  rcases Nat.eq_zero_or_pos n with rfl | hn
  · rw [Nat.zero_div]
    exact Nat.two_pow_pos p
  · have hlt : n < 2 ^ (n.log2 + 1) := Nat.lt_log2_self
    refine Nat.div_lt_of_lt_mul (lt_of_lt_of_le hlt ?_)
    rw [← Nat.pow_add]
    exact Nat.pow_le_pow_right (by decide) (by omega)

/-- A number whose last bits are lost has another one with the same rounding: its rounding. -/
theorem exists_of_not_dvd (hp : 0 < p) (h : ¬ 2 ^ (n.log2 + 1 - p) ∣ n) :
    ∃ m, m ≠ n ∧ roundBits p m = roundBits p n := by
  refine ⟨roundBits p n, fun he => h ?_, ?_⟩
  · conv => rhs; rw [← he]
    exact Nat.dvd_mul_left _ _
  · exact roundBits_idem hp

/-- A multiple of more bits shares its rounding with its successor, unless that is a tie. -/
theorem roundBits_succ_of_dvd (hp : 0 < p) (hn : 2 ^ p ≤ n) (h : 2 ^ (n.log2 + 1 - p) ∣ n)
    (htie : n < 2 ^ (p + 1) → n % 4 ≠ 2) : roundBits p (n + 1) = roundBits p n := by
  have hne : n ≠ 0 := by
    have := Nat.two_pow_pos p
    omega
  have hlog : p ≤ n.log2 := (Nat.le_log2 hne).mpr hn
  rw [roundBits_of_dvd h]
  obtain ⟨k, hk⟩ : ∃ k, n.log2 + 1 - p = k + 1 := ⟨n.log2 - p, by omega⟩
  have htop : 2 ^ (k + 1) ∣ 2 ^ (n.log2 + 1) := Nat.pow_dvd_pow 2 (by omega)
  have hlow := Nat.log2_self_le hne
  have hhigh : n < 2 ^ (n.log2 + 1) := Nat.lt_log2_self
  rw [hk] at h
  have hpow : 2 ≤ 2 ^ (k + 1) := by
    rw [Nat.pow_succ]
    have := Nat.two_pow_pos k
    omega
  -- the next multiple is at most the next power of two
  have hstep : n + 2 ^ (k + 1) ≤ 2 ^ (n.log2 + 1) := by
    have hsub := Nat.le_of_dvd (by omega) (Nat.dvd_sub htop h)
    omega
  have hlog' : (n + 1).log2 = n.log2 :=
    (Nat.log2_eq_iff (by omega)).mpr ⟨by omega, by omega⟩
  obtain ⟨q, hq⟩ := h
  have hmod : (n + 1) % 2 ^ (k + 1) = 1 := by
    rw [hq, Nat.mul_add_mod, Nat.mod_eq_of_lt (by omega)]
  have hdiv : (n + 1) / 2 ^ (k + 1) = q := by
    rw [hq, Nat.mul_add_div (by omega), Nat.div_eq_of_lt (by omega), Nat.add_zero]
  have hround : 2 * 1 < 2 ^ (k + 1) ∨ 2 * 1 = 2 ^ (k + 1) ∧ q % 2 = 0 := by
    cases k with
    | zero =>
        have hshort : n < 2 ^ (p + 1) := by rwa [show n.log2 = p by omega] at hhigh
        have := htie hshort
        omega
    | succ k =>
        rw [Nat.pow_succ, Nat.pow_succ]
        have := Nat.two_pow_pos k
        omega
  unfold roundBits divHalfEven
  simp only [hlog', hk, hmod, hdiv, if_pos hround]
  rw [hq, Nat.mul_comm]

/-- **The numbers that share their rounding with no other.** -/
theorem roundBits_alone_iff (hp : 0 < p) :
    (∀ m, roundBits p m = roundBits p n → m = n) ↔
      n < 2 ^ p ∨ n < 2 ^ (p + 1) ∧ n % 4 = 2 := by
  constructor
  · intro halone
    by_contra hnot
    by_cases hdvd : 2 ^ (n.log2 + 1 - p) ∣ n
    · have hsucc := roundBits_succ_of_dvd hp (by omega) hdvd
        (fun hlt hodd => hnot (Or.inr ⟨hlt, hodd⟩))
      have := halone (n + 1) hsucc
      omega
    · obtain ⟨m, hne, hm⟩ := exists_of_not_dvd hp hdvd
      exact hne (halone m hm)
  · intro h m hm
    by_cases hsmall : n < 2 ^ p
    · rw [roundBits_of_lt hsmall] at hm
      exact eq_of_roundBits_eq hp hm hsmall
    · obtain ⟨hlt, hodd⟩ := h.resolve_left hsmall
      rw [roundBits_succ (by omega) hlt, if_pos (Or.inl (by omega))] at hm
      exact eq_of_roundBits_eq_succ hp (hm.trans (by omega)) hlt hodd

end

section

variable {p : Nat} {n m : Int}

theorem roundInt_natAbs (p : Nat) (n : Int) : (roundInt p n).natAbs = roundBits p n.natAbs := by
  unfold roundInt
  split <;> omega

theorem roundInt_of_lt (h : n.natAbs < 2 ^ p) : roundInt p n = n := by
  unfold roundInt
  rw [roundBits_of_lt h]
  split <;> omega

theorem roundInt_idem (hp : 0 < p) : roundInt p (roundInt p n) = roundInt p n := by
  have habs := roundInt_natAbs p n
  have hidem := roundBits_idem (n := n.natAbs) hp
  by_cases hn : n < 0
  · by_cases hz : roundBits p n.natAbs = 0
    · rw [show roundInt p n = 0 by omega]
      exact roundInt_of_lt (Nat.two_pow_pos p)
    · have hneg : roundInt p n < 0 := by
        rw [roundInt, if_pos hn]
        omega
      rw [roundInt, if_pos hneg, habs, hidem, roundInt, if_pos hn]
  · have hpos : ¬ roundInt p n < 0 := by
      rw [roundInt, if_neg hn]
      omega
    rw [roundInt, if_neg hpos, habs, hidem, roundInt, if_neg hn]

theorem roundInt_neg (p : Nat) (n : Int) : roundInt p (-n) = -roundInt p n := by
  have hzero : roundBits p 0 = 0 := roundBits_of_lt (Nat.two_pow_pos p)
  unfold roundInt
  rw [Int.natAbs_neg]
  rcases lt_trichotomy n 0 with hn | rfl | hn
  · rw [if_neg (by omega), if_pos hn, Int.neg_neg]
  · simp [hzero]
  · rw [if_pos (by omega), if_neg (by omega)]

/-- **The integers that share their rounding with no other.** -/
theorem roundInt_alone_iff (hp : 0 < p) :
    (∀ m, roundInt p m = roundInt p n → m = n) ↔
      n.natAbs < 2 ^ p ∨ n.natAbs < 2 ^ (p + 1) ∧ n.natAbs % 4 = 2 := by
  rw [← roundBits_alone_iff hp]
  constructor
  · intro halone m hm
    -- the same with the sign of `n`
    have hpos : roundInt p (m : Int) = roundBits p m := by
      rw [roundInt, if_neg (by omega), Int.natAbs_natCast]
    by_cases hn : n < 0
    · have := halone (-(m : Int)) (by rw [roundInt_neg, hpos, hm, roundInt, if_pos hn])
      omega
    · have := halone m (by rw [hpos, hm, roundInt, if_neg hn])
      omega
  · intro halone m hm
    have habs : m.natAbs = n.natAbs := by
      refine halone _ ?_
      rw [← roundInt_natAbs, ← roundInt_natAbs, hm]
    rcases Int.natAbs_eq_natAbs_iff.mp habs with heq | hneg
    · exact heq
    · -- opposite numbers with one rounding are rounded to zero, and are zero
      rw [hneg, roundInt_neg] at hm
      have hzero : roundBits p 0 = roundBits p n.natAbs := by
        rw [roundBits_of_lt (Nat.two_pow_pos p), ← roundInt_natAbs]
        omega
      have := halone 0 hzero
      omega

end

end OcppGo.Lib
