import Mathlib.Algebra.Order.Floor.Ring
import Mathlib.Data.Int.Log
import Mathlib.Data.Rat.Floor
import Mathlib.Tactic.Linarith
import Mathlib.Tactic.Ring
import Mathlib.Tactic.Positivity

/-!
# Binary64 arithmetic

Finite IEEE 754 doubles as the rationals they stand for: 53 significant bits,
a smallest spacing of `2 ^ -1074`, results rounded to nearest with ties to
even. Signed zeros are one value, and no operation overflows to infinity: the
range is for the user to respect.

* `roundEven` — the nearest integer, ties to even.
* `round` — the nearest double; `round_mono`, `round_eq_self`.
* `Binary64` — a rational that is its own rounding, with `+`, `-`, `*`, `/`.
* `mul_le_mul_left`, `add_le_add_left` — rounded operations are monotone.
-/

namespace Binary64

-- ---------------------------------------------------------------------------
-- The nearest integer
-- ---------------------------------------------------------------------------

/-- The nearest integer; half-way cases go to the even neighbour. -/
def roundEven (q : ℚ) : ℤ :=
  if q - ⌊q⌋ < 1 / 2 then ⌊q⌋
  else if 1 / 2 < q - ⌊q⌋ then ⌊q⌋ + 1
  else if ⌊q⌋ % 2 = 0 then ⌊q⌋ else ⌊q⌋ + 1

/-- Rounding to an integer never goes below the floor. -/
theorem floor_le_roundEven (q : ℚ) : ⌊q⌋ ≤ roundEven q := by
  unfold roundEven
  split_ifs <;> omega

/-- Rounding to an integer goes at most one above the floor. -/
theorem roundEven_le_floor_add_one (q : ℚ) : roundEven q ≤ ⌊q⌋ + 1 := by
  unfold roundEven
  split_ifs <;> omega

/-- Integers are rounded to themselves. -/
@[simp] theorem roundEven_intCast (n : ℤ) : roundEven (n : ℚ) = n := by
  unfold roundEven
  rw [Int.floor_intCast, sub_self, if_pos (by norm_num)]

theorem roundEven_mono {x y : ℚ} (h : x ≤ y) : roundEven x ≤ roundEven y := by
  have hfloor : ⌊x⌋ ≤ ⌊y⌋ := Int.floor_le_floor h
  rcases hfloor.lt_or_eq with hlt | heq
  · have hx := roundEven_le_floor_add_one x
    have hy := floor_le_roundEven y
    omega
  · -- the same floor: the fraction of `y` is the larger one
    have hfrac : x - ⌊x⌋ ≤ y - ⌊y⌋ := by
      rw [heq]
      linarith
    unfold roundEven
    rw [heq] at hfrac ⊢
    split_ifs <;> first | omega | linarith

-- ---------------------------------------------------------------------------
-- The nearest double
-- ---------------------------------------------------------------------------

/-- The exponent of the spacing of doubles around `q`. -/
def spacing (q : ℚ) : ℤ :=
  max (Int.log 2 q - 52) (-1074)

/-- The nearest double of a nonnegative number. -/
def roundPos (q : ℚ) : ℚ :=
  roundEven (q / 2 ^ spacing q) * 2 ^ spacing q

/-- The nearest double. -/
def round (q : ℚ) : ℚ :=
  if q < 0 then -roundPos (-q) else roundPos q

/-- The spacing of the numbers is positive. -/
theorem zpow_two_pos (e : ℤ) : (0 : ℚ) < 2 ^ e :=
  zpow_pos (by norm_num) e

theorem roundPos_nonneg {q : ℚ} (h : 0 ≤ q) : 0 ≤ roundPos q := by
  have hdiv : ((0 : ℤ) : ℚ) ≤ q / 2 ^ spacing q := by
    rw [Int.cast_zero]
    exact div_nonneg h (zpow_two_pos _).le
  have hround : 0 ≤ roundEven (q / 2 ^ spacing q) := by
    have := roundEven_mono hdiv
    rwa [roundEven_intCast] at this
  unfold roundPos
  exact mul_nonneg (by exact_mod_cast hround) (zpow_two_pos _).le

/-- Numbers of a coarser or equal spacing bound the rounding from above. -/
theorem roundPos_le {q : ℚ} {n : ℤ} (h : q ≤ n * 2 ^ spacing q) :
    roundPos q ≤ n * 2 ^ spacing q := by
  have hpos := zpow_two_pos (spacing q)
  have hdiv : q / 2 ^ spacing q ≤ (n : ℚ) := (div_le_iff₀ hpos).mpr h
  have hround := roundEven_mono hdiv
  rw [roundEven_intCast] at hround
  unfold roundPos
  exact mul_le_mul_of_nonneg_right (by exact_mod_cast hround) hpos.le

/-- A multiple of the spacing below `q` stays below `q` rounded. -/
theorem le_roundPos {q : ℚ} {n : ℤ} (h : n * 2 ^ spacing q ≤ q) :
    n * 2 ^ spacing q ≤ roundPos q := by
  have hpos := zpow_two_pos (spacing q)
  have hdiv : (n : ℚ) ≤ q / 2 ^ spacing q := (le_div_iff₀ hpos).mpr h
  have hround := roundEven_mono hdiv
  rw [roundEven_intCast] at hround
  unfold roundPos
  exact mul_le_mul_of_nonneg_right (by exact_mod_cast hround) hpos.le

/-- A power of two at or above the spacing is a whole number of spacings. -/
theorem zpow_eq_spacings {s e : ℤ} (h : s ≤ e) :
    (2 : ℚ) ^ e = ((2 ^ (e - s).toNat : ℤ) : ℚ) * 2 ^ s := by
  have hnat : ((e - s).toNat : ℤ) = e - s := Int.toNat_of_nonneg (by omega)
  push_cast
  rw [← zpow_natCast, hnat, ← zpow_add₀ (by norm_num)]
  congr 1
  omega

/-- Rounding is monotone on non-negative numbers, across binades too. -/
theorem roundPos_mono {x y : ℚ} (hx : 0 ≤ x) (h : x ≤ y) : roundPos x ≤ roundPos y := by
  rcases hx.eq_or_lt with rfl | hpos
  · have hzero : roundPos 0 = 0 := by
      unfold roundPos
      rw [zero_div, show (0 : ℚ) = ((0 : ℤ) : ℚ) from rfl, roundEven_intCast]
      simp
    rw [hzero]
    exact roundPos_nonneg h
  · have hlog : Int.log 2 x ≤ Int.log 2 y := Int.log_mono_right hpos h
    rcases (show spacing x ≤ spacing y from max_le_max (by omega) le_rfl).lt_or_eq with hlt | heq
    · -- a power of two separates the roundings
      have hy : spacing y = Int.log 2 y - 52 := by
        unfold spacing at *
        omega
      have hxy : Int.log 2 x + 1 ≤ Int.log 2 y := by
        unfold spacing at *
        omega
      have hupper : x ≤ 2 ^ Int.log 2 y := by
        refine (Int.lt_zpow_succ_log_self (b := 2) (by norm_num) x).le.trans ?_
        exact zpow_le_zpow_right₀ (show (1 : ℚ) ≤ 2 by norm_num) hxy
      have hlower : (2 : ℚ) ^ Int.log 2 y ≤ y := by
        exact_mod_cast Int.zpow_log_le_self (by norm_num) (hpos.trans_le h)
      calc roundPos x ≤ 2 ^ Int.log 2 y := by
            rw [zpow_eq_spacings (show spacing x ≤ Int.log 2 y by omega)] at hupper ⊢
            exact roundPos_le hupper
        _ ≤ roundPos y := by
            rw [zpow_eq_spacings (show spacing y ≤ Int.log 2 y by omega)] at hlower ⊢
            exact le_roundPos hlower
    · unfold roundPos
      rw [heq]
      have hdiv : x / 2 ^ spacing y ≤ y / 2 ^ spacing y :=
        div_le_div_of_nonneg_right h (zpow_two_pos _).le
      exact mul_le_mul_of_nonneg_right (by exact_mod_cast roundEven_mono hdiv)
        (zpow_two_pos _).le

/-- Rounding is monotone. -/
theorem round_mono {x y : ℚ} (h : x ≤ y) : round x ≤ round y := by
  unfold round
  split_ifs with hx hy hy
  · exact neg_le_neg (roundPos_mono (by linarith) (by linarith))
  · have h₁ := roundPos_nonneg (show 0 ≤ -x by linarith)
    have h₂ := roundPos_nonneg (show 0 ≤ y by linarith)
    linarith
  · linarith
  · exact roundPos_mono (by linarith) h

/-- Rounding is odd: ties to even are symmetric. -/
theorem round_neg (q : ℚ) : round (-q) = -round q := by
  unfold round
  rcases lt_trichotomy q 0 with h | rfl | h
  · rw [if_neg (by linarith), if_pos h, neg_neg]
  · simp [roundPos, show roundEven 0 = 0 from roundEven_intCast 0]
  · rw [if_pos (by linarith), if_neg (by linarith), neg_neg]

-- ---------------------------------------------------------------------------
-- Doubles
-- ---------------------------------------------------------------------------

/-- At most 53 significant bits above the smallest spacing: `m` spacings of
`2 ^ e`. -/
theorem roundPos_eq_self {m : ℕ} {e : ℤ} (hm : m < 2 ^ 53) (he : -1074 ≤ e) :
    roundPos (m * 2 ^ e) = m * 2 ^ e := by
  rcases Nat.eq_zero_or_pos m with rfl | hpos
  · simp [roundPos, show roundEven 0 = 0 from roundEven_intCast 0]
  · -- the spacing divides `2 ^ e`
    have hq : (0 : ℚ) < m * 2 ^ e := mul_pos (by exact_mod_cast hpos) (zpow_two_pos e)
    have hlt : (m : ℚ) * 2 ^ e < (2 : ℚ) ^ (53 + e) := by
      rw [zpow_add₀ (by norm_num)]
      exact mul_lt_mul_of_pos_right (by exact_mod_cast hm) (zpow_two_pos e)
    have hlog : Int.log 2 ((m : ℚ) * 2 ^ e) < 53 + e := by
      refine (Int.lt_zpow_iff_log_lt (by norm_num) hq).mp ?_
      exact_mod_cast hlt
    have hspacing : spacing ((m : ℚ) * 2 ^ e) ≤ e := by
      unfold spacing
      omega
    have hmul : (m : ℚ) * 2 ^ e = ((m * 2 ^ (e - spacing ((m : ℚ) * 2 ^ e)).toNat : ℤ) : ℚ) *
        2 ^ spacing ((m : ℚ) * 2 ^ e) := by
      push_cast
      rw [mul_assoc, ← Int.cast_two (R := ℚ), ← Int.cast_pow, Int.cast_two,
        ← zpow_eq_spacings hspacing]
    refine le_antisymm ?_ ?_
    · conv_rhs => rw [hmul]
      exact roundPos_le hmul.le
    · conv_lhs => rw [hmul]
      exact le_roundPos hmul.ge

/-- A rounding is some number of spacings, of at most 53 bits. -/
theorem exists_roundPos {q : ℚ} (h : 0 ≤ q) :
    ∃ (m : ℕ) (e : ℤ), m < 2 ^ 53 ∧ -1074 ≤ e ∧ roundPos q = m * 2 ^ e := by
  have hquot : q / 2 ^ spacing q ≤ ((2 ^ 53 : ℤ) : ℚ) := by
    have hlt : q < (2 : ℚ) ^ (Int.log 2 q + 1) := by
      exact_mod_cast Int.lt_zpow_succ_log_self (b := 2) (by norm_num) q
    have hexp : (2 : ℚ) ^ (Int.log 2 q + 1) ≤ 2 ^ (53 + spacing q) := by
      refine zpow_le_zpow_right₀ (by norm_num) ?_
      unfold spacing
      omega
    rw [zpow_add₀ (show (2 : ℚ) ≠ 0 by norm_num) 53] at hexp
    rw [div_le_iff₀ (zpow_two_pos _)]
    exact_mod_cast hlt.le.trans hexp
  have hupper := roundEven_mono hquot
  have hlower := roundEven_mono (show ((0 : ℤ) : ℚ) ≤ q / 2 ^ spacing q by
    rw [Int.cast_zero]
    exact div_nonneg h (zpow_two_pos _).le)
  rw [roundEven_intCast] at hupper hlower
  have hspacing : -1074 ≤ spacing q := le_max_right ..
  rcases hupper.lt_or_eq with hlt | heq
  · refine ⟨(roundEven (q / 2 ^ spacing q)).toNat, spacing q, by omega, hspacing, ?_⟩
    have hnat : ((roundEven (q / 2 ^ spacing q)).toNat : ℤ) = roundEven (q / 2 ^ spacing q) :=
      Int.toNat_of_nonneg hlower
    unfold roundPos
    rw [← hnat]
    rfl
  · -- rounding up to the next power of two: one bit at the next spacing
    refine ⟨2 ^ 52, spacing q + 1, by norm_num, by omega, ?_⟩
    unfold roundPos
    rw [heq, zpow_add₀ (by norm_num)]
    norm_num
    ring

theorem round_of_nonneg {q : ℚ} (h : 0 ≤ q) : round q = roundPos q :=
  if_neg (not_lt.mpr h)

/-- A rounding needs no more rounding. -/
theorem round_idem (q : ℚ) : round (round q) = round q := by
  have hpos : ∀ x : ℚ, 0 ≤ x → round (round x) = round x := by
    intro x hx
    obtain ⟨m, e, hm, he, heq⟩ := exists_roundPos hx
    rw [round_of_nonneg hx, round_of_nonneg (roundPos_nonneg hx), heq, roundPos_eq_self hm he]
  by_cases hneg : q < 0
  · have hq : round q = -round (-q) := by rw [round_neg, neg_neg]
    rw [hq, round_neg, hpos _ (by linarith)]
  · exact hpos q (not_lt.mp hneg)

end Binary64

/-- A finite double. -/
structure Binary64 where
  val     : ℚ
  rounded : Binary64.round val = val

namespace Binary64

/-- The double nearest to a rational. -/
def ofRat (q : ℚ) : Binary64 := ⟨round q, round_idem q⟩

instance : DecidableEq Binary64 := fun a b =>
  decidable_of_iff (a.val = b.val) (by cases a; cases b; simp)

instance : Add Binary64 := ⟨fun a b => ofRat (a.val + b.val)⟩
instance : Sub Binary64 := ⟨fun a b => ofRat (a.val - b.val)⟩
instance : Mul Binary64 := ⟨fun a b => ofRat (a.val * b.val)⟩
instance : Div Binary64 := ⟨fun a b => ofRat (a.val / b.val)⟩
instance : LE Binary64 := ⟨fun a b => a.val ≤ b.val⟩

/-- The order is the order of the values. -/
theorem le_iff {a b : Binary64} : a ≤ b ↔ a.val ≤ b.val := Iff.rfl
theorem add_val (a b : Binary64) : (a + b).val = round (a.val + b.val) := rfl
theorem sub_val (a b : Binary64) : (a - b).val = round (a.val - b.val) := rfl
theorem mul_val (a b : Binary64) : (a * b).val = round (a.val * b.val) := rfl

/-- Integers of at most 53 bits, scaled by a power of two, are exact. -/
theorem ofRat_exact {m : ℕ} {e : ℤ} (hm : m < 2 ^ 53) (he : -1074 ≤ e) :
    (ofRat (m * 2 ^ e)).val = m * 2 ^ e := by
  show round _ = _
  rw [round_of_nonneg (mul_nonneg (Nat.cast_nonneg m) (zpow_two_pos e).le), roundPos_eq_self hm he]

/-- Integers below `2 ^ 53` are exact. -/
theorem round_natCast {m : ℕ} (hm : m < 2 ^ 53) : round (m : ℚ) = m := by
  have hexact := ofRat_exact (e := 0) hm (by norm_num)
  rw [zpow_zero, mul_one] at hexact
  exact hexact

/-- The double nearest to `m`. -/
def ofNat (m : ℕ) : Binary64 := ofRat m

instance (m : ℕ) : OfNat Binary64 m := ⟨ofNat m⟩

theorem round_nonneg {q : ℚ} (h : 0 ≤ q) : 0 ≤ round q :=
  (round_of_nonneg h).symm ▸ roundPos_nonneg h

theorem ofNat_nonneg (m : ℕ) : 0 ≤ (ofNat m).val :=
  round_nonneg (Nat.cast_nonneg m)

theorem ofNat_val {m : ℕ} (hm : m < 2 ^ 53) : (ofNat m).val = m := round_natCast hm

theorem zero_val : (0 : Binary64).val = 0 := ofNat_val (m := 0) (by norm_num)
theorem one_val : (1 : Binary64).val = 1 := by
  have h := ofNat_val (m := 1) (by norm_num)
  rwa [Nat.cast_one] at h

theorem eq_of_val {a b : Binary64} (h : a.val = b.val) : a = b := by
  obtain ⟨x, hx⟩ := a
  obtain ⟨y, hy⟩ := b
  subst h
  rfl

/-- Zero times anything is zero, exactly. -/
protected theorem zero_mul (a : Binary64) : 0 * a = 0 := by
  refine eq_of_val ?_
  rw [mul_val, zero_val, zero_mul]
  exact zero_val

/-- Adding zero is exact. -/
protected theorem add_zero (a : Binary64) : a + 0 = a := by
  refine eq_of_val ?_
  rw [add_val, zero_val, add_zero]
  exact a.rounded

/-- Multiplying by one is exact. -/
protected theorem mul_one (a : Binary64) : a * 1 = a := by
  refine eq_of_val ?_
  rw [mul_val, one_val, mul_one]
  exact a.rounded

/-- Addition is monotone, rounding included. -/
theorem add_le_add_left {a b : Binary64} (h : a ≤ b) (c : Binary64) : c + a ≤ c + b := by
  rw [le_iff, add_val, add_val]
  exact round_mono (by linarith [le_iff.mp h])

/-- Multiplying by a non-negative number is monotone, rounding included. -/
theorem mul_le_mul_left {a b c : Binary64} (h : a ≤ b) (hc : 0 ≤ c.val) : c * a ≤ c * b := by
  rw [le_iff, mul_val, mul_val]
  exact round_mono (mul_le_mul_of_nonneg_left (le_iff.mp h) hc)

/-- Scaling by a factor of absolute value at most one does not grow. -/
theorem abs_mul_le {a b : Binary64} (ha : 0 ≤ a.val) (hb : -1 ≤ b.val ∧ b.val ≤ 1) :
    -a.val ≤ (a * b).val ∧ (a * b).val ≤ a.val := by
  have hupper : a.val * b.val ≤ a.val := by nlinarith
  have hlower : -a.val ≤ a.val * b.val := by nlinarith
  refine ⟨?_, ?_⟩
  · calc -a.val = round (-a.val) := by rw [round_neg, a.rounded]
      _ ≤ round (a.val * b.val) := round_mono hlower
  · calc (a * b).val = round (a.val * b.val) := rfl
      _ ≤ round a.val := round_mono hupper
      _ = a.val := a.rounded

end Binary64
