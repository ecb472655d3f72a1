import SniRouter.Lib.Binary64

/-!
# SniRouter — durations, instants and `f64`

`Duration` and `Instant` of the standard library, both counted in nanoseconds,
and the part of `f64` that a jittered TTL goes through.
-/

namespace SniRouter

/-- Nanoseconds in a second. -/
def nanosPerSec : Nat := 1000000000
/-- Nanoseconds in a millisecond. -/
def nanosPerMilli : Nat := 1000000

/-- The last instant the clock can represent: 64 bits of signed seconds. -/
def maxInstant : Nat := 2 ^ 63 * nanosPerSec - 1

/-- A double, with the values that are not finite. -/
inductive F64 where
  | nan
  | negInf
  | posInf
  | finite (x : Binary64)
deriving DecidableEq

/-- `clamp(0.0, 1.0)`; a NaN stays one. -/
def F64.clampUnit : F64 → Option Binary64
  | .nan      => none
  | .negInf   => some 0
  | .posInf   => some 1
  | .finite x => some (if x.val < 0 then 0 else if 1 < x.val then 1 else x)

/-- `as_secs_f64`. -/
def asSecsF64 (duration : Nat) : Binary64 :=
  .ofNat (duration / nanosPerSec) + .ofNat (duration % nanosPerSec) / .ofNat nanosPerSec

/-- The whole nanoseconds nearest to a number of seconds. -/
def nanosOfSecs (secs : Binary64) : Int :=
  Binary64.roundEven (secs.val * nanosPerSec)

/-- `Duration::try_from_secs_f64`: no negative and no 65-bit seconds. -/
def tryFromSecsF64 (secs : Binary64) : Option Nat :=
  if secs.val < 0 ∨ 2 ^ 64 ≤ secs.val then none else some (nanosOfSecs secs).toNat

/-- `Instant::checked_add`. -/
def checkedAdd (instant duration : Nat) : Option Nat :=
  -- in this order the kernel leaves a literal duration alone
  if duration + instant ≤ maxInstant then some (instant + duration) else none

/-- 100 years, what `later` falls back to. -/
def century : Nat := 100 * 365 * 24 * 3600 * nanosPerSec

/-- `instant + duration`, or 100 years on when that is too large to represent.
Where even those are, the addition panics: no result. -/
def later (instant duration : Nat) : Option Nat :=
  (checkedAdd instant duration).or (checkedAdd instant century)

/-- A sum within the clock's range is exact. -/
theorem checkedAdd_eq_some_iff {instant duration sum : Nat} :
    checkedAdd instant duration = some sum ↔
      instant + duration = sum ∧ instant + duration ≤ maxInstant := by
  rw [checkedAdd, Nat.add_comm duration]
  split_ifs with h
  · simp [h]
  · simp [h]

/-- A sum that the clock can represent is the result. -/
theorem later_of_le {instant duration : Nat} (h : instant + duration ≤ maxInstant) :
    later instant duration = some (instant + duration) := by
  rw [later, checkedAdd_eq_some_iff.mpr ⟨rfl, h⟩, Option.some_or]

/-- What `later` comes to: the sum, or 100 years on. -/
theorem later_cases {instant duration sum : Nat} (h : later instant duration = some sum) :
    sum ≤ maxInstant ∧ (sum = instant + duration ∨
      maxInstant < instant + duration ∧ sum = instant + century) := by
  unfold later at h
  cases hsum : checkedAdd instant duration with
  | some sum' =>
    rw [hsum, Option.some_or] at h
    obtain ⟨rfl, hle⟩ := checkedAdd_eq_some_iff.mp hsum
    obtain rfl := Option.some.inj h
    exact ⟨hle, .inl rfl⟩
  | none =>
    rw [hsum, Option.none_or] at h
    obtain ⟨rfl, hle⟩ := checkedAdd_eq_some_iff.mp h
    refine ⟨hle, .inr ⟨?_, rfl⟩⟩
    by_contra hfits
    have hfits := checkedAdd_eq_some_iff.mpr ⟨rfl, Nat.not_lt.mp hfits⟩
    exact absurd (hsum.symm.trans hfits) (by simp)

/-- `later` panics exactly where the clock can represent neither sum. -/
theorem later_isSome_iff {instant duration : Nat} :
    (later instant duration).isSome = true ↔ instant + min duration century ≤ maxInstant := by
  unfold later
  rw [Option.isSome_or, Bool.or_eq_true, checkedAdd, checkedAdd]
  split_ifs <;> simp only [Option.isSome_some, Option.isSome_none, true_or, or_true, or_self,
    Bool.false_eq_true, true_iff, false_iff] <;> omega

/-- `later` never goes back. -/
theorem le_later {instant duration sum : Nat} (h : later instant duration = some sum) :
    instant ≤ sum := by
  obtain ⟨-, rfl | ⟨-, rfl⟩⟩ := later_cases h
  · exact Nat.le_add_right _ _
  · exact Nat.le_add_right _ _

/-- `later` stays within the clock's range. -/
theorem later_le {instant duration sum : Nat} (h : later instant duration = some sum) :
    sum ≤ maxInstant :=
  (later_cases h).1

/-- Where the clock ends, the time is shorter than asked for. -/
theorem later_le_add {instant duration sum : Nat} (h : later instant duration = some sum) :
    sum ≤ instant + duration := by
  obtain ⟨hle, rfl | ⟨hlt, -⟩⟩ := later_cases h
  · exact le_rfl
  · exact (hle.trans_lt hlt).le

theorem later_zero {instant : Nat} (h : instant ≤ maxInstant) : later instant 0 = some instant :=
  later_of_le h

/-- A clamped factor is between 0 and 1. -/
theorem F64.clampUnit_bounds {x : F64} {j : Binary64} (h : x.clampUnit = some j) :
    0 ≤ j.val ∧ j.val ≤ 1 := by
  cases x with
  | nan => exact absurd h (by simp [clampUnit])
  | negInf =>
    injection h with h
    rw [← h, Binary64.zero_val]
    norm_num
  | posInf =>
    injection h with h
    rw [← h, Binary64.one_val]
    norm_num
  | finite y =>
    injection h with h
    subst h
    split_ifs with hneg hbig
    · rw [Binary64.zero_val]
      norm_num
    · rw [Binary64.one_val]
      norm_num
    · exact ⟨not_lt.mp hneg, not_lt.mp hbig⟩

theorem asSecsF64_nonneg (duration : Nat) : 0 ≤ (asSecsF64 duration).val := by
  have hsecs := Binary64.ofNat_nonneg (duration / nanosPerSec)
  have hfrac : 0 ≤ (Binary64.ofNat (duration % nanosPerSec) / .ofNat nanosPerSec).val :=
    Binary64.round_nonneg (div_nonneg (Binary64.ofNat_nonneg _) (Binary64.ofNat_nonneg _))
  exact Binary64.round_nonneg (add_nonneg hsecs hfrac)

theorem nanosOfSecs_mono {a b : Binary64} (h : a ≤ b) : nanosOfSecs a ≤ nanosOfSecs b :=
  Binary64.roundEven_mono
    (mul_le_mul_of_nonneg_right (Binary64.le_iff.mp h) (Nat.cast_nonneg _))

end SniRouter
