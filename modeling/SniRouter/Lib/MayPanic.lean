import SniRouter.Lib.Framing
import SniRouter.Lib.SmallVec

/-!
# Code whose checks may fail

A language that checks its array indices, slice ranges and subtractions stops a
program where one of them is out of bounds. `MayPanic` is code of that kind: a
value, an error the code returns, or no result at all. A loop has a number of
rounds to end in and no result when they do not suffice.

* `index`, `range`, `sub`, `set` — the checked operations.
* `RunsTo` — no check fails, and the result is that of unchecked code; one rule
  for each way to build a program.
-/

/-- Code that returns a value or an error, unless a check fails. -/
abbrev MayPanic (ε α : Type) := ExceptT ε Option α

namespace MayPanic

open Framing

variable {ε α β σ : Type}

-- ---------------------------------------------------------------------------
-- Checked operations
-- ---------------------------------------------------------------------------

/-- `xs[i]`. -/
def index (xs : List α) (i : Nat) : Option α :=
  xs[i]?

/-- `&xs[a..b]`. -/
def range (xs : List α) (a b : Nat) : Option (List α) :=
  if a ≤ b ∧ b ≤ xs.length then some ((xs.take b).drop a) else none

/-- `a - b` of unsigned numbers. -/
def sub (a b : Nat) : Option Nat :=
  if b ≤ a then some (a - b) else none

/-- `xs[i] = value` in an array. -/
def set {n : Nat} (xs : Vector α n) (i : Nat) (value : α) : Option (Vector α n) :=
  if h : i < n then some (xs.set i value) else none

/-- A range within the slice does not panic. -/
theorem range_eq_some {xs : List α} {a b : Nat} (hab : a ≤ b) (hb : b ≤ xs.length) :
    range xs a b = some ((xs.take b).drop a) :=
  if_pos ⟨hab, hb⟩

/-- A subtraction without underflow does not panic. -/
theorem sub_eq_some {a b : Nat} (h : b ≤ a) : sub a b = some (a - b) :=
  if_pos h

/-- A store within the array does not panic. -/
theorem set_eq_some {n : Nat} {xs : Vector α n} {i : Nat} (h : i < n) (value : α) :
    set xs i value = some (xs.setIfInBounds i value) := by
  rw [set, dif_pos h]
  congr 1
  rw [Vector.setIfInBounds, Vector.set]
  simp [Array.setIfInBounds, h]

-- ---------------------------------------------------------------------------
-- Small vectors
-- ---------------------------------------------------------------------------

/-- `push` of a small vector, with its array accesses checked. -/
def push {cap : Nat} (value : α) : SmallVec α cap → Option (SmallVec α cap)
  | .inline items len =>
    if h : len.val < cap then
      (set items len value).map fun items => .inline items ⟨len + 1, SmallVec.len_succ_lt h⟩
    else
      (range items.toList 0 len).map fun kept => .heap (kept ++ [value])
  | .heap items => some (.heap (items ++ [value]))

/-- `as_slice` of a small vector. -/
def asSlice {cap : Nat} : SmallVec α cap → Option (List α)
  | .inline items len => range items.toList 0 len
  | .heap items => some items

/-- A push never panics: the inline buffer spills before it is full. -/
theorem push_eq {cap : Nat} (v : SmallVec α cap) (value : α) :
    push value v = some (v.push value) := by
  cases v with
  | heap items => rfl
  | inline items len =>
    by_cases h : len.val < cap
    · rw [push, SmallVec.push, dif_pos h, dif_pos h, set, dif_pos h]
      rfl
    · have hle := len.isLt
      rw [push, SmallVec.push, dif_neg h, dif_neg h, range_eq_some (Nat.zero_le _)]
      · rfl
      · rw [Vector.length_toList]
        omega

/-- The inline length never exceeds the capacity. -/
theorem asSlice_eq {cap : Nat} (v : SmallVec α cap) : asSlice v = some v.asSlice := by
  cases v with
  | heap items => rfl
  | inline items len =>
    have hle := len.isLt
    rw [asSlice, range_eq_some (Nat.zero_le _)]
    · rfl
    · rw [Vector.length_toList]
      omega

-- ---------------------------------------------------------------------------
-- Programs
-- ---------------------------------------------------------------------------

/-- A checked operation inside a program. -/
def check (value : Option α) : MayPanic ε α :=
  ExceptT.mk (value.map Except.ok)

/-- Code without checks. -/
def lift (x : Except ε α) : MayPanic ε α :=
  ExceptT.mk (some x)

/-- No check of the program fails, and its result is `x`. -/
def RunsTo (program : MayPanic ε α) (x : Except ε α) : Prop :=
  program.run = some x

namespace RunsTo

theorem lift (x : Except ε α) : RunsTo (MayPanic.lift x) x := rfl

theorem pure (a : α) : RunsTo (Pure.pure a : MayPanic ε α) (.ok a) := rfl

theorem throw (e : ε) : RunsTo (MonadExcept.throw e : MayPanic ε α) (.error e) := rfl

/-- A checked operation that is in bounds. -/
theorem check {value : Option α} {a : α} {f : α → MayPanic ε β} {x : Except ε β}
    (hvalue : value = some a) (hrest : RunsTo (f a) x) :
    RunsTo (MayPanic.check value >>= f) x := by
  subst hvalue
  exact hrest

/-- A program, then one that may depend on its value. -/
theorem bind {program : MayPanic ε α} {x : Except ε α} {f : α → MayPanic ε β}
    {g : α → Except ε β} (hfirst : RunsTo program x)
    (hrest : ∀ a, x = .ok a → RunsTo (f a) (g a)) :
    RunsTo (program >>= f) (x >>= g) := by
  show (program.run >>= ExceptT.bindCont f) = _
  rw [show program.run = some x from hfirst]
  cases x with
  | error e => rfl
  | ok a => exact hrest a rfl

/-- Both branches of an `if`, each under its condition. -/
theorem ite {c : Prop} [Decidable c] {p q : MayPanic ε α} {x y : Except ε α}
    (hthen : c → RunsTo p x) (helse : ¬ c → RunsTo q y) :
    RunsTo (if c then p else q) (if c then x else y) := by
  by_cases h : c
  · rw [if_pos h, if_pos h]
    exact hthen h
  · rw [if_neg h, if_neg h]
    exact helse h

end RunsTo

-- ---------------------------------------------------------------------------
-- The loop over entries
-- ---------------------------------------------------------------------------

/-- Reads entries until the input is empty, in the given number of rounds. -/
def forEach (next : Bytes → MayPanic ε (α × Bytes)) (body : σ → α → MayPanic ε σ) :
    Nat → σ → Bytes → MayPanic ε σ
  | 0, _, _ => check none
  | rounds + 1, s, bs =>
    if bs.isEmpty then pure s
    else do
      let (a, rest) ← next bs
      let s ← body s a
      forEach next body rounds s rest

/-- A round of the unchecked loop as a sequence. -/
theorem forEach_cons {next : Bytes → Except ε (α × Bytes)}
    (shrinks : ∀ {bs a rest}, next bs = .ok (a, rest) → rest.length < bs.length)
    (body : σ → α → Except ε σ) {s : σ} {bs : Bytes} (hne : ¬ bs.isEmpty = true) :
    Framing.forEach next shrinks body s bs = (do
      let (a, rest) ← next bs
      let s ← body s a
      Framing.forEach next shrinks body s rest) := by
  cases hread : next bs with
  | ok p => exact forEach_step shrinks body hread
  | error e =>
    rw [Framing.forEach, if_neg hne]
    split
    · next e' he =>
      rw [he] at hread
      injection hread with hread
      exact congrArg Except.error hread
    · next a rest hok =>
      rw [hok] at hread
      exact absurd hread (by simp)

/-- Every entry shortens the input, so more rounds than it has bytes suffice. -/
theorem RunsTo.forEach {next' : Bytes → MayPanic ε (α × Bytes)} {body' : σ → α → MayPanic ε σ}
    {next : Bytes → Except ε (α × Bytes)}
    (shrinks : ∀ {bs a rest}, next bs = .ok (a, rest) → rest.length < bs.length)
    {body : σ → α → Except ε σ} (hnext : ∀ bs, RunsTo (next' bs) (next bs))
    (hbody : ∀ s a, RunsTo (body' s a) (body s a)) {rounds : Nat} {s : σ} {bs : Bytes}
    (hrounds : bs.length < rounds) :
    RunsTo (MayPanic.forEach next' body' rounds s bs) (Framing.forEach next shrinks body s bs) := by
  induction rounds generalizing s bs with
  | zero => exact absurd hrounds (Nat.not_lt_zero _)
  | succ rounds ih =>
    rw [MayPanic.forEach]
    by_cases hempty : bs.isEmpty = true
    · rw [if_pos hempty, List.isEmpty_iff.mp hempty, forEach_nil]
      exact .pure s
    · rw [if_neg hempty, forEach_cons shrinks body hempty]
      refine .bind (hnext bs) fun (a, rest) hread => ?_
      refine .bind (hbody s a) fun s' _ => ?_
      have hlt := shrinks hread
      exact ih (by omega)

end MayPanic
