import Mathlib.Data.List.Basic
import Mathlib.Data.List.Induction
import Mathlib.Tactic.Ring

/-!
# Length-prefixed framing

Byte strings with big-endian length prefixes, and the loop that consumes a
block of entries until it is empty. Nothing here knows a particular format:
a format supplies a `read` and a `write`, and `Exact` says that `read` accepts
exactly what `write` produces, whatever follows.

* `beNat` / `beBytes` — big-endian numbers and their fixed-width encoding.
* `vec` — a block behind a `k`-byte length prefix.
* `Exact` — a reader accepts exactly the image of its writer.
* `forEach` — the `while !input.is_empty()` loop over entries;
  `forEach_ok_iff` characterizes the blocks it accepts.
* `Stable` — more input never changes a verdict once it is settled.
-/

namespace Framing

/-- A byte string. -/
abbrev Bytes := List UInt8

-- ---------------------------------------------------------------------------
-- Big-endian numbers
-- ---------------------------------------------------------------------------

/-- The number a byte string spells, most significant byte first. -/
def beNat (bs : Bytes) : Nat :=
  bs.foldl (fun acc b => acc * 256 + b.toNat) 0

/-- The `k`-byte big-endian spelling of `n` (modulo `256 ^ k`). -/
def beBytes : Nat → Nat → Bytes
  | 0, _ => []
  | k + 1, n => beBytes k (n / 256) ++ [UInt8.ofNat n]

/-- A block behind its `k`-byte length prefix. -/
def vec (k : Nat) (data : Bytes) : Bytes :=
  beBytes k data.length ++ data

@[simp] theorem beNat_nil : beNat [] = 0 := rfl

/-- One more digit at the low end. -/
@[simp] theorem beNat_append_singleton (bs : Bytes) (b : UInt8) :
    beNat (bs ++ [b]) = beNat bs * 256 + b.toNat := by
  simp [beNat, List.foldl_append]

@[simp] theorem length_beBytes (k n : Nat) : (beBytes k n).length = k := by
  induction k generalizing n with
  | zero => rfl
  | succ k ih => simp [beBytes, ih]

@[simp] theorem length_vec (k : Nat) (data : Bytes) :
    (vec k data).length = k + data.length := by
  simp [vec]

theorem beNat_lt (bs : Bytes) : beNat bs < 256 ^ bs.length := by
  induction bs using List.reverseRecOn with
  | nil => simp
  | append_singleton bs b ih =>
    have hb := b.toNat_lt
    rw [beNat_append_singleton, List.length_append, List.length_singleton, Nat.pow_succ]
    omega

/-- A number that fits is read back. -/
theorem beNat_beBytes {k n : Nat} (h : n < 256 ^ k) : beNat (beBytes k n) = n := by
  induction k generalizing n with
  | zero =>
    simp only [Nat.pow_zero] at h
    have hn : n = 0 := by omega
    simp [beBytes, hn]
  | succ k ih =>
    have hdiv : n / 256 < 256 ^ k := by
      rw [Nat.pow_succ] at h
      omega
    rw [beBytes, beNat_append_singleton, ih hdiv, UInt8.toNat_ofNat']
    omega

/-- Bytes are written back from their number. -/
theorem beBytes_beNat (bs : Bytes) : beBytes bs.length (beNat bs) = bs := by
  induction bs using List.reverseRecOn with
  | nil => rfl
  | append_singleton bs b ih =>
    have hb := b.toNat_lt
    have hdiv : (beNat bs * 256 + b.toNat) / 256 = beNat bs := by omega
    rw [List.length_append, List.length_singleton, beBytes, beNat_append_singleton, hdiv, ih]
    congr 1
    rw [List.singleton_inj, ← UInt8.toNat_inj, UInt8.toNat_ofNat']
    omega

/-- A byte string of width `k` is the spelling of its own value. -/
theorem eq_beBytes_iff {k n : Nat} {bs : Bytes} (hlen : bs.length = k) (hn : n < 256 ^ k) :
    bs = beBytes k n ↔ beNat bs = n := by
  constructor
  · rintro rfl
    exact beNat_beBytes hn
  · rintro rfl
    rw [← hlen, beBytes_beNat]

-- ---------------------------------------------------------------------------
-- Slices
-- ---------------------------------------------------------------------------

/-- The bytes of `buf` at positions `a` up to, not including, `b`. -/
def slice (buf : Bytes) (a b : Nat) : Bytes :=
  (buf.take b).drop a

@[simp] theorem length_slice (buf : Bytes) (a b : Nat) :
    (slice buf a b).length = min b buf.length - a := by
  simp [slice]

/-- Slicing clamps at the end of the buffer. -/
theorem slice_min (buf : Bytes) (a b : Nat) : slice buf a (min b buf.length) = slice buf a b := by
  rw [slice, slice, ← List.take_eq_take_min]

/-- A slice that starts where `buf` is cut is a prefix of what is left. -/
theorem slice_eq_take_drop (buf : Bytes) (a n : Nat) :
    slice buf a (a + n) = (buf.drop a).take n := by
  rw [slice, List.drop_take, Nat.add_sub_cancel_left]

-- ---------------------------------------------------------------------------
-- Exact readers
-- ---------------------------------------------------------------------------

section Exact

variable {α β ε σ : Type*}

/-- `read` accepts exactly the outputs of `write` on valid values, leaves what
follows untouched, and every entry takes at least one byte. -/
structure Exact (read : Bytes → Except ε (α × Bytes)) (write : α → Bytes)
    (valid : α → Prop) : Prop where
  read_iff  : ∀ {bs a rest}, read bs = .ok (a, rest) ↔ valid a ∧ bs = write a ++ rest
  nonempty  : ∀ {a}, valid a → write a ≠ []

/-- An exact reader makes progress. -/
theorem Exact.shrinks {read : Bytes → Except ε (α × Bytes)} {write : α → Bytes}
    {valid : α → Prop} (hx : Exact read write valid) {bs : Bytes} {a : α} {rest : Bytes}
    (h : read bs = .ok (a, rest)) : rest.length < bs.length := by
  obtain ⟨hv, rfl⟩ := hx.read_iff.mp h
  have hpos := List.length_pos_iff.mpr (hx.nonempty hv)
  rw [List.length_append]
  omega

/-- Reads entries until the input is empty, folding `body` over them. The
first error of either ends the loop. -/
def forEach (next : Bytes → Except ε (α × Bytes))
    (shrinks : ∀ {bs a rest}, next bs = .ok (a, rest) → rest.length < bs.length)
    (body : σ → α → Except ε σ) (s : σ) (bs : Bytes) : Except ε σ :=
  if bs.isEmpty then .ok s
  else
    match h : next bs with
    | .error e => .error e
    | .ok (a, rest) =>
      match body s a with
      | .error e => .error e
      | .ok s' =>
        have := shrinks h
        forEach next shrinks body s' rest
termination_by bs.length

/-- On an empty region the body never runs. -/
theorem forEach_nil {next : Bytes → Except ε (α × Bytes)}
    (shrinks : ∀ {bs a rest}, next bs = .ok (a, rest) → rest.length < bs.length)
    (body : σ → α → Except ε σ) (s : σ) : forEach next shrinks body s [] = .ok s := by
  rw [forEach]
  rfl

/-- One round of the loop, on an input whose first entry is known. -/
theorem forEach_step {next : Bytes → Except ε (α × Bytes)}
    (shrinks : ∀ {bs a rest}, next bs = .ok (a, rest) → rest.length < bs.length)
    (body : σ → α → Except ε σ) {s : σ} {bs : Bytes} {a : α} {rest : Bytes}
    (h : next bs = .ok (a, rest)) :
    forEach next shrinks body s bs =
      (body s a).bind fun s' => forEach next shrinks body s' rest := by
  have hne : bs.isEmpty = false := by
    cases bs with
    | nil => exact absurd (shrinks h) (by simp)
    | cons b bs => rfl
  rw [forEach, hne]
  simp only [Bool.false_eq_true, if_false]
  split
  · next e he => rw [he] at h; cases h
  · next a' rest' he =>
    rw [he] at h
    cases h
    cases body s a <;> rfl

/-- The loop accepts exactly the blocks that are a concatenation of valid
entries on which `body` succeeds from left to right. -/
theorem forEach_ok_iff {next : Bytes → Except ε (α × Bytes)} {write : α → Bytes}
    {valid : α → Prop} (hx : Exact next write valid) (body : σ → α → Except ε σ)
    {s s' : σ} {bs : Bytes} :
    forEach next hx.shrinks body s bs = .ok s' ↔
      ∃ as : List α, (∀ a ∈ as, valid a) ∧ bs = as.flatMap write ∧
        as.foldlM body s = .ok s' := by
  constructor
  · -- induction on the length of what is left; every entry shortens it
    induction hn : bs.length using Nat.strong_induction_on generalizing bs s with
    | _ n ih =>
      intro h
      cases bs with
      | nil =>
        rw [forEach_nil] at h
        exact ⟨[], by simp, rfl, h⟩
      | cons b bs =>
        cases hnext : next (b :: bs) with
        | error e =>
          rw [forEach] at h
          simp only [List.isEmpty_cons, Bool.false_eq_true, if_false] at h
          split at h
          · cases h
          · next he => rw [hnext] at he; cases he
        | ok p =>
          obtain ⟨a, rest⟩ := p
          rw [forEach_step hx.shrinks body hnext] at h
          cases hbody : body s a with
          | error e => rw [hbody] at h; cases h
          | ok s₁ =>
            rw [hbody] at h
            obtain ⟨as, hvalid, hrest, hfold⟩ :=
              ih rest.length (hn ▸ hx.shrinks hnext) rfl h
            obtain ⟨hva, hbs⟩ := hx.read_iff.mp hnext
            refine ⟨a :: as, ?_, by rw [hbs, hrest, List.flatMap_cons], ?_⟩
            · simpa using ⟨hva, hvalid⟩
            · rw [List.foldlM_cons, hbody]
              exact hfold
  · rintro ⟨as, hvalid, rfl, hfold⟩
    induction as generalizing s with
    | nil =>
      rw [List.flatMap_nil, forEach_nil]
      exact hfold
    | cons a as ih =>
      have hnext : next ((a :: as).flatMap write) = .ok (a, as.flatMap write) :=
        hx.read_iff.mpr ⟨hvalid a (List.mem_cons_self ..), List.flatMap_cons⟩
      rw [forEach_step hx.shrinks body hnext]
      rw [List.foldlM_cons] at hfold
      cases hbody : body s a with
      | error e => rw [hbody] at hfold; cases hfold
      | ok s₁ =>
        rw [hbody] at hfold
        exact ih (fun x hx' => hvalid x (List.mem_cons_of_mem _ hx')) hfold

/-- The loop fails only with errors of the reader or of `body`. -/
theorem forEach_error {P : ε → Prop} {next : Bytes → Except ε (α × Bytes)}
    (shrinks : ∀ {bs a rest}, next bs = .ok (a, rest) → rest.length < bs.length)
    {body : σ → α → Except ε σ}
    (hnext : ∀ {bs e}, next bs = .error e → P e) (hbody : ∀ {s a e}, body s a = .error e → P e)
    {s : σ} {bs : Bytes} {e : ε} (h : forEach next shrinks body s bs = .error e) : P e := by
  induction hn : bs.length using Nat.strong_induction_on generalizing bs s with
  | _ n ih =>
    rw [forEach] at h
    split at h
    · exact absurd h (by simp)
    · split at h
      · next e' he =>
        injection h with h
        exact h ▸ hnext he
      · next a rest hread =>
        split at h
        · next e' he =>
          injection h with h
          exact h ▸ hbody he
        · exact ih rest.length (hn ▸ shrinks hread) h rfl

end Exact

-- ---------------------------------------------------------------------------
-- Verdicts on a growing input
-- ---------------------------------------------------------------------------

section

variable {α V : Type*} {verdict : List α → V} {pending : V → Prop}

/-- A settled verdict survives any extension of the input. -/
def Stable (verdict : List α → V) (pending : V → Prop) : Prop :=
  ∀ input more, ¬ pending (verdict input) → verdict (input ++ more) = verdict input

/-- A verdict settled on a prefix is the verdict on the whole: a reader may stop at
whichever prefix it happens to look at. -/
theorem Stable.settled (hstable : Stable verdict pending) {input whole : List α}
    (hpre : input <+: whole) (hsettled : ¬ pending (verdict input)) :
    verdict whole = verdict input := by
  obtain ⟨more, rfl⟩ := hpre
  exact hstable input more hsettled

end

end Framing
