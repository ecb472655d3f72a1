import Mathlib.Data.List.Basic

/-!
# Small vectors

A growable sequence that keeps its first `cap` items inline and moves to the
heap when one more is pushed. `asSlice_push` is all a client needs: whichever
storage holds them, the items are the ones pushed, in order.
-/

/-- Up to `cap` items inline, any number on the heap. The length of the inline
form is at most `cap` by its type. -/
inductive SmallVec (α : Type*) (cap : Nat) where
  | inline (items : Vector α cap) (len : Fin (cap + 1))
  | heap (items : List α)

namespace SmallVec

variable {α : Type*} {cap : Nat}

/-- No items; the inline slots hold `filler`. -/
def new (filler : α) : SmallVec α cap :=
  .inline (Vector.replicate cap filler) 0

/-- The items, in order. -/
def asSlice : SmallVec α cap → List α
  | .inline items len => items.toList.take len
  | .heap items => items

/-- How many items there are. -/
def len : SmallVec α cap → Nat
  | .inline _ len => len
  | .heap items => items.length

theorem len_succ_lt {len : Fin (cap + 1)} (h : len.val < cap) : len.val + 1 < cap + 1 :=
  Nat.succ_lt_succ h

/-- Adds at the end, and moves to the heap when the inline buffer is full. -/
def push (value : α) : SmallVec α cap → SmallVec α cap
  | .inline items len =>
    if h : len.val < cap then
      .inline (items.set len value) ⟨len + 1, len_succ_lt h⟩
    else
      .heap (items.toList.take len ++ [value])
  | .heap items => .heap (items ++ [value])

@[simp] theorem asSlice_new (filler : α) : (new filler : SmallVec α cap).asSlice = [] := rfl

@[simp] theorem length_asSlice (v : SmallVec α cap) : v.asSlice.length = v.len := by
  cases v with
  | inline items len =>
    have := len.isLt
    simp only [asSlice, SmallVec.len, List.length_take, Vector.length_toList]
    omega
  | heap items => rfl

/-- Pushing appends, also across the move to the heap. -/
@[simp] theorem asSlice_push (v : SmallVec α cap) (value : α) :
    (v.push value).asSlice = v.asSlice ++ [value] := by
  cases v with
  | heap items => rfl
  | inline items len =>
    by_cases h : len.val < cap
    · have hlen : len.val < items.toList.length := by simpa using h
      rw [push, dif_pos h]
      show (items.set len value).toList.take (len + 1) = items.toList.take len ++ [value]
      rw [Vector.toList_set, List.take_add_one, List.take_set_of_le (Nat.le_refl _),
        List.getElem?_set_self hlen]
      rfl
    · rw [push, dif_neg h]
      rfl

/-- A push adds one item. -/
@[simp] theorem len_push (v : SmallVec α cap) (value : α) : (v.push value).len = v.len + 1 := by
  rw [← length_asSlice, asSlice_push, List.length_append, length_asSlice, List.length_singleton]

end SmallVec
