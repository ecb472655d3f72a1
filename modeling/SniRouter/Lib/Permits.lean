import Mathlib.Algebra.Order.Ring.Nat
import SniRouter.Lib.Table

/-!
# Permits

A counting semaphore and the processes of a table that hold its permits, one
each.

* `Permits.Conserved` — free and held permits add up to the capacity.
* `Conserved.set` / `Conserved.append` — what a step and a new process must do.
* `sum_cost_le` — what only holders may use is bounded by the permits in use.
-/

namespace Permits

open Table

variable {α : Type*} {holds : α → Bool} {capacity free free' : Nat} {l : List α} {p : Nat} {x y : α}

/-- Free permits and the processes that hold one add up to the capacity. -/
def Conserved (holds : α → Bool) (capacity free : Nat) (l : List α) : Prop :=
  free + l.countP holds = capacity

/-- At first every permit is free. -/
theorem Conserved.init (holds : α → Bool) (capacity : Nat) : Conserved holds capacity capacity [] :=
  rfl

/-- A process takes a permit out of the free ones, or puts it back. -/
theorem Conserved.set (h : Conserved holds capacity free l) (hx : l[p]? = some x)
    (hmove : free' + (if holds y then 1 else 0) = free + if holds x then 1 else 0) :
    Conserved holds capacity free' (l.set p y) := by
  have hcount := countP_set holds hx y
  unfold Conserved at h ⊢
  omega

/-- A new process holds none. -/
theorem Conserved.append (h : Conserved holds capacity free l) (hy : holds y = false) :
    Conserved holds capacity free (l ++ [y]) := by
  unfold Conserved at h ⊢
  rw [List.countP_append, List.countP_singleton, hy, if_neg (by simp)]
  exact h

/-- A new process that is given one. -/
theorem Conserved.append_holding (h : Conserved holds capacity (free + 1) l)
    (hy : holds y = true) : Conserved holds capacity free (l ++ [y]) := by
  unfold Conserved at h ⊢
  rw [List.countP_append, List.countP_singleton, hy, if_pos rfl]
  omega

theorem Conserved.free_le (h : Conserved holds capacity free l) : free ≤ capacity :=
  Nat.le.intro h

/-- A held permit is not free. -/
theorem Conserved.free_lt (h : Conserved holds capacity free l) (hx : l[p]? = some x)
    (hholds : holds x = true) : free < capacity := by
  have hpos := countP_pos holds hx hholds
  unfold Conserved at h
  omega

/-- The permits in use are those of the holders. -/
theorem Conserved.in_use (h : Conserved holds capacity free l) :
    capacity - free = l.countP holds := by
  unfold Conserved at h
  omega

/-- Where only holders use anything, and `k` at most, no more than `k` for each
of them is used in all. -/
theorem sum_cost_le {cost : α → Nat} {k : Nat}
    (h : ∀ x ∈ l, cost x ≤ if holds x then k else 0) :
    (l.map cost).sum ≤ k * l.countP holds := by
  induction l with
  | nil => exact Nat.zero_le _
  | cons x l ih =>
    have hrest := ih fun y hy => h y (List.mem_cons_of_mem _ hy)
    have hfirst := h x List.mem_cons_self
    rw [List.map_cons, List.sum_cons, List.countP_cons]
    split_ifs at hfirst ⊢
    · rw [Nat.mul_add, Nat.mul_one]
      omega
    · rw [Nat.add_zero]
      omega

end Permits
