import Mathlib.Algebra.Order.Ring.Nat
import Mathlib.Data.List.Basic

/-!
# Process tables

The processes of a system as a list: a process is known by its position, new
ones are appended, and a step replaces one.

* `lookup_set` / `lookup_append` — lookups in one line, and by cases.
* `countP_set` / `sum_map_set` — how a replacement changes a count or a sum.
* `map_set_same` — a replacement that a view does not see.
* `filterMap_set_last` — what becomes of the last process.
* `Evolves` — every process is still there and related to what it was.
-/

namespace Table

variable {α : Type*} {l l' : List α} {p q : Nat} {x y z : α}

/-- A position that holds something is within the list. -/
theorem lt_length (h : l[p]? = some x) : p < l.length :=
  (List.getElem?_eq_some_iff.mp h).1

/-- A replacement changes its own position only. -/
theorem lookup_set (h : l[p]? = some x) (y : α) (q : Nat) :
    (l.set p y)[q]? = if q = p then some y else l[q]? := by
  by_cases hq : q = p
  · rw [if_pos hq, hq, List.getElem?_set_self (lt_length h)]
  · rw [if_neg hq, List.getElem?_set_ne (Ne.symm hq)]

theorem lookup_append (l : List α) (y : α) (q : Nat) :
    (l ++ [y])[q]? = if q = l.length then some y else l[q]? := by
  by_cases hq : q = l.length
  · rw [if_pos hq, hq, List.getElem?_concat_length]
  · rw [if_neg hq]
    by_cases hlt : q < l.length
    · rw [List.getElem?_append_left hlt]
    · rw [List.getElem?_eq_none (by rw [List.length_append, List.length_singleton]; omega),
        List.getElem?_eq_none (by omega)]

/-- Replacing a process by itself. -/
theorem set_same (h : l[p]? = some x) : l.set p x = l := by
  obtain ⟨hlt, rfl⟩ := List.getElem?_eq_some_iff.mp h
  exact List.set_getElem_self hlt

/-- After a replacement, a process is the new one or was there before. -/
theorem lookup_set_cases (h : l[p]? = some x) (hz : (l.set p y)[q]? = some z) :
    (q = p ∧ z = y) ∨ (q ≠ p ∧ l[q]? = some z) := by
  rw [lookup_set h] at hz
  split_ifs at hz with hq
  · exact .inl ⟨hq, (Option.some.inj hz).symm⟩
  · exact .inr ⟨hq, hz⟩

/-- What is found after an addition is the new item or was there. -/
theorem lookup_append_cases (hz : (l ++ [y])[q]? = some z) :
    (q = l.length ∧ z = y) ∨ l[q]? = some z := by
  rw [lookup_append] at hz
  split_ifs at hz with hq
  · exact .inl ⟨hq, (Option.some.inj hz).symm⟩
  · exact .inr hz

/-- Replacing a process moves a count by what the two of them count. -/
theorem countP_set (f : α → Bool) (h : l[p]? = some x) (y : α) :
    (l.set p y).countP f + (if f x then 1 else 0) = l.countP f + (if f y then 1 else 0) := by
  obtain ⟨hlt, hx⟩ := List.getElem?_eq_some_iff.mp h
  have hle : (if f x then 1 else 0) ≤ l.countP f := by
    rw [← hx]
    exact List.boole_getElem_le_countP hlt
  rw [List.countP_set hlt, hx]
  omega

/-- Replacing a process moves a sum by what the two of them add to it. -/
theorem sum_map_set (f : α → Nat) (h : l[p]? = some x) (y : α) :
    ((l.set p y).map f).sum + f x = (l.map f).sum + f y := by
  induction l generalizing p with
  | nil => exact absurd h (by simp)
  | cons z l ih =>
    cases p with
    | zero =>
      cases h
      simp only [List.set_cons_zero, List.map_cons, List.sum_cons]
      omega
    | succ p =>
      have hsum := ih h
      simp only [List.set_cons_succ, List.map_cons, List.sum_cons]
      omega

/-- A process that counts makes the count positive. -/
theorem countP_pos (f : α → Bool) (h : l[p]? = some x) (hx : f x = true) : 0 < l.countP f :=
  List.countP_pos_iff.mpr ⟨x, List.mem_of_getElem? h, hx⟩

/-- A replacement that a view does not see. -/
theorem map_set_same {β : Type*} {f : α → β} (h : l[p]? = some x) (hf : f y = f x) :
    (l.set p y).map f = l.map f := by
  refine List.ext_getElem? fun q => ?_
  rw [List.getElem?_map, List.getElem?_map, lookup_set h]
  by_cases hq : q = p
  · rw [if_pos hq, hq, h, Option.map_some, Option.map_some, hf]
  · rw [if_neg hq]

/-- What the last process becomes is added to a view that did not see it. -/
theorem filterMap_set_last {β : Type*} {f : α → Option β} (h : l[p]? = some x)
    (hlast : p + 1 = l.length) (hx : f x = none) (y : α) :
    (l.set p y).filterMap f = l.filterMap f ++ (f y).toList := by
  obtain ⟨hlt, rfl⟩ := List.getElem?_eq_some_iff.mp h
  have hsplit : l = l.take p ++ [l[p]] := by
    rw [← List.take_succ_eq_append_getElem hlt, hlast, List.take_length]
  have hset : l.set p y = l.take p ++ [y] := by
    rw [List.set_eq_take_append_cons_drop, if_pos hlt, hlast, List.drop_length]
  have hview : l.filterMap f = (l.take p).filterMap f := by
    rw [congrArg (List.filterMap f) hsplit, List.filterMap_append, List.filterMap_cons_none hx,
      List.filterMap_nil, List.append_nil]
  rw [hset, hview, List.filterMap_append]
  cases hy : f y with
  | none => rw [List.filterMap_cons_none hy, List.filterMap_nil, Option.toList_none]
  | some b => rw [List.filterMap_cons_some hy, List.filterMap_nil, Option.toList_some]

-- ---------------------------------------------------------------------------
-- Evolution
-- ---------------------------------------------------------------------------

/-- Every process of `l` is still in `l'`, at its position, in a state related
to the one it had. -/
def Evolves (R : α → α → Prop) (l l' : List α) : Prop :=
  ∀ (p : Nat) (x : α), l[p]? = some x → ∃ y, l'[p]? = some y ∧ R x y

variable {R : α → α → Prop}

theorem Evolves.refl (hR : ∀ x, R x x) (l : List α) : Evolves R l l :=
  fun _ x h => ⟨x, h, hR x⟩

/-- Replacing an item by one it may become. -/
theorem Evolves.set (hR : ∀ x, R x x) (h : l[p]? = some x) (hxy : R x y) :
    Evolves R l (l.set p y) := by
  intro q z hz
  rw [lookup_set h]
  by_cases hq : q = p
  · subst hq
    rw [h] at hz
    injection hz with hz
    rw [if_pos rfl]
    exact ⟨y, rfl, hz ▸ hxy⟩
  · rw [if_neg hq]
    exact ⟨z, hz, hR z⟩

/-- Adding at the end. -/
theorem Evolves.append (hR : ∀ x, R x x) (l : List α) (y : α) : Evolves R l (l ++ [y]) := by
  intro q z hz
  refine ⟨z, ?_, hR z⟩
  rw [List.getElem?_append_left (lt_length hz)]
  exact hz

end Table
