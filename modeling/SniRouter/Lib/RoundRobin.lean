import Mathlib.Data.List.Basic
import Mathlib.Tactic.SplitIfs

/-!
# Taking turns

`n` seats in a circle are polled from a rotating start. The first seat that
answers is served, and the next poll starts behind it.

* `RoundRobin.first` — the first seat to answer, from `next` on.
* `RoundRobin.ahead` — how far a seat is ahead of the start, going round.
* `first_eq_some` — the seat that is served is the least ahead of those that
  answer.
* `ahead_behind` — serving another seat brings a seat that answers nearer.
* `RoundRobin.turns` — one poll after the other.
* `length_turns` — every poll that somebody answers serves somebody.
* `mem_turns` — a seat that always answers is served once there are more turns
  than it is ahead.
-/

namespace RoundRobin

variable {α : Type*} {n next i j : Nat} {poll : Nat → Option α} {answer : α}

/-- The first seat from `next` on that answers, and its answer. -/
def first (n : Nat) (poll : Nat → Option α) (next : Nat) : Option (Nat × α) :=
  (List.range n).findSome? fun offset =>
    let index := (next + offset) % n
    (poll index).map fun answer => (index, answer)

/-- How far seat `i` is ahead of `next`. -/
def ahead (n next i : Nat) : Nat :=
  if next ≤ i then i - next else i + n - next

theorem ahead_lt (hnext : next < n) (hi : i < n) : ahead n next i < n := by
  unfold ahead
  split_ifs <;> omega

/-- The seat at an offset is the one so far ahead. -/
theorem seat_eq_iff {offset : Nat} (hnext : next < n) (hoffset : offset < n) (hi : i < n) :
    (next + offset) % n = i ↔ offset = ahead n next i := by
  rw [Nat.add_mod_eq_ite, Nat.mod_eq_of_lt hnext, Nat.mod_eq_of_lt hoffset]
  unfold ahead
  split_ifs <;> omega

/-- Going that far ahead arrives at the position. -/
theorem seat_ahead (hnext : next < n) (hi : i < n) : (next + ahead n next i) % n = i :=
  (seat_eq_iff hnext (ahead_lt hnext hi) hi).mpr rfl

/-- Behind a seat that is served, every seat further ahead is nearer. -/
theorem ahead_behind (hnext : next < n) (hi : i < n) (hj : j < n)
    (h : ahead n next i < ahead n next j) :
    ahead n ((i + 1) % n) j + ahead n next i + 1 = ahead n next j := by
  have hbehind : (i + 1) % n = if i + 1 = n then 0 else i + 1 := by
    split_ifs with hlast
    · rw [hlast, Nat.mod_self]
    · exact Nat.mod_eq_of_lt (by omega)
  rw [hbehind]
  unfold ahead at h ⊢
  split_ifs at h ⊢ <;> omega

-- ---------------------------------------------------------------------------
-- One poll
-- ---------------------------------------------------------------------------

/-- Nobody is served only if nobody answers. -/
theorem first_eq_none_iff (hnext : next < n) :
    first n poll next = none ↔ ∀ i < n, poll i = none := by
  unfold first
  rw [List.findSome?_eq_none_iff]
  constructor
  · intro h i hi
    have hseat := h (ahead n next i) (List.mem_range.mpr (ahead_lt hnext hi))
    rw [seat_ahead hnext hi] at hseat
    exact Option.map_eq_none_iff.mp hseat
  · intro h offset _
    exact Option.map_eq_none_iff.mpr (h _ (Nat.mod_lt _ (by omega)))

/-- The seat that is served answers, and none before it does. -/
theorem first_eq_some (hnext : next < n) (h : first n poll next = some (i, answer)) :
    i < n ∧ poll i = some answer ∧ ∀ j < n, ahead n next j < ahead n next i → poll j = none := by
  obtain ⟨before, offset, after, hsplit, hseat, hbefore⟩ := List.findSome?_eq_some_iff.mp h
  obtain ⟨answer', hanswer, heq⟩ := Option.map_eq_some_iff.mp hseat
  obtain ⟨rfl, rfl⟩ := Prod.mk.inj heq
  have hlen : before.length = offset := by
    have hget : (List.range n)[before.length]? = some offset := by
      rw [hsplit, List.getElem?_append_right (Nat.le_refl _), Nat.sub_self]
      rfl
    obtain ⟨hlt, hget⟩ := List.getElem?_eq_some_iff.mp hget
    rwa [List.getElem_range] at hget
  have hoffset : offset < n := by
    have hmem : offset ∈ List.range n := by
      rw [hsplit]
      simp
    exact List.mem_range.mp hmem
  have hi : (next + offset) % n < n := Nat.mod_lt _ (by omega)
  refine ⟨hi, hanswer, ?_⟩
  intro j hj hless
  rw [← (seat_eq_iff hnext hoffset hi).mp rfl] at hless
  have hmem : ahead n next j ∈ before := by
    have hget : (List.range n)[ahead n next j]? = some (ahead n next j) := by
      rw [List.getElem?_range (ahead_lt hnext hj)]
    rw [hsplit, List.getElem?_append_left (by omega)] at hget
    exact List.mem_of_getElem? hget
  have hnone := hbefore _ hmem
  rw [seat_ahead hnext hj] at hnone
  exact Option.map_eq_none_iff.mp hnone

-- ---------------------------------------------------------------------------
-- One poll after the other
-- ---------------------------------------------------------------------------

/-- Polls in a row: who is served with what, and where the next one starts. A
poll that nobody answers leaves the start where it is. -/
def turns (n : Nat) : List (Nat → Option α) → Nat → List (Nat × α) × Nat
  | [], next => ([], next)
  | poll :: polls, next =>
    match first n poll next with
    | none => turns n polls next
    | some (index, answer) =>
      let rest := turns n polls ((index + 1) % n)
      ((index, answer) :: rest.1, rest.2)

theorem turns_next_lt (hnext : next < n) (polls : List (Nat → Option α)) :
    (turns n polls next).2 < n := by
  induction polls generalizing next with
  | nil => exact hnext
  | cons poll polls ih =>
    rw [turns]
    cases first n poll next with
    | none => exact ih hnext
    | some served => exact ih (Nat.mod_lt _ (by omega))

/-- Somebody answers. -/
def answered (n : Nat) (poll : Nat → Option α) : Bool :=
  (List.range n).any fun i => (poll i).isSome

/-- A round answers when some position is ready. -/
theorem answered_iff : answered n poll = true ↔ ∃ i < n, (poll i).isSome = true := by
  unfold answered
  simp [List.any_eq_true]

/-- Every poll that somebody answers serves somebody. -/
theorem length_turns (hnext : next < n) (polls : List (Nat → Option α)) :
    (turns n polls next).1.length = polls.countP (answered n) := by
  induction polls generalizing next with
  | nil => rfl
  | cons poll polls ih =>
    rw [turns, List.countP_cons]
    cases hfirst : first n poll next with
    | none =>
      have hnobody : ¬ answered n poll = true := by
        rw [answered_iff]
        rintro ⟨i, hi, hsome⟩
        rw [(first_eq_none_iff hnext).mp hfirst i hi] at hsome
        exact absurd hsome (by simp)
      rw [if_neg hnobody]
      exact ih hnext
    | some served =>
      obtain ⟨i, answer⟩ := served
      obtain ⟨hi, hanswer, -⟩ := first_eq_some hnext hfirst
      rw [if_pos (answered_iff.mpr ⟨i, hi, by rw [hanswer]; rfl⟩), List.length_cons,
        ih (Nat.mod_lt _ (by omega))]

/-- A seat that answers whenever somebody does is served, if there are more
turns than it is ahead. The induction carries the distance, which every turn of
another seat shortens. -/
theorem mem_turns (hnext : next < n) (hj : j < n) {polls : List (Nat → Option α)}
    (hready : ∀ poll ∈ polls, answered n poll = true → (poll j).isSome = true)
    (hturns : ahead n next j < (turns n polls next).1.length) :
    ∃ answer, (j, answer) ∈ (turns n polls next).1 := by
  induction polls generalizing next with
  | nil => exact absurd hturns (Nat.not_lt_zero _)
  | cons poll polls ih =>
    have hlater : ∀ poll ∈ polls, answered n poll = true → (poll j).isSome = true :=
      fun poll hpoll => hready poll (List.mem_cons_of_mem _ hpoll)
    rw [turns] at hturns ⊢
    cases hfirst : first n poll next with
    | none =>
      rw [hfirst] at hturns
      exact ih hnext hlater hturns
    | some served =>
      obtain ⟨i, answer⟩ := served
      rw [hfirst] at hturns
      obtain ⟨hi, hanswer, hleast⟩ := first_eq_some hnext hfirst
      by_cases hji : j = i
      · exact ⟨answer, hji ▸ List.mem_cons_self⟩
      · -- another seat is served, and it is not further ahead
        have hsome : (poll j).isSome = true :=
          hready poll List.mem_cons_self (answered_iff.mpr ⟨i, hi, by rw [hanswer]; rfl⟩)
        have hne : ahead n next i ≠ ahead n next j := by
          intro heq
          exact hji ((seat_ahead hnext hj).symm.trans (heq ▸ seat_ahead hnext hi))
        have hless : ahead n next i < ahead n next j := by
          by_contra hge
          have hnone := hleast j hj (by omega)
          rw [hnone] at hsome
          exact absurd hsome (by simp)
        have hnearer := ahead_behind hnext hi hj hless
        have hrest : ahead n ((i + 1) % n) j <
            (turns n polls ((i + 1) % n)).1.length := by
          rw [List.length_cons] at hturns
          omega
        obtain ⟨answer', hmem⟩ := ih (Nat.mod_lt _ (by omega)) hlater hrest
        exact ⟨answer', List.mem_cons_of_mem _ hmem⟩

end RoundRobin
