import Mathlib.Data.List.Basic
import Mathlib.Data.Prod.Lex
import Mathlib.Order.WellFounded

/-!
# Event-driven machines

A machine is a set of initial states and a partial step function: `step e s`
is the state after event `e`, or `none` when `e` is not enabled in `s`. A run
is a list of events, so every interleaving of the parties of a concurrent
program is one list, and a property of all interleavings is a property of all
lists.

* `Machine.run` — the state after a list of events.
* `Machine.Reachable` — the states some run ends in.
* `Machine.run_invariant` — what every step preserves, every run preserves.
* `Machine.Reachable.invariant` — ... and so holds in every reachable state.
* `Machine.Reachable.component` — the part of a system that takes part in every
  step by a step of its own machine is reachable there.
* `Machine.Along` — a condition on every step of a run.
* `Machine.run_invariant_along` — what every step under a condition preserves,
  every run under it preserves.
* `Machine.along_iff` — what tells whether a run kept to a condition.
* `Machine.run_length_le` — runs end when every step lowers a measure.
* `Machine.Reaches` — runs of some of the events.
* `Machine.Reaches.simulate` — what one machine does, another can follow.
* `Machine.reaches_of_measure` — where such an event can always lower a measure
  until a goal is met, the goal can be reached.
* `Machine.reaches_clock` — ... and where it can do so or let time pass, any time
  can pass.
* `Option.Rel.bind` — related results, gone on from in related ways.
* `Machine.run_rel` — two machines whose steps agree up to a relation.
-/

section

variable {α β σ τ : Type*} {S : α → β → Prop} {R : σ → τ → Prop}

/-- Related results, gone on from in related ways. -/
theorem Option.Rel.bind {x : Option α} {y : Option β} {f : α → Option σ} {g : β → Option τ}
    (h : Option.Rel S x y) (hnext : ∀ a b, S a b → Option.Rel R (f a) (g b)) :
    Option.Rel R (x.bind f) (y.bind g) := by
  cases h with
  | none => exact .none
  | some hab => exact hnext _ _ hab

/-- One result, gone on from in two ways. -/
theorem Option.Rel.bind_same {f : α → Option σ} {g : α → Option τ} (x : Option α)
    (hnext : ∀ a, Option.Rel R (f a) (g a)) : Option.Rel R (x.bind f) (x.bind g) := by
  cases x with
  | none => exact .none
  | some a => exact hnext a

/-- Mapping one value in two ways relates the results when the ways are related. -/
theorem Option.Rel.map_same {f : α → σ} {g : α → τ} (x : Option α) (hnext : ∀ a, R (f a) (g a)) :
    Option.Rel R (x.map f) (x.map g) := by
  cases x with
  | none => exact .none
  | some a => exact .some (hnext a)

end

/-- A system driven by events. -/
structure Machine (σ ε : Type*) where
  init : σ → Prop
  step : ε → σ → Option σ

namespace Machine

variable {σ ε : Type*} (m : Machine σ ε)

/-- The state after the events of `es`, in order. -/
def run : List ε → σ → Option σ
  | [], s => some s
  | e :: es, s => (m.step e s).bind (run es)

/-- The states that some run from an initial state ends in. -/
def Reachable (s : σ) : Prop :=
  ∃ s₀ es, m.init s₀ ∧ m.run es s₀ = some s

@[simp] theorem run_nil (s : σ) : m.run [] s = some s := rfl

theorem run_cons {e : ε} {es : List ε} {s s' : σ} :
    m.run (e :: es) s = some s' ↔ ∃ s₁, m.step e s = some s₁ ∧ m.run es s₁ = some s' := by
  simp [run, Option.bind_eq_some_iff]

/-- A run in two parts goes through a state between them. -/
theorem run_append {es fs : List ε} {s s' : σ} :
    m.run (es ++ fs) s = some s' ↔ ∃ s₁, m.run es s = some s₁ ∧ m.run fs s₁ = some s' := by
  induction es generalizing s with
  | nil => simp
  | cons e es ih =>
    simp only [List.cons_append, run_cons, ih]
    constructor
    · rintro ⟨s₁, he, s₂, hes, hfs⟩
      exact ⟨s₂, ⟨s₁, he, hes⟩, hfs⟩
    · rintro ⟨s₂, ⟨s₁, he, hes⟩, hfs⟩
      exact ⟨s₁, he, s₂, hes, hfs⟩

variable {m}

/-- A start is reachable. -/
theorem Reachable.init {s : σ} (h : m.init s) : m.Reachable s :=
  ⟨s, [], h, rfl⟩

/-- A run from a reachable state ends in a reachable state. -/
theorem Reachable.run {s s' : σ} {es : List ε} (hr : m.Reachable s)
    (h : m.run es s = some s') : m.Reachable s' := by
  obtain ⟨s₀, fs, h₀, hfs⟩ := hr
  exact ⟨s₀, fs ++ es, h₀, (m.run_append).mpr ⟨s, hfs, h⟩⟩

/-- A step from a reachable state leads to a reachable state. -/
theorem Reachable.step {s s' : σ} {e : ε} (hr : m.Reachable s)
    (h : m.step e s = some s') : m.Reachable s' :=
  hr.run (show m.run [e] s = some s' from (m.run_cons).mpr ⟨s', h, rfl⟩)

/-- What every step preserves, every run preserves. -/
theorem run_invariant {Inv : σ → Prop}
    (hstep : ∀ {e s s'}, Inv s → m.step e s = some s' → Inv s')
    {es : List ε} {s s' : σ} (hs : Inv s) (h : m.run es s = some s') : Inv s' := by
  induction es generalizing s with
  | nil =>
    cases h
    exact hs
  | cons e es ih =>
    obtain ⟨s₁, he, hes⟩ := (m.run_cons).mp h
    exact ih (hstep hs he) hes

/-- What holds initially and is preserved by every step holds in every
reachable state. -/
theorem Reachable.invariant {Inv : σ → Prop} (hinit : ∀ {s}, m.init s → Inv s)
    (hstep : ∀ {e s s'}, Inv s → m.step e s = some s' → Inv s')
    {s : σ} (hr : m.Reachable s) : Inv s := by
  obtain ⟨s₀, es, h₀, hes⟩ := hr
  exact run_invariant hstep (hinit h₀) hes

/-- A component that every step of the system leaves alone, or takes on by a
step of its own machine. -/
theorem Reachable.component {τ ε' : Type*} {m' : Machine τ ε'} (view : σ → τ)
    (hinit : ∀ {s}, m.init s → m'.init (view s))
    (hstep : ∀ {e s s'}, m.step e s = some s' →
      view s' = view s ∨ ∃ e', m'.step e' (view s) = some (view s'))
    {s : σ} (hr : m.Reachable s) : m'.Reachable (view s) := by
  let Inv (s : σ) : Prop := m'.Reachable (view s)
  have hinit' : ∀ {s}, m.init s → Inv s := fun h => Reachable.init (hinit h)
  have hstep' : ∀ {e s s'}, Inv s → m.step e s = some s' → Inv s' := by
    intro e s s' hview he
    rcases hstep he with hsame | ⟨e', he'⟩
    · show m'.Reachable (view s')
      rw [hsame]
      exact hview
    · exact Reachable.step hview he'
  exact hr.invariant hinit' hstep'

/-- Every event of the run comes in a state where `P` allows it. -/
def Along (m : Machine σ ε) (P : ε → σ → Prop) : List ε → σ → Prop
  | [], _ => True
  | e :: es, s => P e s ∧ (m.step e s).elim True (Along m P es)

instance decidableAlong {P : ε → σ → Prop} [∀ e s, Decidable (P e s)] :
    ∀ (es : List ε) (s : σ), Decidable (m.Along P es s)
  | [], _ => .isTrue trivial
  | e :: es, s =>
    have : Decidable ((m.step e s).elim True (m.Along P es)) :=
      match m.step e s with
      | none => .isTrue trivial
      | some s' => decidableAlong es s'
    inferInstanceAs (Decidable (P e s ∧ (m.step e s).elim True (m.Along P es)))

/-- Two conditions on the same run. -/
theorem Along.and {P Q : ε → σ → Prop} {es : List ε} {s : σ} (hP : m.Along P es s)
    (hQ : m.Along Q es s) : m.Along (fun e s => P e s ∧ Q e s) es s := by
  induction es generalizing s with
  | nil => exact trivial
  | cons e es ih =>
    obtain ⟨hPe, hP⟩ := hP
    obtain ⟨hQe, hQ⟩ := hQ
    refine ⟨⟨hPe, hQe⟩, ?_⟩
    cases hstep : m.step e s with
    | none => exact trivial
    | some s' =>
      rw [hstep] at hP hQ
      exact ih hP hQ

/-- What every step under a condition preserves, every run under it
preserves. -/
theorem run_invariant_along {P : ε → σ → Prop} {Inv : σ → Prop}
    (hstep : ∀ {e s s'}, Inv s → P e s → m.step e s = some s' → Inv s')
    {es : List ε} {s s' : σ} (hP : m.Along P es s) (hs : Inv s) (h : m.run es s = some s') :
    Inv s' := by
  induction es generalizing s with
  | nil =>
    cases h
    exact hs
  | cons e es ih =>
    obtain ⟨s₁, he, hes⟩ := (m.run_cons).mp h
    obtain ⟨hPe, hPes⟩ := hP
    rw [he] at hPes
    exact ih hPes (hstep hs hPe he) hes

/-- What a step destroys exactly where it breaks the condition, and none brings
back, tells whether a run kept to it. -/
theorem along_iff {P : ε → σ → Prop} {Inv Kept : σ → Prop}
    (hinv : ∀ {e s s'}, Inv s → m.step e s = some s' → Inv s')
    (hstep : ∀ {e s s'}, Inv s → m.step e s = some s' → (Kept s' ↔ Kept s ∧ P e s))
    {es : List ε} {s s' : σ} (hs : Inv s) (h : m.run es s = some s') :
    Kept s' ↔ Kept s ∧ m.Along P es s := by
  induction es generalizing s with
  | nil =>
    cases h
    exact (and_iff_left trivial).symm
  | cons e es ih =>
    obtain ⟨s₁, he, hes⟩ := (m.run_cons).mp h
    have halong : m.Along P (e :: es) s ↔ P e s ∧ m.Along P es s₁ := by
      rw [Along, he]
      rfl
    rw [ih (hinv hs he) hes, hstep hs he, halong, and_assoc]

/-- Where every step lowers a measure, a run is no longer than the measure. -/
theorem run_length_le {μ : σ → Nat} (hstep : ∀ {e s s'}, m.step e s = some s' → μ s' < μ s)
    {es : List ε} {s s' : σ} (h : m.run es s = some s') : es.length + μ s' ≤ μ s := by
  induction es generalizing s with
  | nil =>
    cases h
    simp
  | cons e es ih =>
    obtain ⟨s₁, he, hes⟩ := (m.run_cons).mp h
    have hlt := hstep he
    have hle := ih hes
    rw [List.length_cons]
    omega

/-- A run of events in `P` leads from one state to the other. -/
def Reaches (m : Machine σ ε) (P : ε → Prop) (s s' : σ) : Prop :=
  ∃ es, (∀ e ∈ es, P e) ∧ m.run es s = some s'

namespace Reaches

variable {P : ε → Prop} {s s₁ s' : σ}

theorem refl (s : σ) : m.Reaches P s s :=
  ⟨[], by simp, rfl⟩

/-- A step and a run make a run. -/
theorem head {e : ε} (hP : P e) (hstep : m.step e s = some s₁) (h : m.Reaches P s₁ s') :
    m.Reaches P s s' := by
  obtain ⟨es, hes, hrun⟩ := h
  exact ⟨e :: es, List.forall_mem_cons.mpr ⟨hP, hes⟩, (m.run_cons).mpr ⟨s₁, hstep, hrun⟩⟩

theorem trans (h : m.Reaches P s s₁) (h' : m.Reaches P s₁ s') : m.Reaches P s s' := by
  obtain ⟨es, hes, hrun⟩ := h
  obtain ⟨fs, hfs, hrun'⟩ := h'
  exact ⟨es ++ fs, List.forall_mem_append.mpr ⟨hes, hfs⟩, (m.run_append).mpr ⟨s₁, hrun, hrun'⟩⟩

/-- A step is a run. -/
theorem single {e : ε} (hP : P e) (hstep : m.step e s = some s') : m.Reaches P s s' :=
  (refl s').head hP hstep

/-- What every step can be followed by, every run can be followed by. -/
theorem simulate {τ ε' : Type*} {m' : Machine τ ε'} {P' : ε' → Prop} {t t' : τ} (view : τ → σ)
    (hstep : ∀ {e t t'}, P' e → m'.step e t = some t' → m.Reaches P (view t) (view t'))
    (h : m'.Reaches P' t t') : m.Reaches P (view t) (view t') := by
  obtain ⟨es, hes, hrun⟩ := h
  induction es generalizing t with
  | nil =>
    cases hrun
    exact .refl _
  | cons e es ih =>
    obtain ⟨hP, hes⟩ := List.forall_mem_cons.mp hes
    obtain ⟨t₁, he, hrun⟩ := (m'.run_cons).mp hrun
    exact (hstep hP he).trans (ih hes hrun)

end Reaches

/-- Where an event in `P` can always lower a measure until the goal is met, events
in `P` can lead to the goal. -/
theorem reaches_of_measure {α : Type*} [LT α] [WellFoundedLT α] {P : ε → Prop}
    {Inv Goal : σ → Prop} (μ : σ → α)
    (hstep : ∀ s, Inv s → Goal s ∨ ∃ e s', P e ∧ m.step e s = some s' ∧ Inv s' ∧ μ s' < μ s)
    {s : σ} (hs : Inv s) : ∃ s', m.Reaches P s s' ∧ Inv s' ∧ Goal s' := by
  induction hμ : μ s using WellFoundedLT.induction generalizing s with
  | _ a ih =>
    rcases hstep s hs with hgoal | ⟨e, s₁, hP, he, hs₁, hlt⟩
    · exact ⟨s, .refl s, hs, hgoal⟩
    · obtain ⟨s', hreach, hs', hgoal⟩ := ih (μ s₁) (hμ ▸ hlt) hs₁ rfl
      exact ⟨s', hreach.head hP he, hs', hgoal⟩

/-- Where an event in `P` can always let time pass or lower a measure at the same
time, events in `P` can let any time pass. -/
theorem reaches_clock {α : Type*} [Preorder α] [WellFoundedLT α] {P : ε → Prop} {Inv : σ → Prop}
    (clock : σ → Nat) (μ : σ → α) {target : Nat}
    (hstep : ∀ s, Inv s → clock s < target → ∃ e s', P e ∧ m.step e s = some s' ∧ Inv s' ∧
      (clock s' = clock s + 1 ∨ clock s' = clock s ∧ μ s' < μ s))
    {s : σ} (hs : Inv s) (hle : clock s ≤ target) :
    ∃ s', m.Reaches P s s' ∧ Inv s' ∧ clock s' = target := by
  let Until (s : σ) : Prop := Inv s ∧ clock s ≤ target
  have hnext : ∀ s, Until s → clock s = target ∨ ∃ e s', P e ∧ m.step e s = some s' ∧ Until s' ∧
      toLex (target - clock s', μ s') < toLex (target - clock s, μ s) := by
    rintro s ⟨hs, hle⟩
    rcases Nat.eq_or_lt_of_le hle with hdone | hlt
    · exact .inl hdone
    · obtain ⟨e, s', hP, he, hs', hclock | ⟨hclock, hlower⟩⟩ := hstep s hs hlt
      · refine .inr ⟨e, s', hP, he, ⟨hs', hclock ▸ hlt⟩, Prod.Lex.toLex_lt_toLex.mpr (.inl ?_)⟩
        rw [hclock]
        exact Nat.sub_succ_lt_self _ _ hlt
      · refine .inr ⟨e, s', hP, he, ⟨hs', hclock ▸ hle⟩, Prod.Lex.toLex_lt_toLex.mpr ?_⟩
        rw [hclock]
        exact .inr ⟨rfl, hlower⟩
  obtain ⟨s', hreaches, ⟨hs', -⟩, hclock⟩ := reaches_of_measure _ hnext ⟨hs, hle⟩
  exact ⟨s', hreaches, hs', hclock⟩

/-- Machines that keep a relation event by event, and enable the same events
in related states, keep it over runs and have the same runs. -/
theorem run_rel {σ' : Type*} {m' : Machine σ' ε} {R : σ → σ' → Prop}
    (hstep : ∀ e {s u}, R s u → Option.Rel R (m.step e s) (m'.step e u)) (es : List ε) {s : σ}
    {u : σ'} (h : R s u) : Option.Rel R (m.run es s) (m'.run es u) := by
  induction es generalizing s u with
  | nil => exact .some h
  | cons e es ih =>
    rw [run, run]
    exact (hstep e h).bind fun _ _ hnext => ih hnext

end Machine
