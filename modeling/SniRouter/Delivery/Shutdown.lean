import SniRouter.Delivery.Control

/-!
# SniRouter — shutdown

The first `close` of the gate splits the connections: those that entered before
it proxy on, all others end without proxying, wherever they are.

* `NetInv` — the gate counts the live passes, its two signals agree.
* `proxied_run` — a connection proxies exactly if it entered before the first
  `close`.
* `doomed_run` / `decided_run` — what becomes of the others.
* `shutdown_one_side` — the split, over every run.
-/

namespace SniRouter

open Table Connection

-- ---------------------------------------------------------------------------
-- The gate and the connections
-- ---------------------------------------------------------------------------

/-- What the gate and the connections agree on. -/
structure NetInv (s : Net) : Prop where
  control : s.Forall Control
  passes  : s.gate.proxying = s.conns.countP holdsPass
  token   : s.gate.cancelled = s.gate.closed
  forced  : ∀ (i : Nat) c, s.conns[i]? = some c → c.Forced → s.force = true

theorem NetInv.new : NetInv .new where
  control _ _ h := absurd h (by simp [Net.new])
  passes := rfl
  token := rfl
  forced _ _ h := absurd h (by simp [Net.new])

theorem NetInv.step {config : RouterConfig} {event : NetEvent} {s s' : Net} (inv : NetInv s)
    (h : Net.step config event s = some s') : NetInv s' := by
  have hcontrol := inv.control.step Control.spawn (fun hc hstep => Control.step hc hstep) h
  cases Net.step_cases h with
  | @accept client =>
    refine ⟨hcontrol, ?_, inv.token, ?_⟩
    · rw [List.countP_append]
      exact inv.passes
    · intro i c hc hforced
      rcases lookup_append_cases hc with ⟨-, rfl⟩ | hold
      · rcases hforced with hforced | hforced
        · exact absurd hforced (by simp [Connection.spawn])
        · exact absurd hforced (by simp [Connection.spawn])
      · exact inv.forced i c hold hforced
  | @conn i event c c' gate events hconn hstep =>
    have hc := inv.control i c hconn
    have hcount := countP_set holdsPass hconn c'
    have hpasses := inv.passes
    refine ⟨hcontrol, ?_, ?_, ?_⟩
    · show gate.proxying = (s.conns.set i c').countP holdsPass
      rcases hstep.holdsPass with ⟨rfl, hsame⟩ | ⟨hnone, hsome, henter⟩ | ⟨hsome, hnone, rfl⟩
      · rw [hsame] at hcount
        omega
      · unfold ProxyGate.enter at henter
        split_ifs at henter
        injection henter with henter
        rw [← henter]
        simp only [hnone, hsome, Bool.false_eq_true, if_false, if_true] at hcount
        show s.gate.proxying + 1 = _
        omega
      · simp only [hnone, hsome, Bool.false_eq_true, if_false, if_true] at hcount
        show s.gate.proxying - 1 = _
        omega
    · obtain ⟨hclosed, hcancelled⟩ := hstep.signals
      exact hcancelled.trans (inv.token.trans hclosed.symm)
    · intro j d hd hforced
      rcases lookup_set_cases hconn hd with ⟨-, rfl⟩ | ⟨-, hold⟩
      · rcases hstep.of_forced hc hforced with hforced | hforce
        · exact inv.forced i c hconn hforced
        · exact hforce
      · exact inv.forced j d hold hforced
  | close => exact ⟨hcontrol, inv.passes, rfl, inv.forced⟩
  | force => exact ⟨hcontrol, inv.passes, inv.token, fun _ _ _ _ => rfl⟩

theorem netMachine_inv {config : RouterConfig} {s : Net} (h : (netMachine config).Reachable s) :
    NetInv s := by
  have hinit : ∀ {s}, (netMachine config).init s → NetInv s := by
    intro s hinit
    rw [show s = .new from hinit]
    exact .new
  have hstep : ∀ {event s s'}, NetInv s → (netMachine config).step event s = some s' →
      NetInv s' := fun inv h => inv.step h
  exact h.invariant hinit hstep

-- ---------------------------------------------------------------------------
-- Which connections proxy
-- ---------------------------------------------------------------------------

section

variable {config : RouterConfig} {s s' : Net}

/-- Only `close` closes the gate. -/
theorem step_closed {event : NetEvent} (h : Net.step config event s = some s') :
    s'.gate.closed = true ↔ s.gate.closed = true ∨ event = .close := by
  cases Net.step_cases h with
  | conn _ hstep =>
    rw [show _ = s.gate.closed from hstep.signals.1]
    simp
  | close => simp [ProxyGate.close]
  | _ => simp

/-- The connection has got a pass. -/
def Proxied (i : Nat) (s : Net) : Prop :=
  ∃ c, s.conns[i]? = some c ∧ c.proxied = true

/-- Only entering an open gate makes a connection proxied. -/
theorem step_proxied {event : NetEvent} (h : Net.step config event s = some s') (i : Nat) :
    Proxied i s' ↔ Proxied i s ∨ (event = .conn i .enter ∧ s.gate.closed = false) := by
  unfold Proxied
  cases Net.step_cases h with
  | accept =>
    refine ⟨fun h => ?_, fun h => ?_⟩
    · obtain ⟨c, hc, hproxied⟩ := h
      rcases lookup_append_cases hc with ⟨-, rfl⟩ | hold
      · exact absurd hproxied (by simp [Connection.spawn])
      · exact .inl ⟨c, hold, hproxied⟩
    · rcases h with ⟨c, hc, hproxied⟩ | ⟨hevent, -⟩
      · exact ⟨c, (List.getElem?_append_left (lt_length hc)).trans hc, hproxied⟩
      · exact absurd hevent (by simp)
  | @conn j event c c' gate events hconn hstep =>
    have hproxied := hstep.proxied
    by_cases hij : i = j
    · subst hij
      simp only [lookup_set hconn, if_true, Option.some.injEq, exists_eq_left', hconn,
        NetEvent.conn.injEq, true_and]
      exact hproxied
    · have hother : (s.conns.set j c')[i]? = s.conns[i]? := by
        rw [lookup_set hconn, if_neg hij]
      simp [hother, Ne.symm hij]
  | close => simp
  | force => simp

/-- An `enter` of the connection is among the events, before any `close`. -/
def EntersBeforeClose (i : Nat) (es : List NetEvent) : Prop :=
  ∃ before after, es = before ++ .conn i .enter :: after ∧ .close ∉ before

/-- Entering first, or later but before the close. -/
theorem entersBeforeClose_cons {i : Nat} {e : NetEvent} {es : List NetEvent} :
    EntersBeforeClose i (e :: es) ↔ e = .conn i .enter ∨ (e ≠ .close ∧ EntersBeforeClose i es) := by
  refine ⟨fun h => ?_, fun h => ?_⟩
  · obtain ⟨before, after, heq, hopen⟩ := h
    cases before with
    | nil =>
      injection heq with heq _
      exact .inl heq
    | cons e' before =>
      injection heq with he heq
      rw [List.mem_cons, not_or] at hopen
      exact .inr ⟨he ▸ Ne.symm hopen.1, before, after, heq, hopen.2⟩
  · rcases h with rfl | ⟨hne, before, after, rfl, hopen⟩
    · exact ⟨[], es, rfl, by simp⟩
    · exact ⟨e :: before, after, rfl, by simp [Ne.symm hne, hopen]⟩

/-- From any state on, a connection gets a pass exactly if it enters before the
gate is closed. -/
theorem proxied_run {es : List NetEvent} (h : (netMachine config).run es s = some s') (i : Nat) :
    Proxied i s' ↔ Proxied i s ∨ (s.gate.closed = false ∧ EntersBeforeClose i es) := by
  induction es generalizing s with
  | nil =>
    cases h
    simp [EntersBeforeClose]
  | cons e es ih =>
    obtain ⟨s₁, he, hes⟩ := ((netMachine config).run_cons).mp h
    have hproxied := step_proxied he i
    have hclosed := step_closed he
    rw [ih hes, hproxied, entersBeforeClose_cons]
    by_cases hclose : e = .close
    · have h₁ : s₁.gate.closed = true := hclosed.mpr (.inr hclose)
      simp [h₁, hclose]
    · have h₁ : s₁.gate.closed = s.gate.closed := by
        rw [Bool.eq_iff_iff, hclosed]
        simp [hclose]
      rw [h₁]
      simp only [ne_eq, hclose, not_false_eq_true, true_and]
      tauto

-- ---------------------------------------------------------------------------
-- What becomes of the others
-- ---------------------------------------------------------------------------

/-- Connection `i`, if it is there, is doomed. -/
def DoomedAt (i : Nat) (s : Net) : Prop :=
  ∀ c, s.conns[i]? = some c → c.Doomed

/-- A doomed connection stays doomed. -/
theorem doomed_step {event : NetEvent} {i : Nat} (inv : NetInv s) (hclosed : s.gate.closed = true)
    (hdoomed : DoomedAt i s) (h : Net.step config event s = some s') : DoomedAt i s' := by
  intro c hc
  cases Net.step_cases h with
  | accept =>
    rcases lookup_append_cases hc with ⟨-, rfl⟩ | hold
    · exact ⟨rfl, rfl, fun o ho => absurd ho (by simp [decided, Connection.spawn])⟩
    · exact hdoomed c hold
  | @conn j event d d' gate events hconn hstep =>
    rcases lookup_set_cases hconn hc with ⟨rfl, rfl⟩ | ⟨-, hold⟩
    · exact (hdoomed d hconn).step (inv.control _ d hconn) hclosed (inv.token.trans hclosed) hstep
    · exact hdoomed c hold
  | close => exact hdoomed c hc
  | force => exact hdoomed c hc

/-- In a run with the gate closed, the doomed stay doomed. -/
theorem doomed_run {es : List NetEvent} {i : Nat} (inv : NetInv s)
    (hclosed : s.gate.closed = true) (hdoomed : DoomedAt i s)
    (h : (netMachine config).run es s = some s') : DoomedAt i s' := by
  have hstep : ∀ {event s s'}, (NetInv s ∧ s.gate.closed = true ∧ DoomedAt i s) →
      (netMachine config).step event s = some s' →
      NetInv s' ∧ s'.gate.closed = true ∧ DoomedAt i s' := by
    intro event s s' hs hmove
    exact ⟨hs.1.step hmove, (step_closed hmove).mpr (.inl hs.2.1),
      doomed_step hs.1 hs.2.1 hs.2.2 hmove⟩
  exact (Machine.run_invariant hstep ⟨inv, hclosed, hdoomed⟩ h).2.2

/-- Connection `i` is there and has the outcome, unless it was dropped. -/
def DecidedAt (i : Nat) (o : ConnectionOutcome) (s : Net) : Prop :=
  ∃ c, s.conns[i]? = some c ∧ (c.decided = some o ∨ c.Dropped)

/-- What was decided stays decided. -/
theorem decided_run {es : List NetEvent} {i : Nat} {o : ConnectionOutcome} (inv : NetInv s)
    (hdecided : DecidedAt i o s) (h : (netMachine config).run es s = some s') :
    DecidedAt i o s' := by
  have hstep : ∀ {event s s'}, (NetInv s ∧ DecidedAt i o s) →
      (netMachine config).step event s = some s' → NetInv s' ∧ DecidedAt i o s' := by
    intro event s s' hs hmove
    obtain ⟨inv, c, hc, hdecided⟩ := hs
    refine ⟨inv.step hmove, ?_⟩
    cases Net.step_cases hmove with
    | accept => exact ⟨c, (List.getElem?_append_left (lt_length hc)).trans hc, hdecided⟩
    | @conn j event d d' gate events hconn hstep =>
      by_cases hij : i = j
      · subst hij
        rw [hc] at hconn
        injection hconn with hconn
        subst hconn
        exact ⟨d', (lookup_set hc d' i).trans (if_pos rfl),
          decided_step (inv.control i c hc) hstep hdecided⟩
      · exact ⟨c, ((lookup_set hconn d' i).trans (if_neg hij)).trans hc, hdecided⟩
    | close => exact ⟨c, hc, hdecided⟩
    | force => exact ⟨c, hc, hdecided⟩
  exact (Machine.run_invariant hstep ⟨inv, hdecided⟩ h).2

/-- Connection `i` has its outcome `o` in `s` already, or gets it in the run by
the poll that is under way in `s`. -/
def DecidedUnderWay (config : RouterConfig) (i : Nat) (o : ConnectionOutcome) (s : Net)
    (es : List NetEvent) : Prop :=
  ∃ before after s₁ c, es = before ++ after ∧ (netMachine config).run before s = some s₁ ∧
    s₁.conns[i]? = some c ∧ c.decided = some o ∧
    (before = [] ∨ (∃ c₀, s.conns[i]? = some c₀ ∧ c₀.checked = true) ∧
      .conn i .poll ∉ before ∧ .conn i .pending ∉ before)

/-- A poll under way is not begun again. -/
theorem no_poll_under_way {i : Nat} {c : Connection} (hc : s.conns[i]? = some c)
    (hchecked : c.checked = true) : Net.step config (.conn i .poll) s ≠ some s' := by
  intro h
  cases Net.step_cases h with
  | conn hconn hstep =>
    rw [hc] at hconn
    injection hconn with hconn
    subst hconn
    cases hstep with
    | cancelled hunchecked | forced hunchecked | checked hunchecked =>
      rw [hchecked] at hunchecked
      exact absurd hunchecked (by simp)

/-- The poll under way ends without a result, with the gate closed. -/
theorem doomed_of_pending {i : Nat} {c : Connection} (hc : s.conns[i]? = some c)
    (hpass : c.proxied = false) (hundecided : c.decided = none)
    (h : Net.step config (.conn i .pending) s = some s') : DoomedAt i s' := by
  intro d hd
  cases Net.step_cases h with
  | conn hconn hstep =>
    rw [lookup_set hconn, if_pos rfl] at hd
    injection hd with hd
    rw [hc] at hconn
    injection hconn with hconn
    subst hconn hd
    cases hstep with
    | pending =>
      refine ⟨hpass, rfl, ?_⟩
      intro o ho
      exact absurd (hundecided.symm.trans ho) (by simp)

/-- With the gate closed, a connection without a pass comes to a cancellation,
or to what was decided or being decided when it closed. -/
theorem outcome_after_close {es : List NetEvent} {i : Nat} {o : ConnectionOutcome}
    {c' : Connection} (inv : NetInv s) (hclosed : s.gate.closed = true)
    (hrun : (netMachine config).run es s = some s') (hc' : s'.conns[i]? = some c')
    (hpass : c'.proxied = false) (ho : c'.outcome = some o) (hover : c'.stage.over = true) :
    o = .shutdownCancelled ∨ DecidedUnderWay config i o s es := by
  have hdecided' : c'.decided = some o := (decided_of_over hover).trans ho
  induction es generalizing s with
  | nil =>
    cases hrun
    exact .inr ⟨[], [], s', c', rfl, rfl, hc', hdecided', .inl rfl⟩
  | cons e es ih =>
    by_cases hdoomed : DoomedAt i s
    · exact .inl ((doomed_run inv hclosed hdoomed hrun c' hc').undecided o hdecided')
    · obtain ⟨c, hc, hlive⟩ : ∃ c, s.conns[i]? = some c ∧ ¬ c.Doomed := by
        unfold DoomedAt at hdoomed
        push Not at hdoomed
        exact hdoomed
      cases hdecided : c.decided with
      | some o' =>
        obtain ⟨d, hd, hsame⟩ := decided_run inv ⟨c, hc, .inl hdecided⟩ hrun
        rw [hc'] at hd
        injection hd with hd
        subst hd
        rcases hsame with hsame | ⟨hnone, -⟩
        · rw [hdecided'] at hsame
          exact .inr ⟨[], e :: es, s, c, rfl, rfl, hc, hdecided.trans hsame.symm, .inl rfl⟩
        · exact absurd (ho.symm.trans hnone) (by simp)
      | none =>
        have hnopass : c.proxied = false := by
          by_contra hproxied
          obtain ⟨d, hd, hd'⟩ := (proxied_run hrun i).mpr
            (.inl ⟨c, hc, Bool.eq_true_of_not_eq_false hproxied⟩)
          rw [hc'] at hd
          injection hd with hd
          rw [← hd, hpass] at hd'
          exact absurd hd' (by simp)
        have hchecked : c.checked = true := by
          by_contra hparked
          exact hlive ⟨hnopass, Bool.eq_false_iff.mpr hparked,
            fun o' ho' => absurd (hdecided.symm.trans ho') (by simp)⟩
        obtain ⟨s₁, he, hes⟩ := ((netMachine config).run_cons).mp hrun
        have inv₁ : NetInv s₁ := inv.step he
        have hclosed₁ : s₁.gate.closed = true := (step_closed he).mpr (.inl hclosed)
        have hpoll : e ≠ .conn i .poll := fun heq => no_poll_under_way hc hchecked (heq ▸ he)
        by_cases hpending : e = .conn i .pending
        · have hdoomed₁ := doomed_of_pending hc hnopass hdecided (hpending ▸ he)
          exact .inl ((doomed_run inv₁ hclosed₁ hdoomed₁ hes c' hc').undecided o hdecided')
        · -- the poll goes on
          rcases ih inv₁ hclosed₁ hes with hshut | hunderway
          · exact .inl hshut
          · obtain ⟨before, after, s₂, c₂, heq, hbefore, hc₂, hdecided₂, hwhy⟩ := hunderway
            have hquiet : .conn i .poll ∉ before ∧ .conn i .pending ∉ before := by
              rcases hwhy with rfl | ⟨-, hquiet⟩
              · simp
              · exact hquiet
            refine .inr ⟨e :: before, after, s₂, c₂, by rw [heq]; rfl,
              ((netMachine config).run_cons).mpr ⟨s₁, he, hbefore⟩, hc₂, hdecided₂,
              .inr ⟨⟨c, hc, hchecked⟩, ?_, ?_⟩⟩
            · simp [Ne.symm hpoll, hquiet.1]
            · simp [Ne.symm hpending, hquiet.2]

end

-- ---------------------------------------------------------------------------
-- The split
-- ---------------------------------------------------------------------------

/-- Every connection is on one side of the close. -/
structure OneSide (config : RouterConfig) (es : List NetEvent) (s : Net) : Prop where
  /-- A connection proxies exactly if it entered before the first `close`. -/
  proxies     : ∀ (i : Nat) c, s.conns[i]? = some c → (c.proxied = true ↔ EntersBeforeClose i es)
  /-- `close` returns how many connections hold a pass. -/
  counted     : s.gate.close.1 = s.conns.countP holdsPass
  live        : s.gate.proxying = s.conns.countP holdsPass
  noUnderflow : ∀ (i : Nat) c, s.conns[i]? = some c → c.holdsPass = true → 0 < s.gate.proxying
  /-- Once closed, the gate grants nobody a pass. -/
  noneAfter   : s.gate.closed = true → ∀ event s', Net.step config event s = some s' →
    s'.gate.closed = true ∧ ∀ i, Proxied i s' → Proxied i s
  /-- A connection without a pass is not proxying, and does not end as if. -/
  before      : ∀ (i : Nat) c, s.conns[i]? = some c → c.proxied = false →
    c.holdsPass = false ∧ ∀ o, c.outcome = some o → o.beforeGate = true
  /-- At every moment after `close` it is headed for its cancellation, unless its
  outcome is there or being decided by the poll under way. -/
  cancelled   : ∀ es₁ es₂ s₁, es = es₁ ++ es₂ → (netMachine config).run es₁ .new = some s₁ →
    s₁.gate.closed = true → ∀ (i : Nat) c o, s.conns[i]? = some c → c.proxied = false →
    c.outcome = some o → o = .shutdownCancelled ∨ DecidedUnderWay config i o s₁ es₂
  /-- A connection with a pass is never cancelled, and forced only by the token. -/
  passed      : ∀ (i : Nat) c o, s.conns[i]? = some c → c.proxied = true → c.outcome = some o →
    o.afterGate = true ∧ (o = .shutdownForced → s.force = true)

/-- **Shutdown puts every connection on exactly one side.** In every run of any
number of connections, with the gate closed and the force token fired at any
moments, the connections that entered before the first `close` proxy and are
counted by it, and all others end as cancelled or as what they had come to. -/
theorem shutdown_one_side {config : RouterConfig} {es : List NetEvent} {s : Net}
    (hrun : (netMachine config).run es .new = some s) : OneSide config es s := by
  have inv := netMachine_inv ⟨.new, es, rfl, hrun⟩
  refine ⟨?_, inv.passes, inv.passes, ?_, ?_, ?_, ?_, ?_⟩
  · intro i c hc
    have hproxied := proxied_run hrun i
    have hnew : ¬ Proxied i .new := by
      rintro ⟨c, hc, -⟩
      exact absurd hc (by simp [Net.new])
    simp only [Proxied, hc, Option.some.injEq, exists_eq_left'] at hproxied
    rw [hproxied]
    exact ⟨fun h => (h.resolve_left hnew).2, fun h => .inr ⟨rfl, h⟩⟩
  · intro i c hc hholds
    rw [inv.passes]
    exact countP_pos holdsPass hc hholds
  · intro hclosed event s' hstep
    refine ⟨(step_closed hstep).mpr (.inl hclosed), ?_⟩
    intro i hproxied
    rcases (step_proxied hstep i).mp hproxied with hproxied | ⟨-, hopen⟩
    · exact hproxied
    · exact absurd (hclosed.symm.trans hopen) (by simp)
  · intro i c hc hpass
    have hcontrol := inv.control i c hc
    refine ⟨?_, ?_⟩
    · by_contra hholds
      rw [hcontrol.proxying (Bool.eq_true_of_not_eq_false hholds)] at hpass
      exact absurd hpass (by simp)
    · intro o ho
      have houtcome := hcontrol.outcome ho
      rw [hpass] at houtcome
      exact houtcome
  · intro es₁ es₂ s₁ heq hrun₁ hclosed i c o hc hpass ho
    rw [heq] at hrun
    obtain ⟨s₁', hrun₁', hrun₂⟩ := ((netMachine config).run_append).mp hrun
    rw [hrun₁] at hrun₁'
    injection hrun₁' with hsame
    subst hsame
    exact outcome_after_close (netMachine_inv ⟨.new, es₁, rfl, hrun₁⟩) hclosed hrun₂ hc hpass ho
      ((inv.control i c hc).over_of_outcome ho)
  · intro i c o hc hpass ho
    have houtcome := (inv.control i c hc).outcome ho
    rw [hpass] at houtcome
    exact ⟨houtcome, fun hforced => inv.forced i c hc (.inl (hforced ▸ ho))⟩

/-- Two connections, the first of which proxies when the gate closes; the second
is still waiting for its ClientHello. -/
theorem shutdown_one_side_at :
    ∃ (es : List NetEvent) (s : Net),
      (netMachine .default).run es .new = some s ∧ .close ∈ es ∧
      s.conns.map outcome = [none, some .shutdownCancelled] ∧
      s.conns.map proxied = [true, false] ∧ OneSide .default es s := by
  let hello : List UInt8 := [22, 3, 1, 0, 59, 1, 0, 0, 55, 3, 3] ++ List.replicate 32 0 ++
    [0, 0, 2, 19, 1, 1, 0, 0, 12, 0, 0, 0, 8, 0, 6, 0, 0, 3, 97, 46, 120]
  let backend : Backend := ⟨.ip (.v4 ⟨[10, 0, 0, 1]⟩), ⟨443, by decide⟩⟩
  let es : List NetEvent := [.accept hello, .accept [], .conn 0 .start, .conn 1 .start,
    .conn 0 .poll, .conn 0 (.work (.read 64)), .conn 0 (.work .parsed),
    .conn 1 .poll, .conn 1 .pending, .conn 0 .poll,
    .conn 0 (.work (.lookup (.answered (.ok [(⟨[97, 46, 120], false⟩, backend)])))),
    .conn 0 .poll, .conn 0 (.work (.dial (.attempt true))), .conn 0 (.work (.dial (.write 64))),
    .conn 0 (.work .connected), .conn 0 .enter, .close, .conn 1 .poll]
  obtain ⟨s, hrun, hends⟩ : ∃ s, (netMachine .default).run es .new = some s ∧
      (s.conns.map outcome, s.conns.map proxied) =
        ([none, some .shutdownCancelled], [true, false]) :=
    Option.map_eq_some_iff.mp (by decide +kernel)
  injection hends with houtcomes hproxied
  exact ⟨es, s, hrun, by simp [es], houtcomes, hproxied, shutdown_one_side hrun⟩

end SniRouter
