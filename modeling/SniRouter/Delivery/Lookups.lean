import SniRouter.Delivery.Deadlines
import SniRouter.Delivery.Forwarding

/-!
# SniRouter — what a connection makes of an answer

The lookup stage asks once. Backend, `unknownHost` and the two lookup failures
come from the answer, and nothing else that a connection does makes them.

* `Connection.Keeps` — what every other event leaves alone.
* `Connection.Answered` — the answer behind what a connection has decided.
* `Stepped.answered` — every event keeps it, if the lookup's answer is one.
-/

namespace SniRouter

open Framing Table

/-- The outcomes that only an answer of the store decides. -/
def ConnectionOutcome.fromLookup : ConnectionOutcome → Bool
  | .unknownHost | .lookupFailed | .lookupTimeout => true
  | _ => false

namespace Connection

variable {config : RouterConfig} {gate gate' : ProxyGate} {force : Bool} {c c' : Connection}

-- ---------------------------------------------------------------------------
-- Everything but the lookup
-- ---------------------------------------------------------------------------

/-- Backend and lookup outcomes are left alone, and the hostname as soon as
there is one of them. -/
structure Keeps (c c' : Connection) : Prop where
  backend : c'.backend = c.backend
  sni     : c'.sni = c.sni ∨ c.backend = none
  decided : ∀ o, o.fromLookup = true → c'.decided = some o → c.decided = some o ∧ c'.sni = c.sni

/-- Where neither stage nor outcome decides anything new. -/
theorem Keeps.of_decided (hbackend : c'.backend = c.backend) (hsni : c'.sni = c.sni)
    (hdecided : ∀ o, o.fromLookup = true → c'.decided = some o → c.decided = some o) :
    Keeps c c' :=
  ⟨hbackend, .inl hsni, fun o ho hc => ⟨hdecided o ho hc, hsni⟩⟩

/-- `run` returns what the store has no part in. -/
theorem Keeps.finish {outcome : ConnectionOutcome} (houtcome : outcome.fromLookup = false) :
    Keeps c (c.finish outcome) := by
  refine .of_decided rfl rfl fun o ho hc => ?_
  injection hc with hc
  rw [hc, ho] at houtcome
  exact absurd houtcome (by simp)

/-- Work other than a lookup keeps what the lookup decided. -/
theorem Worked.keeps {event : WorkEvent} {events : List MetricEvent} (h : c.Faithful config)
    (hwork : Worked config c event c' events) (hevent : ∀ ended, event ≠ .lookup ended) :
    Keeps c c' := by
  have hcontrol := h.control
  have hcarries := h.carries
  unfold Control at hcontrol
  unfold Carries at hcarries
  cases hwork with
  | routed | notFound | lookupFailed => exact absurd rfl (hevent _)
  | named hstage hsni =>
    rw [hstage] at hcontrol hcarries
    refine ⟨rfl, .inr hcarries.2.1, fun o _ hc => ?_⟩
    exact absurd (hcontrol.2.symm.trans hc) (by simp)
  | rejected _ houtcome => exact .finish (by rcases houtcome with rfl | rfl <;> rfl)
  | helloTimeout | upstreamTimeout => exact .finish rfl
  | dialFailed =>
    refine .of_decided rfl rfl fun o ho hc => ?_
    injection hc with hc
    rw [← hc] at ho
    exact absurd ho (by simp [ConnectionOutcome.fromLookup])
  | noSni =>
    refine .of_decided rfl rfl fun o ho hc => ?_
    injection hc with hc
    rw [← hc] at ho
    exact absurd ho (by simp [ConnectionOutcome.fromLookup])
  | alertEnd hstage | alertWrite hstage =>
    exact .of_decided rfl rfl fun o _ hc => by rw [decided, hstage]; exact hc
  | read hstage | readError hstage | dialled hstage | connected hstage | setup hstage
  | copied hstage | idle hstage | finished hstage | error hstage =>
    exact .of_decided rfl rfl fun o _ hc => by rw [decided, hstage]; exact hc

/-- Events other than a lookup keep what it decided. -/
theorem Stepped.keeps {event : ConnectionEvent} {events : List MetricEvent}
    (h : c.Faithful config) (hstep : Stepped config gate force c event c' gate' events)
    (hevent : ∀ ended, event ≠ .work (.lookup ended)) : Keeps c c' := by
  cases hstep with
  | work _ hwork => exact hwork.keeps h fun ended heq => hevent ended (congrArg _ heq)
  | checked | pending => exact .of_decided rfl rfl fun o _ hc => hc
  | cancelled _ hcancel =>
    rcases (Stage.onCancel_eq hcancel).2 with rfl | ⟨unsent, hstage⟩
    · exact .finish rfl
    · exact .of_decided rfl rfl fun o _ hc => by rw [decided, hstage]; exact hc
  | refused => exact .finish rfl
  | abandoned hstage =>
    refine .of_decided rfl rfl fun o _ hc => ?_
    exact absurd ((h.control.handshaking hstage).2.symm.trans hc) (by simp)
  | dropPass hstage =>
    have hcontrol := h.control
    unfold Control at hcontrol
    rw [hstage] at hcontrol
    refine .of_decided rfl rfl fun o ho hc => ?_
    have hafter := hcontrol.2.2 o hc
    cases o <;> simp_all [ConnectionOutcome.fromLookup, ConnectionOutcome.afterGate]
  | start hstage | forced _ hstage | entered hstage | neverPolled hstage | torn hstage
  | closeBooks hstage | releaseSlot hstage | exit hstage =>
    exact .of_decided rfl rfl fun o _ hc => by rw [decided, hstage]; exact hc

-- ---------------------------------------------------------------------------
-- The lookup
-- ---------------------------------------------------------------------------

/-- A lookup ends in the lookup stage. -/
theorem work_lookup {ended : LookupEnd} {events : List MetricEvent}
    (h : c.work config (.lookup ended) = some (c', events)) :
    ∃ buffered host, c.stage = .lookup buffered host ∧
      c' = c.afterLookup buffered (resolveRoute (fun _ => ended) host) := by
  cases hstage : c.stage with
  | lookup buffered host =>
    simp only [work, hstage, Option.some.injEq, Prod.mk.injEq] at h
    exact ⟨buffered, host, rfl, h.1.symm⟩
  | _ => exact absurd h (by simp [work, hstage])

/-- What a connection has decided, it has from an answer for its hostname. -/
structure Answered (P : Hostname → Except RouteError RouteMatch → Prop) (c : Connection) :
    Prop where
  backend : ∀ backend, c.backend = some backend →
    ∃ host route, c.sni = some host ∧ P host (.ok route) ∧ route.backend = backend
  unknown : c.decided = some .unknownHost → ∃ host, c.sni = some host ∧ P host (.error .notFound)
  failed  : c.decided ≠ some .lookupFailed ∧ c.decided ≠ some .lookupTimeout

variable {P Q : Hostname → Except RouteError RouteMatch → Prop}

theorem Answered.spawn (client : Bytes) : (Connection.spawn client).Answered P where
  backend _ h := absurd h (by simp [Connection.spawn])
  unknown h := absurd h (by simp [Connection.spawn, decided])
  failed := ⟨by simp [Connection.spawn, decided], by simp [Connection.spawn, decided]⟩

theorem Answered.mono (h : c.Answered P) (hPQ : ∀ {host result}, P host result → Q host result) :
    c.Answered Q where
  backend backend hbackend := by
    obtain ⟨host, route, hsni, hP, hroute⟩ := h.backend backend hbackend
    exact ⟨host, route, hsni, hPQ hP, hroute⟩
  unknown hunknown := by
    obtain ⟨host, hsni, hP⟩ := h.unknown hunknown
    exact ⟨host, hsni, hPQ hP⟩
  failed := h.failed

/-- What keeps the decision keeps the answer. -/
theorem Answered.keep (h : c.Answered P) (hkeeps : Keeps c c') : c'.Answered P where
  backend backend hbackend := by
    rw [hkeeps.backend] at hbackend
    rcases hkeeps.sni with hsni | hnone
    · rw [hsni]
      exact h.backend backend hbackend
    · exact absurd (hnone.symm.trans hbackend) (by simp)
  unknown hunknown := by
    obtain ⟨hdecided, hsni⟩ := hkeeps.decided .unknownHost rfl hunknown
    rw [hsni]
    exact h.unknown hdecided
  failed :=
    ⟨fun hc => h.failed.1 (hkeeps.decided _ rfl hc).1,
      fun hc => h.failed.2 (hkeeps.decided _ rfl hc).1⟩

/-- An answer that names a row or says that there is none. -/
theorem Answered.looked (h : c.Answered P) {host : Hostname} (hsni : c.sni = some host)
    (hrunning : c.outcome = none) {result : Except RouteError RouteMatch} (hP : P host result)
    (htable : ∀ error, result = .error error → error = .notFound) (buffered : Bytes) :
    (c.afterLookup buffered result).Answered P := by
  have hnone : ∀ {o}, c.outcome ≠ some o := fun heq => absurd (hrunning.symm.trans heq) (by simp)
  cases result with
  | ok route =>
    refine ⟨fun backend hbackend => ⟨host, route, hsni, hP, Option.some.inj hbackend⟩,
      fun hc => absurd hc hnone, hnone, hnone⟩
  | error error =>
    obtain rfl := htable error rfl
    exact ⟨h.backend, fun _ => ⟨host, hsni, hP⟩, by simp [afterLookup, decided, goto],
      by simp [afterLookup, decided, goto]⟩

/-- Every event of the task, where the store's answer is a `P`. -/
theorem Stepped.answered {event : ConnectionEvent} {events : List MetricEvent}
    (hfaithful : c.Faithful config) (h : c.Answered P)
    (hstep : c.step config gate force event = some (c', gate', events))
    (hanswer : ∀ ended, event = .work (.lookup ended) → ∀ buffered host,
      c.stage = .lookup buffered host → P host (resolveRoute (fun _ => ended) host) ∧
        ∀ error, resolveRoute (fun _ => ended) host = .error error → error = .notFound) :
    c'.Answered P := by
  by_cases hevent : ∃ ended, event = .work (.lookup ended)
  · obtain ⟨ended, rfl⟩ := hevent
    obtain ⟨buffered, host, hstage, rfl⟩ := work_lookup (work_of_step hstep)
    obtain ⟨hP, htable⟩ := hanswer ended rfl buffered host hstage
    have hcontrol := hfaithful.control
    have hcarries := hfaithful.carries
    unfold Control at hcontrol
    unfold Carries at hcarries
    rw [hstage] at hcontrol hcarries
    exact h.looked hcarries.2.2 hcontrol.2 hP htable buffered
  · exact h.keep ((step_cases hstep).keeps hfaithful fun ended heq => hevent ⟨ended, heq⟩)

-- ---------------------------------------------------------------------------
-- Once
-- ---------------------------------------------------------------------------

/-- The stage that shares its number with no other. -/
theorem lookup_of_number (h : c.stage.number = 2) :
    ∃ buffered host, c.stage = .lookup buffered host := by
  cases hstage : c.stage with
  | lookup buffered host => exact ⟨buffered, host, rfl⟩
  | _ =>
    rw [hstage] at h
    exact absurd h (by simp [Stage.number])

end Connection

/-- The connection that an event moves. -/
theorem Net.step_conn {config : RouterConfig} {i : Nat} {event : ConnectionEvent} {s s' : Net}
    (h : Net.step config (.conn i event) s = some s') :
    ∃ c c' gate' events, s.conns[i]? = some c ∧
      c.step config s.gate s.force event = some (c', gate', events) ∧
      s'.conns = s.conns.set i c' := by
  obtain ⟨c, hconn, h⟩ := Option.bind_eq_some_iff.mp h
  obtain ⟨⟨c', gate', events⟩, hstep, rfl⟩ := Option.map_eq_some_iff.mp h
  exact ⟨c, c', gate', events, hconn, hstep, rfl⟩

end SniRouter
