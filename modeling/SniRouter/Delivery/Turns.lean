import SniRouter.Delivery.Server
import SniRouter.Lib.RoundRobin

/-!
# SniRouter — the listeners take turns

`accept_any` polls the listeners from a rotating index. A listener that is
always ready waits for each of the others once at most.

* `pollAccept` — one poll of `accept_any`, with `next` after it.
* `acceptPolls` — one poll after the other.
* `accept_any_takes_turns` — who is accepted from, whatever is ready when.
* `serve_takes_turns` — ... over every run of `serve`.
-/

namespace SniRouter

open RoundRobin

-- ---------------------------------------------------------------------------
-- Polls
-- ---------------------------------------------------------------------------

/-- One poll of `accept_any`: what it returns, and `next` after it. -/
def pollAccept (listeners : List (Option Accepted)) (next : Nat) :
    Option (Nat × Accepted) × Nat :=
  match acceptAny listeners next with
  | some (index, accepted) => (some (index, accepted), (index + 1) % listeners.length)
  | none => (none, next)

/-- One poll after the other, with the listeners as each of them finds them: all
that is returned, and `next` in the end. -/
def acceptPolls : List (List (Option Accepted)) → Nat → List (Nat × Accepted) × Nat
  | [], next => ([], next)
  | listeners :: polls, next =>
    let poll := pollAccept listeners next
    let rest := acceptPolls polls poll.2
    (poll.1.toList ++ rest.1, rest.2)

/-- What listener `i` gives. -/
def polling (listeners : List (Option Accepted)) (i : Nat) : Option Accepted :=
  listeners[i]?.join

/-- A listener has a client waiting. -/
def listenerReady (listeners : List (Option Accepted)) (i : Nat) : Bool :=
  (polling listeners i).isSome

/-- Some listener is ready. -/
def someReady (listeners : List (Option Accepted)) : Bool :=
  listeners.any Option.isSome

/-- `accept_any` polls round robin. -/
theorem acceptAny_eq_first (listeners : List (Option Accepted)) (next : Nat) :
    acceptAny listeners next = first listeners.length (polling listeners) next := rfl

/-- A round answers when a listener is ready. -/
theorem someReady_eq (listeners : List (Option Accepted)) :
    someReady listeners = answered listeners.length (polling listeners) := by
  rw [Bool.eq_iff_iff, answered_iff]
  unfold someReady polling
  rw [List.any_eq_true]
  constructor
  · rintro ⟨listener, hmem, hsome⟩
    obtain ⟨i, hi, rfl⟩ := List.getElem_of_mem hmem
    exact ⟨i, hi, by rw [List.getElem?_eq_getElem hi]; exact hsome⟩
  · rintro ⟨i, hi, hsome⟩
    rw [List.getElem?_eq_getElem hi] at hsome
    exact ⟨listeners[i], List.getElem_mem hi, hsome⟩

/-- The listeners are served in turn. -/
theorem acceptPolls_eq_turns {count : Nat} {polls : List (List (Option Accepted))}
    (hcount : ∀ listeners ∈ polls, listeners.length = count) (next : Nat) :
    acceptPolls polls next = turns count (polls.map polling) next := by
  induction polls generalizing next with
  | nil => rfl
  | cons listeners polls ih =>
    have hrest := ih fun listeners hmem => hcount listeners (List.mem_cons_of_mem _ hmem)
    have hlen : listeners.length = count := hcount listeners List.mem_cons_self
    rw [acceptPolls, List.map_cons, turns]
    unfold pollAccept
    rw [acceptAny_eq_first, hlen]
    cases first count (polling listeners) next with
    | none => exact hrest next
    | some accepted =>
      dsimp only [Option.toList_some, List.singleton_append]
      rw [hrest]

/-- The polls that found someone. -/
theorem countP_someReady {count : Nat} {polls : List (List (Option Accepted))}
    (hcount : ∀ listeners ∈ polls, listeners.length = count) :
    polls.countP someReady = (polls.map polling).countP (answered count) := by
  rw [List.countP_map]
  refine List.countP_congr fun listeners hmem => ?_
  rw [someReady_eq, hcount listeners hmem]
  rfl

/-- A listener that is ready whenever one is has been accepted from, once there
were as many turns as there are listeners. -/
theorem mem_acceptPolls {count next i : Nat} (hnext : next < count) (hi : i < count)
    {polls : List (List (Option Accepted))}
    (hcount : ∀ listeners ∈ polls, listeners.length = count)
    (hturns : count ≤ polls.countP someReady)
    (hready : ∀ listeners ∈ polls, someReady listeners = true → listenerReady listeners i = true) :
    ∃ accepted, (i, accepted) ∈ (acceptPolls polls next).1 := by
  rw [acceptPolls_eq_turns hcount]
  refine mem_turns hnext hi ?_ ?_
  · intro poll hpoll hanswered
    obtain ⟨listeners, hmem, rfl⟩ := List.mem_map.mp hpoll
    rw [← hcount listeners hmem, ← someReady_eq] at hanswered
    exact hready listeners hmem hanswered
  · rw [length_turns hnext, ← countP_someReady hcount]
    exact Nat.lt_of_lt_of_le (ahead_lt hnext hi) hturns

/-- **The listeners take turns.** For any number of listeners, any `next` below
it and any polls, with the listeners ready or not at each: every poll that finds
one ready returns one; once as many polls as there are listeners have, each
listener that was ready at all of them was returned by one; `next` stays below;
and a poll that finds none ready leaves it. -/
theorem accept_any_takes_turns (count next : Nat) (hnext : next < count)
    (polls : List (List (Option Accepted)))
    (hcount : ∀ listeners ∈ polls, listeners.length = count) :
    (acceptPolls polls next).1.length = polls.countP someReady ∧
    (count ≤ polls.countP someReady → ∀ i < count,
      (∀ listeners ∈ polls, someReady listeners = true → listenerReady listeners i = true) →
        ∃ accepted, (i, accepted) ∈ (acceptPolls polls next).1) ∧
    (acceptPolls polls next).2 < count ∧
    ∀ listeners, listeners.length = count → someReady listeners = false →
      pollAccept listeners next = (none, next) := by
  refine ⟨?_, fun hturns i hi => mem_acceptPolls hnext hi hcount hturns, ?_, ?_⟩
  · rw [acceptPolls_eq_turns hcount, length_turns hnext, countP_someReady hcount]
  · rw [acceptPolls_eq_turns hcount]
    exact turns_next_lt hnext _
  · intro listeners hlen hnone
    have hnobody : acceptAny listeners next = none := by
      rw [acceptAny_eq_first, first_eq_none_iff (hlen ▸ hnext)]
      intro i hi
      by_contra hsome
      have hanswered : answered listeners.length (polling listeners) = true :=
        answered_iff.mpr ⟨i, hi, Option.isSome_iff_ne_none.mpr hsome⟩
      rw [← someReady_eq, hnone] at hanswered
      exact absurd hanswered (by simp)
    unfold pollAccept
    rw [hnobody]

/-- Three listeners, the first two always ready, the third in between; nothing
is ready at the second poll. -/
theorem accept_any_takes_turns_at :
    (∃ accepted, (1, accepted) ∈ (acceptPolls
      [[some .error, some .error, none], [none, none, none],
        [some .error, some .error, some .error], [some .error, some .error, none]] 2).1) ∧
      (acceptPolls
        [[some .error, some .error, none], [none, none, none],
          [some .error, some .error, some .error], [some .error, some .error, none]] 2).2 < 3 := by
  obtain ⟨-, hserved, hnext, -⟩ := accept_any_takes_turns 3 2 (by decide)
    [[some .error, some .error, none], [none, none, none],
      [some .error, some .error, some .error], [some .error, some .error, none]] (by decide)
  exact ⟨hserved (by decide) 1 (by decide) (by decide), hnext⟩

-- ---------------------------------------------------------------------------
-- The accept loop
-- ---------------------------------------------------------------------------

/-- The listeners as a poll that returned found them. -/
def ServerEvent.polled : ServerEvent → Option (List (Option Accepted))
  | .accept polled => some polled
  | _ => none

/-- Only an accept polls the listeners. -/
theorem ServerEvent.polled_eq_some_iff {event : ServerEvent} {polled : List (Option Accepted)} :
    event.polled = some polled ↔ event = .accept polled := by
  cases event <;> simp [ServerEvent.polled]

namespace Server

variable {config : RouterConfig} {listeners : Nat} {event : ServerEvent} {s s' : Server}

/-- A poll of the listeners moves `next` as `accept_any` does. -/
theorem step_accept {polled : List (Option Accepted)}
    (h : s.step config listeners (.accept polled) = some s') :
    polled.length = listeners ∧ ∃ index accepted,
      acceptAny polled s.loop.next = some (index, accepted) ∧
      s'.loop.next = (index + 1) % listeners := by
  unfold step at h
  split at h <;> try contradiction
  next hpolled _ =>
    injection hpolled with hpolled
    subst hpolled
    split_ifs at h with hpoll
    obtain ⟨⟨index, accepted⟩, hany, h⟩ := Option.bind_eq_some_iff.mp h
    change s.afterAccept config _ accepted = some s' at h
    refine ⟨hpoll.2, index, accepted, hany, ?_⟩
    unfold afterAccept at h
    cases accepted with
    | stream client =>
      obtain ⟨net, -, rfl⟩ := Option.map_eq_some_iff.mp h
      rfl
    | error =>
      cases h
      rfl

/-- Nothing else moves it. -/
theorem step_next (h : s.step config listeners event = some s') (hevent : event.polled = none) :
    s'.loop.next = s.loop.next := by
  unfold step at h
  split at h
  -- the events of a connection
  case h_1 | h_2 =>
    obtain ⟨net, -, rfl⟩ := Option.map_eq_some_iff.mp h
    rfl
  case h_8 => exact absurd hevent (by simp [ServerEvent.polled])
  -- the end of `serve`
  case h_12 | h_13 =>
    split_ifs at h
    obtain ⟨net, -, rfl⟩ := Option.map_eq_some_iff.mp h
    rfl
  case h_15 => exact absurd h (by simp)
  all_goals
    try split_ifs at h
    all_goals
      cases h
      rfl

end Server

/-- The listeners as the polls of a run that returned found them. -/
def polledIn (es : List ServerEvent) : List (List (Option Accepted)) :=
  es.filterMap ServerEvent.polled

/-- Over a run `next` goes where the polls take it, and every one of them found a
listener ready. -/
theorem run_polls {config : RouterConfig} {listeners : Nat} {es : List ServerEvent}
    {s s' : Server} (h : (serverMachine config listeners).run es s = some s') :
    (∀ polled ∈ polledIn es, polled.length = listeners) ∧
      (acceptPolls (polledIn es) s.loop.next).1.length = (polledIn es).length ∧
      s'.loop.next = (acceptPolls (polledIn es) s.loop.next).2 := by
  induction es generalizing s with
  | nil =>
    cases h
    exact ⟨fun _ hmem => absurd hmem (by simp [polledIn]), rfl, rfl⟩
  | cons event es ih =>
    obtain ⟨s₁, hstep, hrun⟩ := ((serverMachine config listeners).run_cons).mp h
    obtain ⟨hcount, hlen, hnext⟩ := ih hrun
    cases hevent : event.polled with
    | none =>
      have hpolls : polledIn (event :: es) = polledIn es := List.filterMap_cons_none hevent
      rw [Server.step_next hstep hevent] at hlen hnext
      rw [hpolls]
      exact ⟨hcount, hlen, hnext⟩
    | some polled =>
      have hpolls : polledIn (event :: es) = polled :: polledIn es :=
        List.filterMap_cons_some hevent
      obtain rfl := ServerEvent.polled_eq_some_iff.mp hevent
      obtain ⟨hpolled, index, accepted, hany, hmoved⟩ := Server.step_accept hstep
      have hpoll : pollAccept polled s.loop.next = (some (index, accepted), s₁.loop.next) := by
        unfold pollAccept
        rw [hany, hmoved, hpolled]
      rw [hpolls, acceptPolls, hpoll]
      refine ⟨?_, ?_, hnext⟩
      · intro polled' hmem
        rcases List.mem_cons.mp hmem with rfl | hmem
        · exact hpolled
        · exact hcount polled' hmem
      · show (acceptPolls (polledIn es) s₁.loop.next).1.length + 1 = _
        rw [hlen, List.length_cons]

/-- Over every run of `serve`, from any moment on: as many accepts as there are
listeners include one from each listener that was ready at all of them. -/
theorem serve_takes_turns {config : RouterConfig} {listeners i : Nat} {es : List ServerEvent}
    {s s' : Server} (hs : (serverMachine config listeners).Reachable s)
    (hrun : (serverMachine config listeners).run es s = some s') (hi : i < listeners)
    (hturns : listeners ≤ (polledIn es).length)
    (hready : ∀ polled ∈ polledIn es, listenerReady polled i = true) :
    ∃ accepted, (i, accepted) ∈ (acceptPolls (polledIn es) s.loop.next).1 := by
  obtain ⟨s₀, before, hinit, hbefore⟩ := hs
  have hnext : s.loop.next < listeners := by
    obtain ⟨hcount, -, hmoved⟩ := run_polls hbefore
    rw [hmoved, acceptPolls_eq_turns hcount, show s₀ = .new config from hinit]
    exact turns_next_lt (Nat.zero_lt_of_lt hi) _
  obtain ⟨hcount, hlen, -⟩ := run_polls hrun
  refine mem_acceptPolls hnext hi hcount ?_ fun polled hmem _ => hready polled hmem
  rw [countP_someReady hcount, ← length_turns hnext, ← acceptPolls_eq_turns hcount, hlen]
  exact hturns

end SniRouter
