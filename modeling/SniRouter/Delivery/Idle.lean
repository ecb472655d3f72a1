import Mathlib
import SniRouter.Delivery.Connection
import SniRouter.Lib.Machine

/-!
# SniRouter — the idle watchdog

The proxy stage with a clock. A byte moves on the client socket or on the
upstream socket; only the first kind stamps the activity, and the watchdog
closes the connection an idle timeout after the last stamp.

* `IdleWatch.poll` — `idle_expired`.
* `ProxyStage.step` — the select of `proxy`, at an instant.
* `ProxyStage.Kept` — the activity is the last stamp, and only its deadline
  closes the connection.
* `idle_close_silent_iff` — when nothing had moved for the idle timeout.
-/

namespace SniRouter

open Framing

-- ---------------------------------------------------------------------------
-- Activity
-- ---------------------------------------------------------------------------

/-- The last time any byte moved, as milliseconds since the connection
started. -/
structure Activity where
  start      : Nat
  lastMillis : Nat

/-- The milliseconds from `start` to an instant, in a `u64`. -/
def millisSince (start instant : Nat) : Nat :=
  min ((instant - start) / nanosPerMilli) (2 ^ 64 - 1)

namespace Activity

/-- `Activity::new`. -/
def new (start : Nat) : Activity := ⟨start, 0⟩

/-- Marks `now` as the last activity. -/
def touch (now : Nat) (activity : Activity) : Activity :=
  { activity with lastMillis := millisSince activity.start now }

/-- `Activity::last`. -/
def last (activity : Activity) : Nat :=
  activity.start + nanosPerMilli * activity.lastMillis

end Activity

-- ---------------------------------------------------------------------------
-- The watchdog
-- ---------------------------------------------------------------------------

/-- Where `idle_expired` is. -/
inductive IdleWatch where
  /-- Before a round of its loop. -/
  | looping
  | sleeping (deadline : Nat)
  /-- It never resolves. -/
  | pending
  | expired
deriving DecidableEq

namespace IdleWatch

/-- A round of the loop. -/
def round (activity : Activity) (idleTimeout now : Nat) : IdleWatch :=
  match checkedAdd activity.last idleTimeout with
  | none => .pending
  | some deadline => if now ≥ deadline then .expired else .sleeping deadline

/-- One poll; `elapsed` when the sleep is over. -/
def poll (activity : Option Activity) (idleTimeout : Option Nat) (now : Nat) (elapsed : Bool)
    (watch : IdleWatch) : IdleWatch :=
  match activity, idleTimeout with
  | some activity, some idleTimeout =>
    match watch with
    | .looping => round activity idleTimeout now
    | .sleeping deadline => if elapsed then round activity idleTimeout now else .sleeping deadline
    | .pending => .pending
    | .expired => .expired
  | _, _ => .pending

/-- A sleep is over at its deadline at the earliest. -/
def mayElapse (now : Nat) : IdleWatch → Bool
  | .sleeping deadline => decide (deadline ≤ now)
  | _ => false

end IdleWatch

-- ---------------------------------------------------------------------------
-- The proxy stage
-- ---------------------------------------------------------------------------

/-- The two sides of a proxied connection. -/
inductive Side where
  | client
  | upstream
deriving DecidableEq

/-- Bytes moved on a socket. -/
structure Move where
  time : Nat
  side : Side
deriving DecidableEq

/-- The socket on which an event of the copy moves a byte. -/
def CopyEvent.side : CopyEvent → Option Side
  | .readClient n => if n > 0 then some .client else none
  | .writeUpstream n => if n > 0 then some .upstream else none
  | .readUpstream data => if data.length > 0 then some .upstream else none
  | .writeClient n => if n > 0 then some .client else none
  | .finishToUpstream | .finishToClient => none

/-- The callbacks that `copy_bidirectional` of the splice path hands to its
directions: those of the upstream socket do nothing. -/
def spliceTouches : CopyEvent → Bool
  | .readClient read => read > 0
  | .writeClient written => written > 0
  | _ => false

/-- `poll_read` and `poll_write` of `MeteredStream`, which wraps the client
alone. -/
def meteredTouches : CopyEvent → Bool
  | .readClient read => read > 0
  | .writeClient written => written > 0
  | _ => false

/-- Does an event stamp the activity? -/
def Copy.touches (copy : Copy) (event : CopyEvent) : Bool :=
  if copy.draining then spliceTouches event else meteredTouches event

/-- How the proxying ended. -/
inductive ProxyEnd where
  | finished
  | error
  | idle
  | forced
deriving DecidableEq

/-- What happens in `proxy`. -/
inductive ProxyEvent where
  | force
  /-- `idle_expired` is polled. -/
  | poll (elapsed : Bool)
  | copied (event : CopyEvent)
  | finished
  | error

/-- The proxying stage with its clock, its activity stamp and its idle watch. -/
structure ProxyStage where
  now      : Nat
  activity : Option Activity
  watch    : IdleWatch
  copy     : Copy
  sockets  : Sockets
  ended    : Option ProxyEnd
  /-- Ghost: every movement of bytes so far. -/
  moves    : List Move

namespace ProxyStage

/-- The stage at its first instant, whatever was stamped before. -/
def start (activity : Option Activity) (began : Nat) (copy : Copy) (sockets : Sockets) :
    ProxyStage :=
  ⟨began, activity.map (.touch began), .looping, copy, sockets, none, []⟩

/-- The proxying ends. -/
def finish (ended : ProxyEnd) (stage : ProxyStage) : ProxyStage :=
  { stage with ended := some ended }

/-- The copy makes a system call. -/
def copied (event : CopyEvent) (stage : ProxyStage) : Option ProxyStage :=
  (stage.copy.step event stage.sockets).map fun (copy, sockets) =>
    { stage with
      copy := copy
      sockets := sockets
      activity :=
        if stage.copy.touches event then stage.activity.map (.touch stage.now) else stage.activity
      moves := stage.moves ++ (event.side.map (⟨stage.now, ·⟩)).toList }

/-- `idle_expired` is polled. -/
def poll (idleTimeout : Option Nat) (elapsed : Bool) (stage : ProxyStage) : ProxyStage :=
  let watch := stage.watch.poll stage.activity idleTimeout stage.now elapsed
  { stage with watch := watch, ended := if watch = .expired then some .idle else none }

/-- One event at an instant; the clock never goes back. -/
def step (idleTimeout : Option Nat) (event : Nat × ProxyEvent) (stage : ProxyStage) :
    Option ProxyStage :=
  if stage.ended = none ∧ stage.now ≤ event.1 then
    let stage := { stage with now := event.1 }
    match event.2 with
    | .force => some (stage.finish .forced)
    | .poll elapsed =>
      if elapsed = true → stage.watch.mayElapse stage.now = true then
        some (stage.poll idleTimeout elapsed)
      else none
    | .copied event => stage.copied event
    | .finished => if stage.copy.finished then some (stage.finish .finished) else none
    | .error => some (stage.finish .error)
  else none

/-- All that one event can do; the stage goes on until the first end. -/
inductive Stepped (idleTimeout : Option Nat) (stage : ProxyStage) (now : Nat) :
    ProxyEvent → ProxyStage → Prop where
  | force : Stepped idleTimeout stage now .force (finish .forced { stage with now := now })
  | polled (elapsed : Bool) :
      Stepped idleTimeout stage now (.poll elapsed)
        (poll idleTimeout elapsed { stage with now := now })
  | copied {event : CopyEvent} {stage' : ProxyStage}
      (hcopied : ProxyStage.copied event { stage with now := now } = some stage') :
      Stepped idleTimeout stage now (.copied event) stage'
  | finished (hfinished : stage.copy.finished = true) :
      Stepped idleTimeout stage now .finished (finish .finished { stage with now := now })
  | error : Stepped idleTimeout stage now .error (finish .error { stage with now := now })

/-- An event that happens, case by case. -/
theorem step_cases {idleTimeout : Option Nat} {event : Nat × ProxyEvent}
    {stage stage' : ProxyStage} (h : stage.step idleTimeout event = some stage') :
    stage.ended = none ∧ stage.now ≤ event.1 ∧
      Stepped idleTimeout stage event.1 event.2 stage' := by
  obtain ⟨now, event⟩ := event
  unfold step at h
  split_ifs at h with hmay
  refine ⟨hmay.1, hmay.2, ?_⟩
  cases event with
  | force =>
    injection h with h
    exact h ▸ .force
  | poll elapsed =>
    dsimp only at h
    split_ifs at h
    injection h with h
    exact h ▸ .polled elapsed
  | copied event => exact .copied h
  | finished =>
    dsimp only at h
    split_ifs at h with hfinished
    injection h with h
    exact h ▸ .finished hfinished
  | error =>
    injection h with h
    exact h ▸ .error

end ProxyStage

/-- The proxy stage of a connection that started at `start` and is proxied from
`began` on, over one of the two mechanisms of the copy. -/
def proxyMachine (start began : Nat) (idleTimeout : Option Nat) (copy : Copy) (sockets : Sockets) :
    Machine ProxyStage (Nat × ProxyEvent) where
  init stage :=
    stage = .start (idleTimeout.map fun _ => .new start) began copy sockets
  step := ProxyStage.step idleTimeout

-- ---------------------------------------------------------------------------
-- What the activity knows
-- ---------------------------------------------------------------------------

/-- The instants that stamp the activity: the start of proxying and every
movement on the client socket. -/
def stamps (began : Nat) (moves : List Move) : List Nat :=
  began :: (moves.filter (·.side = .client)).map Move.time

/-- Both mechanisms stamp what moves on the client socket, and nothing else. -/
theorem Copy.touches_iff {copy : Copy} {event : CopyEvent} :
    copy.touches event = true ↔ event.side = some .client := by
  unfold touches
  split_ifs <;> cases event <;>
    simp [spliceTouches, meteredTouches, CopyEvent.side, Nat.pos_iff_ne_zero]

theorem millisSince_mono (start : Nat) {a b : Nat} (h : a ≤ b) :
    millisSince start a ≤ millisSince start b := by
  have hdiv : (a - start) / nanosPerMilli ≤ (b - start) / nanosPerMilli :=
    Nat.div_le_div_right (by omega)
  unfold millisSince
  omega

/-- The activity is the last of the stamps `times`, all in the past. -/
structure Activity.Last (activity : Activity) (start now : Nat) (times : List Nat) : Prop where
  start_eq : activity.start = start
  attained : ∃ c ∈ times, activity.lastMillis = millisSince start c
  latest   : ∀ c ∈ times, millisSince start c ≤ activity.lastMillis
  past     : ∀ c ∈ times, c ≤ now

/-- The last stamp stays the last. -/
theorem Activity.Last.later {activity : Activity} {start now now' : Nat} {times : List Nat}
    (h : activity.Last start now times) (hnow : now ≤ now') : activity.Last start now' times :=
  ⟨h.start_eq, h.attained, h.latest, fun c hc => Nat.le_trans (h.past c hc) hnow⟩

/-- A new stamp is the last one. -/
theorem Activity.Last.touch {activity : Activity} {start now : Nat} {times : List Nat}
    (h : activity.Last start now times) : (activity.touch now).Last start now (times ++ [now]) where
  start_eq := h.start_eq
  attained := ⟨now, by simp, congrArg (millisSince · now) h.start_eq⟩
  latest := by
    intro c hc
    show millisSince start c ≤ millisSince activity.start now
    rw [h.start_eq]
    refine millisSince_mono start ?_
    rcases List.mem_append.mp hc with hc | hc
    · exact h.past c hc
    · rw [List.mem_singleton.mp hc]
  past := by
    intro c hc
    rcases List.mem_append.mp hc with hc | hc
    · exact h.past c hc
    · rw [List.mem_singleton.mp hc]

theorem stamps_append (began : Nat) (moves : List Move) (move : Move) :
    stamps began (moves ++ [move]) =
      stamps began moves ++ if move.side = .client then [move.time] else [] := by
  unfold stamps
  rw [List.filter_append, List.map_append, List.cons_append]
  congr 2
  by_cases hside : move.side = .client <;> simp [hside]

namespace ProxyStage

/-- The deadline of an activity has been reached. -/
def Expired (activity : Activity) (idleTimeout : Option Nat) (now : Nat) : Prop :=
  ∃ idle, idleTimeout = some idle ∧ activity.last + idle ≤ now ∧ activity.last + idle ≤ maxInstant

/-- The activity, where there is an idle timeout, is the last stamp, and
nothing but its deadline closes the connection as idle. -/
structure Kept (start began : Nat) (idleTimeout : Option Nat) (stage : ProxyStage) : Prop where
  watched : stage.activity.isSome = idleTimeout.isSome
  last    : ∀ activity, stage.activity = some activity →
    activity.Last start stage.now (stamps began stage.moves)
  going   : stage.ended = none → stage.watch ≠ .expired
  expired : stage.ended = some .idle → ∃ activity, stage.activity = some activity ∧
    Expired activity idleTimeout stage.now

variable {start began : Nat} {idleTimeout : Option Nat} {stage stage' : ProxyStage}

theorem kept_start (start began : Nat) (idleTimeout : Option Nat) (copy : Copy)
    (sockets : Sockets) :
    (ProxyStage.start (idleTimeout.map fun _ => .new start) began copy sockets).Kept start began
      idleTimeout where
  watched := by
    cases idleTimeout <;> rfl
  last := by
    intro activity hactivity
    cases idleTimeout with
    | none => exact absurd hactivity (by simp [ProxyStage.start])
    | some idle =>
      injection hactivity with hactivity
      subst hactivity
      refine ⟨rfl, ⟨began, List.mem_singleton_self _, rfl⟩, ?_, ?_⟩
      · intro c hc
        rw [List.mem_singleton.mp hc]
        exact Nat.le_refl _
      · intro c hc
        rw [List.mem_singleton.mp hc]
        exact Nat.le_refl _
  going := by
    intro _
    exact IdleWatch.noConfusion
  expired := by
    intro hended
    exact absurd hended (by simp [ProxyStage.start])

/-- The clock moves on. -/
theorem Kept.later (h : stage.Kept start began idleTimeout) (hgoing : stage.ended = none)
    {now : Nat} (hnow : stage.now ≤ now) :
    Kept start began idleTimeout { stage with now := now } where
  watched := h.watched
  last := fun activity hactivity => (h.last activity hactivity).later hnow
  going := h.going
  expired := by
    intro hended
    exact absurd (hgoing.symm.trans hended) (by simp)

/-- An end that is not idle. -/
theorem Kept.finish (h : stage.Kept start began idleTimeout) {ended : ProxyEnd}
    (hended : ended ≠ .idle) : (stage.finish ended).Kept start began idleTimeout where
  watched := h.watched
  last := h.last
  going := by
    intro hnone
    exact absurd hnone (by simp [ProxyStage.finish])
  expired := by
    intro hidle
    injection hidle with hidle
    exact absurd hidle hended

/-- A system call of the copy, with the stamp it leaves. -/
theorem Kept.copied (h : stage.Kept start began idleTimeout) (hgoing : stage.ended = none)
    {event : CopyEvent} (hstep : stage.copied event = some stage') :
    stage'.Kept start began idleTimeout := by
  obtain ⟨⟨copy, sockets⟩, -, rfl⟩ := Option.map_eq_some_iff.mp hstep
  refine ⟨?_, ?_, h.going, ?_⟩
  · show (if stage.copy.touches event then stage.activity.map (.touch stage.now)
      else stage.activity).isSome = _
    rw [← h.watched]
    split_ifs
    · exact Option.isSome_map
    · rfl
  · intro activity hactivity
    dsimp only at hactivity ⊢
    by_cases htouch : stage.copy.touches event = true
    · -- a byte moved on the client socket
      rw [if_pos htouch] at hactivity
      obtain ⟨before, hbefore, rfl⟩ := Option.map_eq_some_iff.mp hactivity
      rw [Copy.touches_iff.mp htouch]
      show (before.touch stage.now).Last _ _ (stamps began (stage.moves ++ [⟨stage.now, .client⟩]))
      rw [stamps_append, if_pos rfl]
      exact (h.last before hbefore).touch
    · -- nothing moved, or a byte on the upstream socket
      rw [if_neg htouch] at hactivity
      have hlast := h.last activity hactivity
      cases hside : event.side with
      | none =>
        show activity.Last _ _ (stamps began (stage.moves ++ []))
        rw [List.append_nil]
        exact hlast
      | some side =>
        have hupstream : ¬ side = .client := by
          intro hclient
          exact htouch (Copy.touches_iff.mpr (hclient ▸ hside))
        show activity.Last _ _ (stamps began (stage.moves ++ [⟨stage.now, side⟩]))
        rw [stamps_append, if_neg hupstream, List.append_nil]
        exact hlast
  · intro hended
    exact absurd (hgoing.symm.trans hended) (by simp)

/-- The watch ends with a round that finds the deadline reached. -/
theorem expired_of_poll {activity : Option Activity} {now : Nat} {elapsed : Bool}
    {watch : IdleWatch} (hgoing : watch ≠ .expired)
    (h : watch.poll activity idleTimeout now elapsed = .expired) :
    ∃ a, activity = some a ∧ Expired a idleTimeout now := by
  have hround : ∀ (a : Activity) (idle : Nat), IdleWatch.round a idle now = .expired →
      a.last + idle ≤ now ∧ a.last + idle ≤ maxInstant := by
    intro a idle hexpired
    unfold IdleWatch.round at hexpired
    cases hadd : checkedAdd a.last idle with
    | none =>
      rw [hadd] at hexpired
      exact absurd hexpired (by simp)
    | some deadline =>
      obtain ⟨rfl, hle⟩ := checkedAdd_eq_some_iff.mp hadd
      rw [hadd] at hexpired
      dsimp only at hexpired
      split_ifs at hexpired with hnow
      exact ⟨hnow, hle⟩
  unfold IdleWatch.poll at h
  split at h
  · next a idle =>
    split at h
    · exact ⟨a, rfl, idle, rfl, hround a idle h⟩
    · split_ifs at h
      exact ⟨a, rfl, idle, rfl, hround a idle h⟩
    · exact absurd h (by simp)
    · exact absurd rfl hgoing
  · exact absurd h (by simp)

/-- A poll of the watchdog. -/
theorem Kept.poll (h : stage.Kept start began idleTimeout) (hgoing : stage.ended = none)
    (elapsed : Bool) : (stage.poll idleTimeout elapsed).Kept start began idleTimeout where
  watched := h.watched
  last := h.last
  going := by
    intro hnone hexpired
    have hended : (stage.poll idleTimeout elapsed).ended = some .idle := if_pos hexpired
    exact absurd (hnone.symm.trans hended) (by simp)
  expired := by
    intro hended
    have hexpired : stage.watch.poll stage.activity idleTimeout stage.now elapsed = .expired := by
      by_contra hnot
      exact absurd ((if_neg hnot).symm.trans hended) (by simp)
    exact expired_of_poll (h.going hgoing) hexpired

/-- One event keeps the books of the watchdog. -/
theorem step_kept {event : Nat × ProxyEvent} (h : stage.Kept start began idleTimeout)
    (hstep : stage.step idleTimeout event = some stage') :
    stage'.Kept start began idleTimeout := by
  obtain ⟨hgoing, hnow, hstep⟩ := step_cases hstep
  have hlater := h.later hgoing hnow
  generalize event.2 = what at hstep
  cases hstep with
  | force | finished | error => exact hlater.finish (by decide)
  | polled elapsed => exact hlater.poll hgoing elapsed
  | copied hcopied => exact hlater.copied hgoing hcopied

end ProxyStage

/-- Over every run. -/
theorem kept {start began : Nat} {idleTimeout : Option Nat} {copy : Copy} {sockets : Sockets}
    {stage : ProxyStage} (h : (proxyMachine start began idleTimeout copy sockets).Reachable stage) :
    stage.Kept start began idleTimeout :=
  h.invariant (fun hinit => hinit ▸ ProxyStage.kept_start start began idleTimeout copy sockets)
    ProxyStage.step_kept

-- ---------------------------------------------------------------------------
-- What had moved when the watchdog closes
-- ---------------------------------------------------------------------------

/-- Proxying began at least `idle` before `now`, and up to the resolution of the
stamp no byte has moved on either socket since. -/
structure Silent (idle now began : Nat) (moves : List Move) : Prop where
  began_le : began + idle ≤ now
  moves_lt : ∀ move ∈ moves, move.time + idle < now + nanosPerMilli

/-- The last byte moved on the client socket: no byte moves on the upstream
socket in a later millisecond than the last stamp. Proxying began with a
millisecond, or a stamp follows in a later one. -/
structure LastOnClient (start began : Nat) (moves : List Move) : Prop where
  began_le : ∃ c ∈ stamps began moves, began ≤ start + nanosPerMilli * millisSince start c
  moves_le : ∀ move ∈ moves, ∃ c ∈ stamps began moves,
    (move.time - start) / nanosPerMilli ≤ millisSince start c

instance {idle now began : Nat} {moves : List Move} : Decidable (Silent idle now began moves) :=
  decidable_of_iff (began + idle ≤ now ∧ ∀ move ∈ moves, move.time + idle < now + nanosPerMilli)
    ⟨fun h => ⟨h.1, h.2⟩, fun h => ⟨h.1, h.2⟩⟩

instance {start began : Nat} {moves : List Move} : Decidable (LastOnClient start began moves) :=
  decidable_of_iff ((∃ c ∈ stamps began moves,
      began ≤ start + nanosPerMilli * millisSince start c) ∧
    ∀ move ∈ moves, ∃ c ∈ stamps began moves,
      (move.time - start) / nanosPerMilli ≤ millisSince start c)
    ⟨fun h => ⟨h.1, h.2⟩, fun h => ⟨h.1, h.2⟩⟩

/-- An instant is in the millisecond of a stamp, or before. -/
theorem millis_le_iff {start instant stamp : Nat} :
    (instant - start) / nanosPerMilli ≤ stamp ↔
      instant < start + nanosPerMilli * stamp + nanosPerMilli := by
  unfold nanosPerMilli
  omega

/-- Behind a stamp that nothing follows, an idle timeout is silence. -/
theorem Silent.of_stamp {start began idle now stamp : Nat} {moves : List Move}
    (hnow : start + nanosPerMilli * stamp + idle ≤ now)
    (hbegan : began ≤ start + nanosPerMilli * stamp)
    (hmoves : ∀ move ∈ moves, (move.time - start) / nanosPerMilli ≤ stamp) :
    Silent idle now began moves where
  began_le := by omega
  moves_lt := by
    intro move hmove
    have hlt := millis_le_iff.mp (hmoves move hmove)
    omega

/-- A close exactly at the deadline of a stamp is silent only where nothing
follows the stamp. -/
theorem LastOnClient.of_silent {start began idle now c : Nat} {moves : List Move}
    (hc : c ∈ stamps began moves)
    (hnow : now = start + nanosPerMilli * millisSince start c + idle)
    (h : Silent idle now began moves) : LastOnClient start began moves where
  began_le := by
    have hbegan := h.began_le
    exact ⟨c, hc, by omega⟩
  moves_le := by
    intro move hmove
    have hlt := h.moves_lt move hmove
    exact ⟨c, hc, millis_le_iff.mpr (by omega)⟩

/-- **The watchdog closes after silence where the last byte moved on the client
socket.** In every run that the watchdog closes at `stage.now`, over either
copy: if no byte moved on the upstream socket in a later millisecond than the
last on the client socket, then proxying began an idle timeout before and
nothing has moved since. A close on the deadline is after silence in no other
case. A deadline that cannot be represented never closes. -/
theorem idle_close_silent_iff (start began : Nat) (idleTimeout : Option Nat) (copy : Copy)
    (sockets : Sockets) (stage : ProxyStage)
    (h : (proxyMachine start began idleTimeout copy sockets).Reachable stage)
    (hidle : stage.ended = some .idle) :
    ∃ idle, idleTimeout = some idle ∧
      (LastOnClient start began stage.moves → Silent idle stage.now began stage.moves) ∧
      ((∃ c ∈ stamps began stage.moves,
          stage.now = start + nanosPerMilli * millisSince start c + idle) →
        (Silent idle stage.now began stage.moves ↔ LastOnClient start began stage.moves)) ∧
      ∀ c ∈ stamps began stage.moves,
        start + nanosPerMilli * millisSince start c + idle ≤ maxInstant := by
  have hkept := kept h
  obtain ⟨activity, hactivity, idle, htimeout, hnow, hmax⟩ := hkept.expired hidle
  have hlast := hkept.last activity hactivity
  unfold Activity.last at hnow hmax
  rw [hlast.start_eq] at hnow hmax
  have hlatest : ∀ c ∈ stamps began stage.moves, start + nanosPerMilli * millisSince start c ≤
      start + nanosPerMilli * activity.lastMillis := by
    intro c hc
    exact Nat.add_le_add_left (Nat.mul_le_mul_left _ (hlast.latest c hc)) _
  have hsilent : LastOnClient start began stage.moves →
      Silent idle stage.now began stage.moves := by
    intro hclient
    obtain ⟨c, hc, hbegan⟩ := hclient.began_le
    refine .of_stamp hnow (Nat.le_trans hbegan (hlatest c hc)) ?_
    intro move hmove
    obtain ⟨c, hc, hle⟩ := hclient.moves_le move hmove
    exact Nat.le_trans hle (hlast.latest c hc)
  refine ⟨idle, htimeout, hsilent, ?_, ?_⟩
  · rintro ⟨c, hc, hdeadline⟩
    exact ⟨.of_silent hc hdeadline, hsilent⟩
  · intro c hc
    exact Nat.le_trans (Nat.add_le_add_right (hlatest c hc) idle) hmax

/-- What moves on the client socket, and the start of proxying, is always an idle
timeout before the close, as long as its milliseconds fit a `u64`. -/
theorem idle_close_client_silent {start began : Nat} {idleTimeout : Option Nat} {copy : Copy}
    {sockets : Sockets} {stage : ProxyStage}
    (h : (proxyMachine start began idleTimeout copy sockets).Reachable stage)
    (hidle : stage.ended = some .idle) :
    ∃ idle, idleTimeout = some idle ∧ ∀ c ∈ stamps began stage.moves,
      (c - start) / nanosPerMilli < 2 ^ 64 → c + idle < stage.now + nanosPerMilli := by
  have hkept := kept h
  obtain ⟨activity, hactivity, idle, htimeout, hnow, -⟩ := hkept.expired hidle
  have hlast := hkept.last activity hactivity
  refine ⟨idle, htimeout, ?_⟩
  intro c hc hfits
  have hlatest := hlast.latest c hc
  have hmillis : (c - start) / nanosPerMilli ≤ activity.lastMillis := by
    unfold millisSince at hlatest
    omega
  have hlt := millis_le_iff.mp hmillis
  unfold Activity.last at hnow
  rw [hlast.start_eq] at hnow
  omega

/-- A client that sends three bytes, connected to a backend. -/
def threeBytes : Sockets :=
  (Sockets.accepted [1, 2, 3]).connect ⟨.ip (.v4 ⟨[10, 0, 0, 1]⟩), .https⟩
    ⟨.v4 ⟨[10, 0, 0, 1]⟩, .https⟩

/-- The client's bytes are read at once and forwarded after half a minute and
after a minute; the watchdog is polled in between. -/
def slowBackend : List (Nat × ProxyEvent) :=
  [(0, .poll false), (nanosPerSec, .copied (.readClient 3)),
    (30 * nanosPerSec, .copied (.writeUpstream 1)), (60 * nanosPerSec, .poll true),
    (60 * nanosPerSec + 500 * nanosPerMilli, .copied (.writeUpstream 1)),
    (61 * nanosPerSec, .poll true)]

/-- The bytes are passed on at once, and the close comes a minute later. -/
theorem idle_close_silent_iff_at : ∃ stage,
    (proxyMachine 0 0 (some (60 * nanosPerSec)) (.setup 4096 none) threeBytes).Reachable stage ∧
    stage.ended = some .idle ∧ Silent (60 * nanosPerSec) stage.now 0 stage.moves := by
  obtain ⟨stage, hrun, hstage⟩ : ∃ stage,
      (proxyMachine 0 0 (some (60 * nanosPerSec)) (.setup 4096 none) threeBytes).run
        [(0, .poll false), (nanosPerSec, .copied (.readClient 3)),
          (nanosPerSec, .copied (.writeUpstream 3)), (60 * nanosPerSec, .poll true),
          (61 * nanosPerSec, .poll true)]
        (.start (some (.new 0)) 0 (.setup 4096 none) threeBytes) = some stage ∧
      decide (stage.ended = some .idle ∧ LastOnClient 0 0 stage.moves) = true :=
    Option.map_eq_some_iff.mp (by decide +kernel)
  obtain ⟨hidle, hlast⟩ := of_decide_eq_true hstage
  have hreachable : (proxyMachine 0 0 (some (60 * nanosPerSec)) (.setup 4096 none)
      threeBytes).Reachable stage := ⟨_, _, rfl, hrun⟩
  obtain ⟨idle, htimeout, hsilent, -⟩ :=
    idle_close_silent_iff 0 0 (some (60 * nanosPerSec)) (.setup 4096 none) threeBytes stage
      hreachable hidle
  injection htimeout with htimeout
  subst htimeout
  exact ⟨stage, hreachable, hidle, hsilent hlast⟩

/-- The backend takes the bytes one by one: over either copy the watchdog closes
half a second after one of them was forwarded. -/
theorem idle_close_while_forwarding :
    (∃ stage, (proxyMachine 0 0 (some (60 * nanosPerSec)) (.setup 4096 (some (4096, 4096)))
        threeBytes).Reachable stage ∧
      stage.ended = some .idle ∧ ¬ Silent (60 * nanosPerSec) stage.now 0 stage.moves) ∧
    ∃ stage, (proxyMachine 0 0 (some (60 * nanosPerSec)) (.setup 4096 none)
        threeBytes).Reachable stage ∧
      stage.ended = some .idle ∧ ¬ Silent (60 * nanosPerSec) stage.now 0 stage.moves := by
  have hclose : ∀ copy : Copy,
      ((proxyMachine 0 0 (some (60 * nanosPerSec)) copy threeBytes).run slowBackend
        (.start (some (.new 0)) 0 copy threeBytes)).map (fun stage =>
          decide (stage.ended = some .idle ∧
            ¬ Silent (60 * nanosPerSec) stage.now 0 stage.moves)) = some true →
      ∃ stage, (proxyMachine 0 0 (some (60 * nanosPerSec)) copy threeBytes).Reachable stage ∧
        stage.ended = some .idle ∧ ¬ Silent (60 * nanosPerSec) stage.now 0 stage.moves := by
    intro copy hcopy
    obtain ⟨stage, hrun, hstage⟩ := Option.map_eq_some_iff.mp hcopy
    exact ⟨stage, ⟨_, _, rfl, hrun⟩, of_decide_eq_true hstage⟩
  exact ⟨hclose _ (by decide +kernel), hclose _ (by decide +kernel)⟩

-- ---------------------------------------------------------------------------
-- The stage of a connection
-- ---------------------------------------------------------------------------

/-- What `run` makes of the end of `proxy`, as work of the connection. -/
def ProxyEnd.work : ProxyEnd → Option (WorkEvent × ConnectionOutcome)
  | .finished => some (.finished, .proxied)
  | .error => some (.error, .proxyError)
  | .idle => some (.idle, .idleTimeout)
  | .forced => none

/-- Without its clock the stage is that of a connection: it ends the same way. -/
theorem ProxyStage.step_ended {config : RouterConfig} {c : Connection} {start began : Nat}
    {stage stage' : ProxyStage} {event : Nat × ProxyEvent}
    (hkept : stage'.Kept start began config.idleTimeout)
    (hstage : c.stage = .proxying (some stage.copy))
    (hstep : stage.step config.idleTimeout event = some stage') {ended : ProxyEnd}
    (hended : stage'.ended = some ended) {work : WorkEvent} {outcome : ConnectionOutcome}
    (hwork : ended.work = some (work, outcome)) :
    c.work config work = some (c.goto (.leaving (some outcome)), []) := by
  obtain ⟨hgoing, -, hstep⟩ := step_cases hstep
  generalize event.2 = what at hstep
  cases hstep with
  | force =>
    injection hended with hended
    subst hended
    exact absurd hwork (by simp [ProxyEnd.work])
  | finished hfinished =>
    injection hended with hended
    subst hended
    cases hwork
    unfold Connection.work
    rw [hstage]
    exact if_pos hfinished
  | error =>
    injection hended with hended
    subst hended
    cases hwork
    unfold Connection.work
    rw [hstage]
  | polled elapsed =>
    -- the watchdog only ends as idle, and only under a timeout
    have hidle : ended = .idle := by
      unfold poll at hended
      dsimp only at hended
      split_ifs at hended
      injection hended with hended
      exact hended.symm
    subst hidle
    obtain ⟨activity, hactivity, -⟩ := hkept.expired hended
    have hsome : config.idleTimeout.isSome = true := by
      rw [← hkept.watched, hactivity]
      rfl
    cases hwork
    unfold Connection.work
    rw [hstage]
    exact if_pos hsome
  | copied hcopied =>
    obtain ⟨p, -, rfl⟩ := Option.map_eq_some_iff.mp hcopied
    exact absurd (hgoing.symm.trans hended) (by simp)

/-- ... and its copy makes the same calls. -/
theorem ProxyStage.step_copied {config : RouterConfig} {c : Connection}
    {stage stage' : ProxyStage} {now : Nat} {event : CopyEvent}
    (hstage : c.stage = .proxying (some stage.copy)) (hsockets : c.sockets = stage.sockets)
    (hstep : stage.step config.idleTimeout (now, .copied event) = some stage') :
    c.work config (.copy event) =
      some ({ c with stage := .proxying (some stage'.copy), sockets := stage'.sockets }, []) := by
  obtain ⟨-, -, hstep⟩ := step_cases hstep
  cases hstep with
  | copied hcopied =>
    obtain ⟨⟨copy, sockets⟩, hcopy, rfl⟩ := Option.map_eq_some_iff.mp hcopied
    unfold Connection.work
    rw [hstage, hsockets]
    exact Option.map_eq_some_iff.mpr ⟨(copy, sockets), hcopy, rfl⟩

end SniRouter
