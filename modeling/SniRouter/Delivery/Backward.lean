import SniRouter.Delivery.Forwarding

/-!
# SniRouter — what the client hears

The way back. The connections with a tap on both of its ends: what was read
from the backend, and what was written to the client.

* `Connection.tap` — what an event reads and writes there.
* `tapped_run` — every run of the connections is one with taps.
* `Connection.Hears` — what the taps have seen, stage by stage.
* `client_hears_backend` — over every run.
-/

namespace SniRouter

open Framing Table

-- ---------------------------------------------------------------------------
-- Taps
-- ---------------------------------------------------------------------------

/-- Ghost: the bytes at the two ends of the way back. -/
structure Tap where
  /-- Read from the backend. -/
  heard : Bytes
  /-- Written to the client. -/
  told  : Bytes

/-- Nothing heard and nothing told. -/
def Tap.new : Tap := ⟨[], []⟩

/-- What an event adds to the tap of its connection. -/
def Connection.tap (event : ConnectionEvent) (c : Connection) (tap : Tap) : Tap :=
  match event, c.stage with
  | .work (.alertWrite n), .alert _ unsent => { tap with told := tap.told ++ unsent.take n }
  | .work (.copy (.readUpstream data)), .proxying (some _) =>
    { tap with heard := tap.heard ++ data }
  | .work (.copy (.writeClient n)), .proxying (some copy) =>
    { tap with told := tap.told ++ copy.toClient.held.take n }
  | _, _ => tap

/-- The connections with a tap on what comes back to each client. -/
structure TappedNet where
  net  : Net
  /-- One for each connection. -/
  taps : List Tap

namespace TappedNet

/-- No connection yet. -/
def new : TappedNet := ⟨.new, []⟩

/-- The taps after an event. -/
def tapped (event : NetEvent) (s : TappedNet) : List Tap :=
  match event with
  | .accept _ => s.taps ++ [.new]
  | .conn i event =>
    match s.net.conns[i]?, s.taps[i]? with
    | some c, some tap => s.taps.set i (c.tap event tap)
    | _, _ => s.taps
  | .close | .force => s.taps

/-- An event, and what it adds to the taps. -/
def step (config : RouterConfig) (event : NetEvent) (s : TappedNet) : Option TappedNet :=
  (s.net.step config event).map fun net => ⟨net, s.tapped event⟩

end TappedNet

/-- The tapped connections under any interleaving. -/
def tappedMachine (config : RouterConfig) : Machine TappedNet NetEvent where
  init s := s = .new
  step   := TappedNet.step config

/-- Taps change nothing. -/
theorem tapped_run {config : RouterConfig} {es : List NetEvent} {s : Net} (taps : List Tap)
    {s' : Net} (h : (netMachine config).run es s = some s') :
    ∃ taps', (tappedMachine config).run es ⟨s, taps⟩ = some ⟨s', taps'⟩ := by
  induction es generalizing s taps with
  | nil =>
    cases h
    exact ⟨taps, rfl⟩
  | cons e es ih =>
    obtain ⟨s₁, he, hes⟩ := ((netMachine config).run_cons).mp h
    obtain ⟨taps', hrun⟩ := ih (TappedNet.tapped e ⟨s, taps⟩) hes
    have hstep : (tappedMachine config).step e ⟨s, taps⟩ =
        some ⟨s₁, TappedNet.tapped e ⟨s, taps⟩⟩ := by
      show (s.step config e).map _ = _
      rw [show s.step config e = some s₁ from he]
      rfl
    exact ⟨taps', ((tappedMachine config).run_cons).mpr ⟨_, hstep, hrun⟩⟩

-- ---------------------------------------------------------------------------
-- One direction
-- ---------------------------------------------------------------------------

/-- What was read and not yet written is held; nothing is once the direction has
ended. -/
def CopyDirection.Passes (tap : Tap) (direction : CopyDirection) : Prop :=
  tap.told ++ direction.held = tap.heard ∧
    (direction.finished = true → direction.eof = true ∧ direction.held = [])

namespace CopyDirection.Passes

variable {tap : Tap} {direction : CopyDirection}

/-- What is read from the backend is heard. -/
theorem read (h : direction.Passes tap) (hopen : direction.eof = false) (data : Bytes) :
    (direction.read data).Passes { tap with heard := tap.heard ++ data } := by
  obtain ⟨hall, hended⟩ := h
  have hgoing : direction.finished = false := by
    by_contra hfinished
    rw [hopen] at hended
    exact absurd (hended (Bool.eq_true_of_not_eq_false hfinished)).1 (by decide)
  unfold CopyDirection.read
  split_ifs with hdata
  · refine ⟨?_, fun hfinished => absurd (hgoing.symm.trans hfinished) (by decide)⟩
    show tap.told ++ direction.held = tap.heard ++ data
    rw [hdata, List.append_nil, hall]
  · refine ⟨?_, fun hfinished => absurd (hgoing.symm.trans hfinished) (by decide)⟩
    show tap.told ++ (direction.held ++ data) = tap.heard ++ data
    rw [← List.append_assoc, hall]

/-- What is written to the client is told. -/
theorem write (h : direction.Passes tap) (n : Nat) :
    CopyDirection.Passes { tap with told := tap.told ++ direction.held.take n }
      { direction with held := direction.held.drop n } := by
  obtain ⟨hall, hended⟩ := h
  refine ⟨?_, fun hfinished => ⟨(hended hfinished).1, ?_⟩⟩
  · show tap.told ++ direction.held.take n ++ direction.held.drop n = tap.heard
    rw [List.append_assoc, List.take_append_drop, hall]
  · show direction.held.drop n = []
    rw [(hended hfinished).2, List.drop_nil]

end CopyDirection.Passes

/-- No step of a copy puts anything but what it heard on the way to the client. -/
theorem Copy.step_passes {event : CopyEvent} {copy copy' : Copy} {sockets sockets' : Sockets}
    {c : Connection} {tap : Tap} (h : copy.step event sockets = some (copy', sockets'))
    (hstage : c.stage = .proxying (some copy)) (hpasses : copy.toClient.Passes tap) :
    copy'.toClient.Passes (c.tap (.work (.copy event)) tap) := by
  unfold step at h
  unfold Connection.tap
  rw [hstage]
  cases event with
  | readUpstream data =>
    dsimp only at h
    split_ifs at h with hmay
    obtain ⟨rfl, rfl⟩ := Prod.mk.inj (Option.some.inj h)
    exact hpasses.read (CopyDirection.mayRead_iff.mp hmay).1.1 data
  | writeClient n =>
    dsimp only at h
    split_ifs at h with hmay
    obtain ⟨rfl, rfl⟩ := Prod.mk.inj (Option.some.inj h)
    exact hpasses.write n
  | finishToClient =>
    dsimp only at h
    split_ifs at h with hmay
    obtain ⟨rfl, rfl⟩ := Prod.mk.inj (Option.some.inj h)
    exact ⟨hpasses.1, fun _ => (CopyDirection.mayFinish_iff.mp hmay).1⟩
  | readClient | writeUpstream | finishToUpstream =>
    -- the other direction
    dsimp only at h
    split_ifs at h
    obtain ⟨rfl, rfl⟩ := Prod.mk.inj (Option.some.inj h)
    exact hpasses

-- ---------------------------------------------------------------------------
-- The whole connection
-- ---------------------------------------------------------------------------

/-- The outcomes of a connection whose client is sent an alert. -/
def ConnectionOutcome.rejects : ConnectionOutcome → Bool
  | .missingSni | .unknownHost => true
  | _ => false

namespace Connection

/-- The outcome tells why the client is sent the alert: it gave no name, or one
that is unknown. -/
def Rejects (c : Connection) (outcome : ConnectionOutcome) : Prop :=
  outcome.rejects = true ∧ (outcome = .missingSni ↔ c.sni = none)

/-- What the client of a connection that is over has heard: its backend, or the
alert and no stream was opened. -/
def Told (c : Connection) (tap : Tap) : Prop :=
  if c.proxied then
    tap.told <+: tap.heard ∧ (c.outcome = some .proxied → tap.told = tap.heard)
  else
    tap.heard = [] ∧ tap.told <+: unrecognizedNameAlert ∧
      (tap.told ≠ [] → c.sockets.upstreams = [] ∧ c.backend = none ∧
        ∀ o, c.outcome = some o → c.Rejects o)

/-- What the taps have seen, by stage. -/
def Hears (c : Connection) (tap : Tap) : Prop :=
  match c.stage with
  | .spawned | .hello _ => tap = .new ∧ c.sni = none ∧ c.backend = none
  | .lookup _ _ => tap = .new ∧ c.backend = none
  | .connect _ _ _ | .entering | .proxying none => tap = .new
  | .alert outcome unsent =>
    tap.heard = [] ∧ tap.told ++ unsent = unrecognizedNameAlert ∧ c.backend = none ∧
      c.Rejects outcome
  | .proxying (some copy) => copy.toClient.Passes tap
  | .leaving outcome =>
    tap.told <+: tap.heard ∧ (outcome = some .proxied → tap.told = tap.heard)
  | .returned | .closed | .released | .gone => c.Told tap

variable {config : RouterConfig} {gate gate' : ProxyGate} {force : Bool} {c c' : Connection}
  {tap : Tap}

theorem Told.new (c : Connection) : c.Told .new := by
  unfold Told
  split_ifs
  · exact ⟨List.prefix_refl _, fun _ => rfl⟩
  · exact ⟨rfl, List.nil_prefix, fun h => absurd rfl h⟩

/-- Before the proxying only an alert is told. -/
theorem Told.alert (hpass : c.proxied = false) (hheard : tap.heard = [])
    (htold : tap.told <+: unrecognizedNameAlert) (hnone : c.sockets.upstreams = [])
    (hbackend : c.backend = none) (houtcome : ∀ o, c.outcome = some o → c.Rejects o) :
    c.Told tap := by
  unfold Told
  rw [hpass, if_neg (by decide)]
  exact ⟨hheard, htold, fun _ => ⟨hnone, hbackend, houtcome⟩⟩

/-- The client of a connection that proxies hears its backend. -/
theorem Hears.proxying {copy : Option Copy} (h : c.Hears tap) (hstage : c.stage = .proxying copy) :
    tap.told <+: tap.heard := by
  unfold Hears at h
  cases copy with
  | none =>
    rw [hstage] at h
    subst h
    exact List.prefix_refl _
  | some copy =>
    rw [hstage] at h
    exact ⟨_, h.1⟩

/-- Where the client can still be sent an alert it has heard nothing else. -/
theorem Hears.alert {outcome : ConnectionOutcome} {unsent : Bytes} (hfaithful : c.Faithful config)
    (h : c.Hears tap) (hstage : c.stage = .alert outcome unsent) :
    c.proxied = false ∧ tap.heard = [] ∧ tap.told <+: unrecognizedNameAlert ∧
      c.sockets.upstreams = [] ∧ c.backend = none ∧ c.Rejects outcome := by
  have hcontrol := hfaithful.control
  have hcarries := hfaithful.carries
  unfold Control at hcontrol
  unfold Carries at hcarries
  unfold Hears at h
  rw [hstage] at hcontrol hcarries h
  exact ⟨hcontrol.1, h.1, ⟨unsent, h.2.1⟩, hcarries, h.2.2⟩

/-- Before the gate the client has heard nothing, or is being sent an alert. -/
theorem Hears.handshaking (h : c.Hears tap) (hstage : c.stage.handshaking = true) :
    tap = .new ∨ ∃ outcome unsent, c.stage = .alert outcome unsent := by
  unfold Hears at h
  cases hs : c.stage with
  | alert outcome unsent => exact .inr ⟨outcome, unsent, rfl⟩
  | hello _ | lookup _ _ =>
    rw [hs] at h
    exact .inl h.1
  | connect _ _ _ | entering =>
    rw [hs] at h
    exact .inl h
  | _ =>
    rw [hs] at hstage
    exact absurd hstage (by simp [Stage.handshaking])

/-- The work of a connection keeps what its client hears in order. -/
theorem Hears.worked {event : WorkEvent} {events : List MetricEvent} (hfaithful : c.Faithful config)
    (h : c.Hears tap) (hwork : Worked config c event c' events) :
    c'.Hears (c.tap (.work event) tap) := by
  have hhears := h
  have hcarries := hfaithful.carries
  unfold Hears at h
  unfold Carries at hcarries
  cases hwork with
  | read hstage | readError hstage | dialled hstage | connected hstage =>
    rw [hstage] at h
    exact h
  | named hstage =>
    rw [hstage] at h
    exact ⟨h.1, h.2.2⟩
  | routed hstage =>
    rw [hstage] at h
    exact h.1
  | noSni hstage =>
    rw [hstage] at h
    obtain ⟨rfl, hsni, hbackend⟩ := h
    exact ⟨rfl, rfl, hbackend, rfl, fun _ => hsni, fun _ => rfl⟩
  | notFound hstage =>
    rw [hstage] at h hcarries
    obtain ⟨rfl, hbackend⟩ := h
    have hsni : c.sni = some _ := hcarries.2.2
    exact ⟨rfl, rfl, hbackend, rfl, fun heq => absurd heq (by simp),
      fun hnone => absurd (hsni.symm.trans hnone) (by simp)⟩
  | rejected hstage | helloTimeout hstage | lookupFailed hstage =>
    rw [hstage] at h
    rw [h.1]
    exact Told.new _
  | dialFailed hstage | upstreamTimeout hstage =>
    rw [hstage] at h
    rw [show tap = .new from h]
    exact Told.new _
  | alertWrite hstage =>
    rw [hstage] at h
    obtain ⟨hheard, htold, houtcome⟩ := h
    unfold Connection.tap
    rw [hstage]
    refine ⟨hheard, ?_, houtcome⟩
    rw [List.append_assoc, List.take_append_drop, htold]
  | alertEnd hstage =>
    obtain ⟨hpass, hheard, htold, hnone, hbackend, hrejects⟩ := hhears.alert hfaithful hstage
    refine Told.alert hpass hheard htold hnone hbackend ?_
    intro o ho
    injection ho with ho
    exact ho ▸ hrejects
  | setup hstage copy hcopy =>
    rw [hstage] at h
    have hstart : copy.toClient = .start := by
      rw [hcopy]
      unfold Copy.setup
      split <;> rfl
    show copy.toClient.Passes tap
    rw [hstart, show tap = .new from h]
    exact ⟨rfl, fun hfinished => absurd hfinished (by decide)⟩
  | copied hstage hcopy =>
    rw [hstage] at h
    exact Copy.step_passes hcopy hstage h
  | idle hstage | error hstage =>
    exact ⟨hhears.proxying hstage, fun ho => absurd ho (by simp)⟩
  | finished hstage hfinished =>
    rw [hstage] at h
    obtain ⟨hall, hended⟩ := h
    have hempty := (hended (Bool.and_eq_true_iff.mp hfinished).2).2
    refine ⟨hhears.proxying hstage, fun _ => ?_⟩
    rw [hempty, List.append_nil] at hall
    exact hall

/-- Every event of the task keeps what the taps have seen in step with the
stage. -/
theorem Hears.step {event : ConnectionEvent} {events : List MetricEvent}
    (hfaithful : c.Faithful config) (h : c.Hears tap)
    (hstep : Stepped config gate force c event c' gate' events) : c'.Hears (c.tap event tap) := by
  have hhears := h
  have hcontrol := hfaithful.control
  unfold Hears at h
  unfold Control at hcontrol
  cases hstep with
  | checked | pending => exact hhears
  | work _ hwork => exact hhears.worked hfaithful hwork
  | start hstage | entered hstage | closeBooks hstage | releaseSlot hstage | exit hstage =>
    rw [hstage] at h
    exact h
  | cancelled _ hcancel =>
    rcases hhears.handshaking (Stage.handshaking_of_onCancel hcancel) with rfl | ⟨o, unsent, hstage⟩
    · exact Told.new _
    · obtain ⟨hpass, hheard, htold, hnone, hbackend, hrejects⟩ := hhears.alert hfaithful hstage
      rw [hstage] at hcancel
      injection hcancel with hcancel
      refine Told.alert hpass hheard htold hnone hbackend fun o' ho' => ?_
      injection ho' with ho'
      rw [← ho', ← hcancel]
      exact hrejects
  | abandoned hstage =>
    rcases hhears.handshaking hstage with rfl | ⟨o, unsent, halert⟩
    · exact Told.new _
    · obtain ⟨hpass, hheard, htold, hnone, hbackend, -⟩ := hhears.alert hfaithful halert
      refine Told.alert hpass hheard htold hnone hbackend fun o' ho' => ?_
      exact absurd ((hfaithful.control.handshaking hstage).2.symm.trans ho') (by simp)
  | refused hstage =>
    rw [hstage] at h
    rw [show tap = .new from h]
    exact Told.new _
  | neverPolled hstage =>
    rw [hstage] at h
    rw [h.1]
    exact Told.new _
  | forced _ hstage | torn hstage =>
    exact ⟨hhears.proxying hstage, fun ho => absurd ho (by simp)⟩
  | dropPass hstage =>
    rw [hstage] at h hcontrol
    show Told _ tap
    unfold Told
    rw [show c.proxied = true from hcontrol.1, if_pos rfl]
    exact h

/-- Connecting and replaying write nothing to the client. -/
theorem Dial.step_delivered {backend : Backend} {buffered : Bytes} {event : DialEvent}
    {dial : Dial} {dial' : Option Dial} {sockets sockets' : Sockets}
    (h : dial.step backend buffered event sockets = some (dial', sockets')) :
    sockets'.delivered = sockets.delivered := by
  unfold Dial.step at h
  split at h
  case h_5 =>
    split_ifs at h
    cases h
    rfl
  case h_7 => exact absurd h (by simp)
  all_goals
    cases h
    rfl

/-- The tap counts the bytes that the sockets count. -/
theorem Copy.tap_length {event : CopyEvent} {copy copy' : Copy} {sockets : Sockets}
    (hcopy : copy.step event c.sockets = some (copy', sockets))
    (hstage : c.stage = .proxying (some copy)) (h : tap.told.length = c.sockets.delivered) :
    (c.tap (.work (.copy event)) tap).told.length = sockets.delivered := by
  unfold Copy.step at hcopy
  unfold Connection.tap
  rw [hstage]
  cases event with
  | writeClient n =>
    dsimp only at hcopy
    split_ifs at hcopy with hmay
    obtain ⟨-, rfl⟩ := Prod.mk.inj (Option.some.inj hcopy)
    have hn := (CopyDirection.mayWrite_iff.mp hmay).2
    show (tap.told ++ copy.toClient.held.take n).length = c.sockets.delivered + n
    rw [List.length_append, List.length_take, h, Nat.min_eq_left hn]
  | _ =>
    dsimp only at hcopy
    split_ifs at hcopy
    obtain ⟨-, rfl⟩ := Prod.mk.inj (Option.some.inj hcopy)
    exact h

/-- Every byte written to the client is counted. -/
theorem tap_length {event : ConnectionEvent} {events : List MetricEvent}
    (h : tap.told.length = c.sockets.delivered)
    (hmove : c.step config gate force event = some (c', gate', events)) :
    (c.tap event tap).told.length = c'.sockets.delivered := by
  cases step_cases hmove with
  | work _ hwork =>
    have hdone := work_of_step hmove
    cases hwork with
    | copied hstage hcopy => exact Copy.tap_length hcopy hstage h
    | dialled _ hdial | dialFailed _ hdial => exact h.trans (Dial.step_delivered hdial).symm
    | @alertWrite outcome unsent n hstage =>
      simp only [work, hstage] at hdone
      split_ifs at hdone with hn
      unfold Connection.tap
      rw [hstage]
      show (tap.told ++ unsent.take n).length = c.sockets.delivered + n
      rw [List.length_append, List.length_take, h, Nat.min_eq_left hn.2]
    | _ => exact h
  | _ => exact h

end Connection

-- ---------------------------------------------------------------------------
-- Every run
-- ---------------------------------------------------------------------------

/-- What the taps of a connection have seen. -/
structure Connection.Tells (c : Connection) (tap : Tap) : Prop where
  /-- The client of a connection that proxies hears its backend only. -/
  backend : c.proxied = true → tap.told <+: tap.heard
  proxied : c.outcome = some .proxied → tap.told = tap.heard
  /-- Any other client hears at most the alert, and only where no stream was
  opened, no backend was found for it, and its name was missing or unknown. -/
  alert   : c.proxied = false → tap.heard = [] ∧ tap.told <+: unrecognizedNameAlert ∧
    (tap.told ≠ [] → c.sockets.upstreams = [] ∧ c.backend = none ∧
      ∀ o, c.decided = some o → c.Rejects o)

theorem Connection.Tells.new (c : Connection) : c.Tells .new where
  backend _ := List.prefix_refl _
  proxied _ := rfl
  alert _ := ⟨rfl, List.nil_prefix, fun h => absurd rfl h⟩

/-- What holds of a connection that is over holds of what it tells. -/
theorem Connection.Told.tells {c : Connection} {tap : Tap} (hcontrol : c.Control)
    (hover : c.stage.over = true) (h : c.Told tap) : c.Tells tap := by
  unfold Told at h
  cases hpass : c.proxied with
  | true =>
    rw [hpass, if_pos rfl] at h
    exact ⟨fun _ => h.1, h.2, fun hno => absurd (hpass.symm.trans hno) (by decide)⟩
  | false =>
    rw [hpass, if_neg (by decide)] at h
    refine ⟨fun hyes => absurd (hpass.symm.trans hyes) (by decide), fun ho => ?_, fun _ => ?_⟩
    · have hbefore := hcontrol.outcome ho
      rw [hpass, if_neg (by decide)] at hbefore
      exact absurd hbefore (by decide)
    · rw [decided_of_over hover]
      exact h

/-- What holds of a connection at work holds of what it tells. -/
theorem Connection.Hears.tells {config : RouterConfig} {c : Connection} {tap : Tap}
    (hfaithful : c.Faithful config) (h : c.Hears tap) : c.Tells tap := by
  have hhears := h
  have hcontrol := hfaithful.control
  unfold Hears at h
  unfold Control at hcontrol
  cases hstage : c.stage with
  | alert outcome unsent =>
    obtain ⟨hpass, hheard, htold, hnone, hbackend, hrejects⟩ := hhears.alert hfaithful hstage
    rw [hstage] at hcontrol
    refine ⟨fun hyes => absurd (hpass.symm.trans hyes) (by decide),
      fun ho => absurd (hcontrol.2.1.symm.trans ho) (by simp),
      fun _ => ⟨hheard, htold, fun _ => ⟨hnone, hbackend, fun o ho => ?_⟩⟩⟩
    rw [decided, hstage] at ho
    injection ho with ho
    exact ho ▸ hrejects
  | proxying copy =>
    rw [hstage] at hcontrol
    exact ⟨fun _ => hhears.proxying hstage,
      fun ho => absurd (hcontrol.2.symm.trans ho) (by simp),
      fun hno => absurd (hcontrol.1.symm.trans hno) (by decide)⟩
  | leaving outcome =>
    rw [hstage] at h hcontrol
    exact ⟨fun _ => h.1, fun ho => absurd (hcontrol.2.1.symm.trans ho) (by simp),
      fun hno => absurd (hcontrol.1.symm.trans hno) (by decide)⟩
  | returned | closed | released | gone =>
    rw [hstage] at h
    exact Told.tells hfaithful.control (by rw [hstage]; rfl) h
  | spawned | hello _ | lookup _ _ =>
    rw [hstage] at h
    rw [h.1]
    exact .new c
  | connect _ _ _ | entering =>
    rw [hstage] at h
    rw [show tap = .new from h]
    exact .new c

/-- What holds in every reachable state of the tapped connections. -/
structure TappedInv (config : RouterConfig) (s : TappedNet) : Prop where
  reached : (netMachine config).Reachable s.net
  length  : s.taps.length = s.net.conns.length
  hears   : ∀ (i : Nat) c tap, s.net.conns[i]? = some c → s.taps[i]? = some tap →
    c.Hears tap ∧ tap.told.length = c.sockets.delivered

theorem TappedInv.step {config : RouterConfig} {event : NetEvent} {s s' : TappedNet}
    (inv : TappedInv config s) (h : TappedNet.step config event s = some s') :
    TappedInv config s' := by
  obtain ⟨hreached, hlength, hhears⟩ := inv
  obtain ⟨net, hnet, rfl⟩ := Option.map_eq_some_iff.mp h
  have hfaithful := netMachine_faithful hreached
  have hnext : (netMachine config).Reachable net := hreached.step hnet
  cases event with
  | accept client =>
    cases hnet
    refine ⟨hnext, by simp [TappedNet.tapped, hlength], fun i c tap hconn htap => ?_⟩
    rcases lookup_append_cases hconn with ⟨rfl, rfl⟩ | hconn
    · rw [TappedNet.tapped, ← hlength, List.getElem?_concat_length] at htap
      cases htap
      exact ⟨⟨rfl, rfl, rfl⟩, rfl⟩
    · rw [TappedNet.tapped, List.getElem?_append_left (hlength ▸ lt_length hconn)] at htap
      exact hhears i c tap hconn htap
  | conn i event =>
    obtain ⟨c, hconn, hnet⟩ := Option.bind_eq_some_iff.mp hnet
    obtain ⟨⟨c', gate, events⟩, hmove, rfl⟩ := Option.map_eq_some_iff.mp hnet
    obtain ⟨tap, htap⟩ : ∃ tap, s.taps[i]? = some tap :=
      ⟨_, List.getElem?_eq_getElem (hlength ▸ lt_length hconn)⟩
    have htapped : s.tapped (.conn i event) = s.taps.set i (c.tap event tap) := by
      simp only [TappedNet.tapped, hconn, htap]
    rw [htapped]
    refine ⟨hnext, by simp [hlength], fun j d tap' hconn' htap' => ?_⟩
    rcases lookup_set_cases hconn hconn' with ⟨rfl, rfl⟩ | ⟨hne, hconn'⟩
    · rw [lookup_set htap, if_pos rfl] at htap'
      cases htap'
      obtain ⟨hbefore, hcount⟩ := hhears _ c tap hconn htap
      exact ⟨hbefore.step (hfaithful _ c hconn) (Connection.step_cases hmove),
        Connection.tap_length hcount hmove⟩
    · rw [lookup_set htap, if_neg hne] at htap'
      exact hhears j d tap' hconn' htap'
  | close | force =>
    cases hnet
    exact ⟨hnext, hlength, hhears⟩

theorem tappedMachine_inv {config : RouterConfig} {s : TappedNet}
    (h : (tappedMachine config).Reachable s) : TappedInv config s := by
  refine h.invariant ?_ fun inv hstep => inv.step hstep
  rintro s rfl
  exact ⟨.init rfl, rfl, fun i c tap hconn => absurd hconn (by simp [TappedNet.new, Net.new])⟩

/-- What the clients have heard. -/
structure Heard (s : TappedNet) : Prop where
  length   : s.taps.length = s.net.conns.length
  /-- The counter of written bytes counts what the client was told. -/
  counted  : ∀ (i : Nat) c tap, s.net.conns[i]? = some c → s.taps[i]? = some tap →
    tap.told.length = c.sockets.counters.written
  /-- While the connection proxies nothing is lost: what the client was told and
  what the copy holds are what the backend was heard to say. -/
  relayed  : ∀ (i : Nat) c copy tap, s.net.conns[i]? = some c → s.taps[i]? = some tap →
    c.stage = .proxying (some copy) → tap.told ++ copy.toClient.held = tap.heard
  tells    : ∀ (i : Nat) c tap, s.net.conns[i]? = some c → s.taps[i]? = some tap → c.Tells tap

/-- **The client hears its backend or the alert, in order and never both.** In
every run of any number of connections. -/
theorem client_hears_backend {config : RouterConfig} {es : List NetEvent} {s : Net}
    (hrun : (netMachine config).run es .new = some s) :
    ∃ taps, (tappedMachine config).run es .new = some ⟨s, taps⟩ ∧ Heard ⟨s, taps⟩ := by
  obtain ⟨taps, htapped⟩ := tapped_run [] hrun
  refine ⟨taps, htapped, ?_⟩
  have inv := tappedMachine_inv ⟨.new, es, rfl, htapped⟩
  have hfaithful := netMachine_faithful inv.reached
  refine ⟨inv.length, ?_, ?_, ?_⟩
  · intro i c tap hconn htap
    rw [(hfaithful i c hconn).metered.2]
    exact (inv.hears i c tap hconn htap).2
  · intro i c copy tap hconn htap hstage
    have hhears := (inv.hears i c tap hconn htap).1
    unfold Connection.Hears at hhears
    rw [hstage] at hhears
    exact hhears.1
  · intro i c tap hconn htap
    exact (inv.hears i c tap hconn htap).1.tells (hfaithful i c hconn)

/-- A client whose name has no route hears the alert; another one hears the five
bytes of its backend, read in two pieces and written in three. -/
theorem client_hears_backend_at :
    ∃ (es : List NetEvent) (s : Net) (taps : List Tap),
      (netMachine .default).run es .new = some s ∧
      (tappedMachine .default).run es .new = some ⟨s, taps⟩ ∧
      taps.map Tap.told = [unrecognizedNameAlert, [1, 2, 3, 4, 5]] ∧ Heard ⟨s, taps⟩ := by
  let hello : List UInt8 := [22, 3, 1, 0, 59, 1, 0, 0, 55, 3, 3] ++ List.replicate 32 0 ++
    [0, 0, 2, 19, 1, 1, 0, 0, 12, 0, 0, 0, 8, 0, 6, 0, 0, 3, 97, 46, 120]
  let backend : Backend := ⟨.ip (.v4 ⟨[10, 0, 0, 1]⟩), ⟨443, by decide⟩⟩
  let rejected : List NetEvent := [.start, .poll, .work (.read 64), .work .parsed,
    .poll, .work (.lookup (.answered (.ok []))), .poll, .work (.alertWrite 3),
    .work (.alertWrite 4), .work .alertEnd].map (NetEvent.conn 0)
  let proxied : List NetEvent := [.start, .poll, .work (.read 64), .work .parsed,
    .poll, .work (.lookup (.answered (.ok [(⟨[97, 46, 120], false⟩, backend)]))),
    .poll, .work (.dial (.attempt true)), .work (.dial (.write 64)), .work .connected, .enter,
    .poll, .work (.setup none), .work (.copy (.readUpstream [1, 2])),
    .work (.copy (.writeClient 1)), .work (.copy (.readUpstream [3, 4, 5])),
    .work (.copy (.writeClient 2)), .work (.copy (.writeClient 2))].map (NetEvent.conn 1)
  let es : List NetEvent := [.accept hello, .accept hello] ++ rejected ++ proxied
  obtain ⟨s, hrun, hends⟩ : ∃ s, (tappedMachine .default).run es .new = some s ∧
      s.taps.map Tap.told = [unrecognizedNameAlert, [1, 2, 3, 4, 5]] :=
    Option.map_eq_some_iff.mp (by decide +kernel)
  obtain ⟨net, hnet, -⟩ : ∃ net, (netMachine .default).run es .new = some net ∧ net.force = false :=
    Option.map_eq_some_iff.mp (by decide +kernel)
  obtain ⟨taps, htapped, hheard⟩ := client_hears_backend hnet
  have hsame : s = ⟨net, taps⟩ := Option.some.inj (hrun.symm.trans htapped)
  exact ⟨es, net, taps, hnet, htapped, by rw [← hends, hsame], hheard⟩

end SniRouter
