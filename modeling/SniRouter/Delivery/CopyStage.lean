import SniRouter.Delivery.Budget
import SniRouter.Delivery.Connection

/-!
# SniRouter — the copy in its connection

The proxy stage of a connection and the future of its copy, side by side. What
the future does until it falls back to the portable copy or ends, the stage does
too: the choice of the mechanism is its `setup`, the system calls of the two
directions are those of its `Copy`, and the end is its own.

* `CopyFuture.Drives` — the stage is where the future is.
* `Drives.step` — every event of the future is one of the stage, or none.
* `copy_drives_stage` — over every run of the process.
-/

namespace SniRouter

open Framing Table

-- ---------------------------------------------------------------------------
-- The stage and the future
-- ---------------------------------------------------------------------------

/-- The two directions as the stage sees them. -/
def spliceView (toUpstream toClient : Leg) : Copy where
  draining := true
  capacity := (toUpstream.pipe.capacity, toClient.pipe.capacity)
  toUpstream := toUpstream.direction.view
  toClient := toClient.direction.view

/-- A direction over its pipe, at work or ended well. -/
structure Leg.Works (source : Bytes) (leg : Leg) : Prop where
  faithful : leg.direction.Faithful leg.pipe.capacity source
  nonempty : 0 < leg.pipe.capacity
  going    : ∀ error, leg.direction.point ≠ .returned (.error error)

/-- Some direction has failed. -/
def failed (toUpstream toClient : Leg) : Prop :=
  ∃ error, toUpstream.direction.point = .returned (.error error) ∨
    toClient.direction.point = .returned (.error error)

/-- The stage at which a future that ends like this leaves its connection; a
future that was dropped was dropped by it. -/
def CopyEnd.Left (c : Connection) : CopyEnd → Prop
  | .finished => c.stage = .leaving (some .proxied)
  | .error => c.stage = .leaving (some .proxyError)
  | .dropped => True

/-- The connection in its proxy stage is where its copy is. -/
def CopyFuture.Drives (copy : CopyFuture) (c : Connection) : Prop :=
  match copy.point with
  | .created | .admitting | .preparing | .parting _ none =>
    c.stage = .proxying none ∧ c.sockets.unread = copy.sources.1
  | .preparingSecond toUpstream =>
    (c.stage = .proxying none ∧ c.sockets.unread = copy.sources.1) ∧ 0 < toUpstream.capacity
  | .splicing toUpstream toClient =>
    (c.stage = .proxying (some (spliceView toUpstream toClient)) ∧
      c.sockets.unread = toUpstream.direction.io.source ∧
      toUpstream.Works copy.sources.1 ∧ toClient.Works copy.sources.2) ∨
    ((∃ proxied, c.stage = .proxying (some proxied)) ∧ failed toUpstream toClient)
  | .portable => ∃ proxied : Copy, c.stage = .proxying (some proxied) ∧ proxied.draining = false
  | .parting _ (some ended) => ended.Left c
  | .gone _ => True

/-- What the future has done, the stage has done too, in one event or none. -/
def Matched (config : RouterConfig) (copy : CopyFuture) (c : Connection) : Prop :=
  copy.Drives c ∨ ∃ work c', c.work config work = some (c', []) ∧ copy.Drives c'

-- ---------------------------------------------------------------------------
-- A direction and its pipe
-- ---------------------------------------------------------------------------

namespace Leg

variable {leg leg' : Leg} {source : Bytes}

theorem Works.start {pipe : Pipe} (h : 0 < pipe.capacity) (source : Bytes) :
    (Leg.start pipe source).Works source :=
  ⟨SpliceDirection.faithful_start _ _, h, fun error hpoint => absurd hpoint (by
    simp [Leg.start, SpliceDirection.start])⟩

/-- A call fails for good, or moves the direction as a copy may move. -/
theorem Works.call (h : leg.Works source) {event : SpliceEvent}
    (hcall : leg.call event = some leg') :
    (∃ error, leg'.direction.point = .returned (.error error)) ∨ leg'.Works source ∧
      SpliceDirection.Moves leg.pipe.capacity leg.direction.view leg.direction.io.source
        leg'.direction.view leg'.direction.io.source := by
  obtain ⟨direction, hstep, rfl⟩ := Option.map_eq_some_iff.mp hcall
  by_cases hfailed : ∃ error, direction.point = .returned (.error error)
  · exact .inl hfailed
  · have hgoing : ∀ error, direction.point ≠ .returned (.error error) :=
      fun error hpoint => hfailed ⟨error, hpoint⟩
    exact .inr ⟨⟨SpliceDirection.step_faithful h.faithful hstep, h.nonempty, hgoing⟩,
      SpliceDirection.step_refines h.nonempty h.faithful hstep hgoing⟩

/-- What has returned makes no more calls. -/
theorem call_point {event : SpliceEvent} (hcall : leg.call event = some leg')
    (result : Except IoErrorKind Unit) : leg.direction.point ≠ .returned result := by
  intro hpoint
  obtain ⟨direction, hstep, -⟩ := Option.map_eq_some_iff.mp hcall
  rw [SpliceDirection.step_returned hpoint] at hstep
  exact absurd hstep (by simp)

/-- Closing an end changes neither the direction nor the capacity. -/
theorem closeEnd_same (h : leg.closeEnd = some leg') :
    leg'.direction = leg.direction ∧ leg'.pipe.capacity = leg.pipe.capacity := by
  unfold closeEnd at h
  split_ifs at h
  obtain ⟨pipe, hclose, rfl⟩ := Option.map_eq_some_iff.mp h
  refine ⟨rfl, ?_⟩
  unfold Pipe.closeEnd at hclose
  split_ifs at hclose <;> cases hclose <;> rfl

/-- Working depends on the direction and the capacity only. -/
theorem Works.congr (h : leg.Works source) (hdirection : leg'.direction = leg.direction)
    (hcapacity : leg'.pipe.capacity = leg.pipe.capacity) : leg'.Works source := by
  refine ⟨?_, hcapacity ▸ h.nonempty, hdirection ▸ h.going⟩
  rw [hdirection, hcapacity]
  exact h.faithful

/-- A leg that is ready has returned. -/
theorem point_of_ready {result : Except IoErrorKind Unit} (h : leg.ready = some result) :
    leg.direction.point = .returned result := by
  unfold ready returned at h
  split_ifs at h
  split at h
  · next hpoint =>
    cases h
    exact hpoint
  · exact absurd h (by simp)

/-- A direction that has ended well. -/
theorem view_finished (h : leg.direction.point = .returned (.ok ())) :
    leg.direction.view.finished = true := by
  unfold SpliceDirection.view
  rw [h]

end Leg

/-- Both directions have ended well, or one has failed. -/
theorem tryJoin_cases {toUpstream toClient : Leg} {ended : CopyEnd}
    (h : tryJoin toUpstream.ready toClient.ready = some ended) :
    (ended = .finished ∧ toUpstream.direction.point = .returned (.ok ()) ∧
      toClient.direction.point = .returned (.ok ())) ∨
    (ended = .error ∧ failed toUpstream toClient) := by
  unfold tryJoin at h
  split at h
  · next hready =>
    cases h
    exact .inr ⟨rfl, _, .inl (Leg.point_of_ready hready)⟩
  · next hready _ =>
    cases h
    exact .inr ⟨rfl, _, .inr (Leg.point_of_ready hready)⟩
  · next hup hdown =>
    cases h
    exact .inl ⟨rfl, Leg.point_of_ready hup, Leg.point_of_ready hdown⟩
  · exact absurd h (by simp)

section Steps

variable {config : RouterConfig} {env : SpliceEnv} {admission admission' : Option Admission}
  {copy copy' : CopyFuture} {event : CopyFutureEvent} {c : Connection}

/-- The mechanism is chosen. -/
theorem Matched.setup (pipes : Option (Nat × Nat)) (hstage : c.stage = .proxying none)
    (hdrives : copy.Drives { c with
      stage := .proxying (some (.setup (max config.copyBufferSize minCopyBuffer) pipes)) }) :
    Matched config copy c := by
  refine .inr ⟨.setup pipes, _, ?_, hdrives⟩
  unfold Connection.work
  rw [hstage]

/-- A system call of a direction. -/
theorem Matched.call {before after : Copy} {sockets : Sockets} {call : CopyEvent}
    (hstage : c.stage = .proxying (some before))
    (hcall : before.step call c.sockets = some (after, sockets))
    (hdrives : copy.Drives { c with stage := .proxying (some after), sockets := sockets }) :
    Matched config copy c := by
  refine .inr ⟨.copy call, _, ?_, hdrives⟩
  unfold Connection.work
  rw [hstage]
  exact Option.map_eq_some_iff.mpr ⟨(after, sockets), hcall, rfl⟩

/-- The portable copy takes over. -/
theorem Matched.portable (hstage : c.stage = .proxying none) (hpoint : copy.point = .portable) :
    Matched config copy c := by
  refine .setup none hstage ?_
  unfold CopyFuture.Drives
  rw [hpoint]
  exact ⟨_, rfl, rfl⟩

/-- A call of the direction to the upstream. -/
theorem Matched.toUpstream {toUpstream toClient leg : Leg} {event : SpliceEvent}
    (h : copy.Drives c) (hpoint : copy.point = .splicing toUpstream toClient)
    (hcall : toUpstream.call event = some leg) :
    Matched config (copy.goto (.splicing leg toClient)) c := by
  unfold CopyFuture.Drives at h
  rw [hpoint] at h
  rcases h with ⟨hstage, hunread, hup, hdown⟩ | ⟨hstage, hfailed⟩
  · rcases hup.call hcall with ⟨error, herror⟩ | ⟨hworks, hmoves⟩
    · exact .inl (.inr ⟨⟨_, hstage⟩, error, .inl herror⟩)
    · have hview : spliceView leg toClient =
          { spliceView toUpstream toClient with toUpstream := leg.direction.view } := by
        unfold spliceView
        rw [Leg.call_pipe hcall]
      rw [← hunread] at hmoves
      change SpliceDirection.Moves _ (spliceView toUpstream toClient).toUpstream _ _ _ at hmoves
      rcases hmoves.toUpstream rfl rfl with ⟨hsame, hsource⟩ | ⟨call, sockets, hcopy, hsource⟩
      · refine .inl (.inl ⟨?_, hsource.symm, hworks, hdown⟩)
        rw [hview, hsame]
        exact hstage
      · rw [← hview] at hcopy
        exact .call hstage hcopy (.inl ⟨rfl, hsource, hworks, hdown⟩)
  · refine .inl (.inr ⟨hstage, ?_⟩)
    obtain ⟨error, herror | herror⟩ := hfailed
    · exact absurd herror (Leg.call_point hcall _)
    · exact ⟨error, .inr herror⟩

/-- A call of the direction to the client. -/
theorem Matched.toClient {toUpstream toClient leg : Leg} {event : SpliceEvent}
    (h : copy.Drives c) (hpoint : copy.point = .splicing toUpstream toClient)
    (hcall : toClient.call event = some leg) :
    Matched config (copy.goto (.splicing toUpstream leg)) c := by
  unfold CopyFuture.Drives at h
  rw [hpoint] at h
  rcases h with ⟨hstage, hunread, hup, hdown⟩ | ⟨hstage, hfailed⟩
  · rcases hdown.call hcall with ⟨error, herror⟩ | ⟨hworks, hmoves⟩
    · exact .inl (.inr ⟨⟨_, hstage⟩, error, .inr herror⟩)
    · have hview : spliceView toUpstream leg =
          { spliceView toUpstream toClient with toClient := leg.direction.view } := by
        unfold spliceView
        rw [Leg.call_pipe hcall]
      change SpliceDirection.Moves _ (spliceView toUpstream toClient).toClient _ _ _ at hmoves
      rcases hmoves.toClient c.sockets rfl rfl with hsame | ⟨call, sockets, hcopy, hsource⟩
      · refine .inl (.inl ⟨?_, hunread, hup, hworks⟩)
        rw [hview, hsame]
        exact hstage
      · rw [← hview] at hcopy
        exact .call hstage hcopy (.inl ⟨rfl, hsource.trans hunread, hup, hworks⟩)
  · refine .inl (.inr ⟨hstage, ?_⟩)
    obtain ⟨error, herror | herror⟩ := hfailed
    · exact ⟨error, .inl herror⟩
    · exact absurd herror (Leg.call_point hcall _)

/-- `try_join` is ready, and the stage ends with it. -/
theorem Matched.joined {toUpstream toClient : Leg} {ended : CopyEnd}
    (h : copy.Drives c) (hpoint : copy.point = .splicing toUpstream toClient)
    (hjoin : tryJoin toUpstream.ready toClient.ready = some ended) (pipes : List Pipe) :
    Matched config (copy.goto (.parting pipes (some ended))) c := by
  unfold CopyFuture.Drives at h
  rw [hpoint] at h
  rcases tryJoin_cases hjoin with ⟨rfl, hup, hdown⟩ | ⟨rfl, error, herror⟩
  · rcases h with ⟨hstage, -⟩ | ⟨-, error, herror | herror⟩
    · have hfinished : (spliceView toUpstream toClient).finished = true :=
        Bool.and_eq_true_iff.mpr ⟨Leg.view_finished hup, Leg.view_finished hdown⟩
      refine .inr ⟨.finished, c.goto (.leaving (some .proxied)), ?_, rfl⟩
      unfold Connection.work
      rw [hstage]
      exact if_pos hfinished
    · exact absurd (hup.symm.trans herror) (by simp)
    · exact absurd (hdown.symm.trans herror) (by simp)
  · have hstage : ∃ proxied, c.stage = .proxying (some proxied) := by
      rcases h with ⟨hstage, -⟩ | ⟨hstage, -⟩
      · exact ⟨_, hstage⟩
      · exact hstage
    obtain ⟨proxied, hstage⟩ := hstage
    refine .inr ⟨.error, c.goto (.leaving (some .proxyError)), ?_, rfl⟩
    unfold Connection.work
    rw [hstage]

/-- The stage does not see a pipe being closed. -/
theorem CopyFuture.Drives.closed {toUpstream toClient up down : Leg}
    (h : copy.Drives c) (hpoint : copy.point = .splicing toUpstream toClient)
    (hup : up = toUpstream ∨ toUpstream.closeEnd = some up)
    (hdown : down = toClient ∨ toClient.closeEnd = some down) :
    (copy.goto (.splicing up down)).Drives c := by
  have hsame : ∀ {leg leg' : Leg}, leg' = leg ∨ leg.closeEnd = some leg' →
      leg'.direction = leg.direction ∧ leg'.pipe.capacity = leg.pipe.capacity := by
    rintro leg leg' (rfl | hclose)
    · exact ⟨rfl, rfl⟩
    · exact Leg.closeEnd_same hclose
  obtain ⟨hupDirection, hupCapacity⟩ := hsame hup
  obtain ⟨hdownDirection, hdownCapacity⟩ := hsame hdown
  unfold CopyFuture.Drives at h ⊢
  rw [hpoint] at h
  rcases h with ⟨hstage, hunread, hworksUp, hworksDown⟩ | ⟨hstage, hfailed⟩
  · refine .inl ⟨?_, hupDirection ▸ hunread, hworksUp.congr hupDirection hupCapacity,
      hworksDown.congr hdownDirection hdownCapacity⟩
    unfold spliceView at hstage ⊢
    rw [hupDirection, hupCapacity, hdownDirection, hdownCapacity]
    exact hstage
  · refine .inr ⟨hstage, ?_⟩
    unfold failed at hfailed ⊢
    rw [hupDirection, hdownDirection]
    exact hfailed

/-- Every event of the future is one event of the stage, or none. -/
theorem CopyFuture.Drives.step (h : copy.Drives c)
    (hsize : copy.bufferSize = max config.copyBufferSize minCopyBuffer)
    (hstep : CopyFuture.Stepped env admission copy event admission' copy') :
    Matched config copy' c := by
  have hdrives := h
  unfold CopyFuture.Drives at h
  cases hstep with
  | polled available hpoint =>
    rw [hpoint] at h
    cases available with
    | true => exact .inl h
    | false => exact .portable h.1 rfl
  | panicked => exact .inl trivial
  | exhausted hpoint =>
    rw [hpoint] at h
    exact .portable h.1 rfl
  | admitted hpoint =>
    rw [hpoint] at h
    exact .inl h
  | firstPipe size hpoint =>
    rw [hpoint] at h
    exact .inl ⟨h, Pipe.new_capacity_pos (by rw [hsize]; unfold minCopyBuffer; omega) size⟩
  | @secondPipe toUpstream size hpoint =>
    rw [hpoint] at h
    obtain ⟨⟨hstage, hunread⟩, hcapacity⟩ := h
    have hnew : 0 < (Pipe.new copy.bufferSize size).capacity :=
      Pipe.new_capacity_pos (by rw [hsize]; unfold minCopyBuffer; omega) size
    exact .setup (some (toUpstream.capacity, (Pipe.new copy.bufferSize size).capacity)) hstage
      (.inl ⟨rfl, hunread, .start hcapacity _, .start hnew _⟩)
  | refused hpoint =>
    rcases hpoint with hpoint | ⟨first, hpoint⟩
    · rw [hpoint] at h
      exact .inl h
    · rw [hpoint] at h
      exact .inl h.1
  | calledToUpstream hpoint hcall => exact .toUpstream hdrives hpoint hcall
  | calledToClient hpoint hcall => exact .toClient hdrives hpoint hcall
  | closedToUpstream hpoint hclose =>
    exact .inl (hdrives.closed hpoint (.inr hclose) (.inl rfl))
  | closedToClient hpoint hclose =>
    exact .inl (hdrives.closed hpoint (.inl rfl) (.inr hclose))
  | joined hpoint hjoin => exact .joined hdrives hpoint hjoin _
  | @closed pipes pipes' ended hpoint hclose =>
    rw [hpoint] at h
    cases ended with
    | none => exact .inl h
    | some ended => exact .inl h
  | @released pipes ended hpoint hclosed =>
    rw [hpoint] at h
    cases ended with
    | none => exact .portable h.1 rfl
    | some ended => exact .inl trivial
  | ended => exact .inl trivial
  | dropped => exact .inl trivial

end Steps

-- ---------------------------------------------------------------------------
-- Runs
-- ---------------------------------------------------------------------------

/-- The proxy stage of a connection as a machine. -/
def workMachine (config : RouterConfig) : Machine Connection WorkEvent where
  init c := c.stage = .proxying none
  step event c := (c.work config event).map Prod.fst

/-- Along a run the copy goes on driving a copy stage. -/
theorem CopyFuture.Drives.run {config : RouterConfig} {env : SpliceEnv}
    {es : List SpliceProcessEvent} {s s' : SpliceProcess} {i : Nat} {copy : CopyFuture}
    {c : Connection} (h : copy.Drives c)
    (hsize : copy.bufferSize = max config.copyBufferSize minCopyBuffer)
    (hcopy : s.copies[i]? = some copy) (hrun : (spliceProcessMachine env).run es s = some s') :
    ∃ copy' works c', s'.copies[i]? = some copy' ∧
      (workMachine config).run works c = some c' ∧ copy'.Drives c' := by
  induction es generalizing s copy c with
  | nil =>
    cases hrun
    exact ⟨copy, [], c, hcopy, rfl, h⟩
  | cons event es ih =>
    obtain ⟨s₁, hstep, hrest⟩ := ((spliceProcessMachine env).run_cons).mp hrun
    rcases SpliceProcess.copy_cases hstep hcopy with hsame | ⟨own, admission, moved, hmove, hmoved⟩
    · exact ih h hsize hsame hrest
    · have hsize' : moved.bufferSize = max config.copyBufferSize minCopyBuffer :=
        hmove.bufferSize_eq.trans hsize
      rcases h.step hsize hmove with hsame | ⟨work, c₁, hwork, hnext⟩
      · exact ih hsame hsize' hmoved hrest
      · obtain ⟨copy', works, c', hcopy', hworks, hdrives⟩ := ih hnext hsize' hmoved hrest
        refine ⟨copy', work :: works, c', hcopy', ?_, hdrives⟩
        refine ((workMachine config).run_cons).mpr ⟨c₁, ?_, hworks⟩
        exact Option.map_eq_some_iff.mpr ⟨(c₁, []), hwork, rfl⟩

/-- **The future of the copy drives the stage.** A connection in its proxy stage
gets to `copy` with what its client is still to send. In every run of the process
from there, what the copy has done the stage can do too, and is then where the
copy is. -/
theorem copy_drives_stage {config : RouterConfig} {env : SpliceEnv}
    {es : List SpliceProcessEvent} {s s' : SpliceProcess} {c : Connection} (upstream : Bytes)
    (hstage : c.stage = .proxying none)
    (hrun : (spliceProcessMachine env).run
      (.start (max config.copyBufferSize minCopyBuffer) c.sockets.unread upstream :: es) s =
        some s') :
    ∃ copy works c', s'.copies[s.copies.length]? = some copy ∧
      (workMachine config).run works c = some c' ∧ copy.Drives c' := by
  obtain ⟨s₁, hstart, hrest⟩ := ((spliceProcessMachine env).run_cons).mp hrun
  cases hstart
  have hdrives : (CopyFuture.new (max config.copyBufferSize minCopyBuffer) c.sockets.unread
      upstream).Drives c := ⟨hstage, rfl⟩
  exact hdrives.run rfl List.getElem?_concat_length hrest

end SniRouter
