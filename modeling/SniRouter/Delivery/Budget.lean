import SniRouter.Delivery.CopyFuture
import SniRouter.Lib.Machine
import SniRouter.Lib.Permits

/-!
# SniRouter — the descriptor budget of the splice path

The copies of all connections of a process, of however many `Router`s, with the
one `Admission` they share. A run is any interleaving of their events.

* `SpliceProcess.step` — a copy starts, or one of them goes on.
* `BudgetInv` — permits that are free and permits that are held add up.
* `WithinBudget` — what the budget promises of a state.
* `splice_pipes_within_budget` — over every run.
-/

namespace SniRouter

open Framing Table Text

-- ---------------------------------------------------------------------------
-- The process
-- ---------------------------------------------------------------------------

/-- The copies of a process and the permits they share. -/
structure SpliceProcess where
  /-- `ADMISSION`, once a connection has asked for it. -/
  admission : Option Admission
  copies    : List CopyFuture

/-- What happens to the copies of a process. -/
inductive SpliceProcessEvent where
  /-- A connection gets to `copy`. -/
  | start (bufferSize : Nat) (client upstream : Bytes)
  | copy (i : Nat) (event : CopyFutureEvent)

namespace SpliceProcess

/-- Nobody has asked for a permit yet. -/
def new : SpliceProcess := ⟨none, []⟩

/-- The step relation; `none` is an event that cannot happen. -/
def step (env : SpliceEnv) (event : SpliceProcessEvent) (s : SpliceProcess) :
    Option SpliceProcess :=
  match event with
  | .start bufferSize client upstream =>
    some { s with copies := s.copies ++ [.new bufferSize client upstream] }
  | .copy i event =>
    (s.copies[i]?).bind fun copy =>
      (copy.step env event s.admission).map fun (admission, copy) =>
        ⟨admission, s.copies.set i copy⟩

/-- The pipe descriptors of all connections. -/
def pipeFds (s : SpliceProcess) : Nat := (s.copies.map CopyFuture.fds).sum

end SpliceProcess

/-- The permits that can be taken; all of them before the `OnceLock` is set. -/
def Admission.free (env : SpliceEnv) (admission : Option Admission) : Nat :=
  (admission.map Admission.permits).getD (capacity env)

/-- The permits that are taken. -/
def SpliceProcess.permitsInUse (env : SpliceEnv) (s : SpliceProcess) : Nat :=
  Admission.capacity env - Admission.free env s.admission

/-- The copies of a process under any interleaving. -/
def spliceProcessMachine (env : SpliceEnv) : Machine SpliceProcess SpliceProcessEvent where
  init s := s = .new
  step   := SpliceProcess.step env

-- ---------------------------------------------------------------------------
-- Permits
-- ---------------------------------------------------------------------------

/-- Asking first makes the permits, asking again finds them. -/
theorem Admission.found_permits {env : SpliceEnv} {admission : Option Admission}
    {found : Admission} (h : (admission <|> Admission.new env) = some found) :
    found.permits = free env admission := by
  cases admission with
  | none =>
    have hnew : Admission.new env = some found := h
    unfold Admission.new at hnew
    split_ifs at hnew
    cases hnew
    rfl
  | some admission =>
    cases h
    rfl

/-- An event takes a permit out of the free ones, puts one back, or does
neither. -/
theorem CopyFuture.Stepped.permits {env : SpliceEnv} {admission admission' : Option Admission}
    {copy copy' : CopyFuture} {event : CopyFutureEvent}
    (hstep : Stepped env admission copy event admission' copy') (held : copy.Held)
    (hthere : copy.permit = true → admission.isSome) :
    Admission.free env admission' + (if copy'.permit then 1 else 0) =
      Admission.free env admission + if copy.permit then 1 else 0 := by
  cases hstep with
  | panicked hpoint hnone =>
    have hold : admission = none := by
      cases admission with
      | none => rfl
      | some found => exact absurd hnone (by simp)
    rw [hold]
    rfl
  | exhausted hpoint hfound =>
    rw [← Admission.found_permits hfound]
    rfl
  | @admitted found hpoint hfound hfree =>
    have hbare : copy.permit = false := held.unguarded (by rw [hpoint]; rfl)
    rw [← Admission.found_permits hfound, hbare]
    show found.permits - 1 + 1 = found.permits + 0
    omega
  | released hpoint hclosed =>
    cases hpermit : copy.permit with
    | false =>
      unfold release
      rw [hpermit]
      rfl
    | true =>
      obtain ⟨found, hfound⟩ := Option.isSome_iff_exists.mp (hthere hpermit)
      unfold release
      rw [hpermit, hfound]
      rfl
  | polled | firstPipe | secondPipe | refused | calledToUpstream | calledToClient
  | closedToUpstream | closedToClient | joined | closed | ended | dropped => rfl

/-- Every copy holds a permit around its pipes, and the semaphore has the rest. -/
structure BudgetInv (env : SpliceEnv) (s : SpliceProcess) : Prop where
  held      : ∀ copy ∈ s.copies, copy.Held
  conserved : Permits.Conserved CopyFuture.permit (Admission.capacity env)
    (Admission.free env s.admission) s.copies

namespace BudgetInv

variable {env : SpliceEnv} {s s' : SpliceProcess}

theorem start (env : SpliceEnv) : BudgetInv env .new where
  held := fun copy hmem => absurd hmem (by simp [SpliceProcess.new])
  conserved := .init _ _

/-- Who holds a permit has it from the semaphore. -/
theorem there (inv : BudgetInv env s) {i : Nat} {copy : CopyFuture}
    (hcopy : s.copies[i]? = some copy) (hpermit : copy.permit = true) : s.admission.isSome := by
  have hlt := inv.conserved.free_lt hcopy hpermit
  cases hadmission : s.admission with
  | some admission => rfl
  | none =>
    rw [hadmission] at hlt
    exact absurd hlt (Nat.lt_irrefl _)

theorem step (inv : BudgetInv env s) {event : SpliceProcessEvent}
    (h : s.step env event = some s') : BudgetInv env s' := by
  cases event with
  | start bufferSize client upstream =>
    cases h
    refine ⟨?_, inv.conserved.append rfl⟩
    intro copy hmem
    rcases List.mem_append.mp hmem with hmem | hmem
    · exact inv.held copy hmem
    · rw [List.mem_singleton.mp hmem]
      exact .new bufferSize client upstream
  | copy i event =>
    obtain ⟨copy, hcopy, h⟩ := Option.bind_eq_some_iff.mp h
    obtain ⟨⟨admission, copy'⟩, hstep, rfl⟩ := Option.map_eq_some_iff.mp h
    have hstepped := CopyFuture.step_cases hstep
    have hheld : copy.Held := inv.held copy (List.mem_of_getElem? hcopy)
    refine ⟨?_, inv.conserved.set hcopy (hstepped.permits hheld (inv.there hcopy))⟩
    intro other hmem
    rcases List.mem_or_eq_of_mem_set hmem with hmem | rfl
    · exact inv.held other hmem
    · exact hheld.step hstepped

/-- The permits taken are those of the copies that hold one. -/
theorem in_use (inv : BudgetInv env s) : s.permitsInUse env = s.copies.countP CopyFuture.permit :=
  inv.conserved.in_use

/-- A permit pays for four descriptors. -/
theorem pipeFds_le (inv : BudgetInv env s) : s.pipeFds ≤ 4 * s.permitsInUse env := by
  rw [inv.in_use]
  exact Permits.sum_cost_le fun copy hmem => (inv.held copy hmem).fds_le

/-- No more permits are taken than there are. -/
theorem permitsInUse_le (env : SpliceEnv) (s : SpliceProcess) :
    s.permitsInUse env ≤ Admission.capacity env :=
  Nat.sub_le ..

end BudgetInv

theorem budget_inv {env : SpliceEnv} {s : SpliceProcess}
    (h : (spliceProcessMachine env).Reachable s) : BudgetInv env s :=
  h.invariant (fun hinit => hinit ▸ .start env) fun inv hstep => inv.step hstep

-- ---------------------------------------------------------------------------
-- Letting go
-- ---------------------------------------------------------------------------

/-- `prepare` has failed, or the future ends: nothing is left but to close the
pipes and give the permit back. -/
def CopyFuture.Parting (copy : CopyFuture) : Prop :=
  ∃ pipes ended, copy.point = .parting pipes ended

/-- In the portable copy, or over. -/
def CopyFuture.Parted (copy : CopyFuture) : Prop :=
  copy.point = .portable ∨ ∃ ended, copy.point = .gone ended

namespace SpliceProcess

variable {env : SpliceEnv} {s s' : SpliceProcess} {i : Nat} {copy : CopyFuture}

/-- An event of one copy. -/
theorem step_copy (hcopy : s.copies[i]? = some copy) {event : CopyFutureEvent}
    {admission : Option Admission} {copy' : CopyFuture}
    (hstep : copy.step env event s.admission = some (admission, copy')) :
    s.step env (.copy i event) = some ⟨admission, s.copies.set i copy'⟩ := by
  unfold step
  dsimp only
  rw [hcopy, Option.bind_some, hstep]
  rfl

/-- An event leaves a copy alone, or is its own. -/
theorem copy_cases {event : SpliceProcessEvent} (h : s.step env event = some s')
    (hcopy : s.copies[i]? = some copy) :
    s'.copies[i]? = some copy ∨ ∃ own admission' copy',
      CopyFuture.Stepped env s.admission copy own admission' copy' ∧
        s'.copies[i]? = some copy' := by
  cases event with
  | start bufferSize client upstream =>
    cases h
    exact .inl ((List.getElem?_append_left (lt_length hcopy)).trans hcopy)
  | copy j event =>
    obtain ⟨moved, hmoved, h⟩ := Option.bind_eq_some_iff.mp h
    obtain ⟨⟨admission, moved'⟩, hmove, rfl⟩ := Option.map_eq_some_iff.mp h
    by_cases hij : i = j
    · subst hij
      obtain rfl := Option.some.inj (hcopy.symm.trans hmoved)
      exact .inr ⟨event, admission, moved', CopyFuture.step_cases hmove,
        List.getElem?_set_self (lt_length hcopy)⟩
    · exact .inl ((List.getElem?_set_ne (Ne.symm hij)).trans hcopy)

/-- The ends of the pipes are closed one by one, whatever else goes on. -/
theorem run_close (env : SpliceEnv) {pipes : List Pipe} {ended : Option CopyEnd}
    (hcopy : s.copies[i]? = some copy) (hpoint : copy.point = .parting pipes ended) :
    ∃ closed, Pipe.closeNext closed = none ∧
      (spliceProcessMachine env).run (List.replicate (Pipe.fdsOf pipes) (.copy i .close)) s =
        some { s with copies := s.copies.set i (copy.goto (.parting closed ended)) } := by
  generalize hfds : Pipe.fdsOf pipes = fds
  induction fds generalizing s copy pipes with
  | zero =>
    refine ⟨pipes, Pipe.closeNext_none_iff.mpr hfds, ?_⟩
    have hsame : copy.goto (.parting pipes ended) = copy := by
      rw [← hpoint]
      rfl
    rw [hsame, set_same hcopy]
    rfl
  | succ fds ih =>
    cases hclose : Pipe.closeNext pipes with
    | none =>
      rw [Pipe.closeNext_none_iff.mp hclose] at hfds
      exact absurd hfds (by simp)
    | some next =>
      have hnext := (Pipe.closeNext_some hclose).1
      have hstep : copy.step env .close s.admission =
          some (s.admission, copy.goto (.parting next ended)) := by
        unfold CopyFuture.step
        rw [hpoint]
        dsimp only
        rw [hclose]
        rfl
      have hnow : (s.copies.set i (copy.goto (.parting next ended)))[i]? =
          some (copy.goto (.parting next ended)) := List.getElem?_set_self (lt_length hcopy)
      obtain ⟨closed, hclosed, hrun⟩ :=
        ih (s := ⟨s.admission, s.copies.set i (copy.goto (.parting next ended))⟩) hnow rfl
          (by omega)
      refine ⟨closed, hclosed, ?_⟩
      rw [List.replicate_succ]
      refine ((spliceProcessMachine env).run_cons).mpr ⟨_, step_copy hcopy hstep, ?_⟩
      rw [hrun, List.set_set]
      rfl

/-- ... and then the permit goes. -/
theorem step_release (inv : BudgetInv env s) (hcopy : s.copies[i]? = some copy)
    {pipes : List Pipe} {ended : Option CopyEnd} (hpoint : copy.point = .parting pipes ended)
    (hclosed : Pipe.closeNext pipes = none) :
    ∃ s', s.step env (.copy i .release) = some s' ∧
      s'.copies[i]? = some (copy.release ended s.admission).2 ∧
      s'.permitsInUse env + (if copy.permit then 1 else 0) = s.permitsInUse env := by
  have hstep : copy.step env .release s.admission = some (copy.release ended s.admission) := by
    unfold CopyFuture.step
    rw [hpoint]
    dsimp only
    rw [hclosed]
    rfl
  have hrelease := step_copy hcopy hstep
  have hmove : Admission.free env (copy.release ended s.admission).1 + 0 = _ :=
    (CopyFuture.step_cases hstep).permits (inv.held copy (List.mem_of_getElem? hcopy))
      (inv.there hcopy)
  have hbefore := inv.conserved.free_le
  have hafter : Admission.free env (copy.release ended s.admission).1 ≤ _ :=
    (inv.step hrelease).conserved.free_le
  refine ⟨_, hrelease, List.getElem?_set_self (lt_length hcopy), ?_⟩
  show Admission.capacity env - Admission.free env (copy.release ended s.admission).1 + _ =
    Admission.capacity env - Admission.free env s.admission
  omega

end SpliceProcess

/-- What has let go holds nothing. -/
theorem CopyFuture.release_parted (ended : Option CopyEnd) (admission : Option Admission)
    (copy : CopyFuture) :
    (copy.release ended admission).2.Parted ∧ (copy.release ended admission).2.permit = false ∧
      (copy.release ended admission).2.fds = 0 := by
  cases ended with
  | none => exact ⟨.inl rfl, rfl, rfl⟩
  | some ended => exact ⟨.inr ⟨ended, rfl⟩, rfl, rfl⟩

namespace SpliceProcess

variable {env : SpliceEnv} {s s' : SpliceProcess} {i : Nat} {copy : CopyFuture}

/-- A copy that lets go has the permit back after one event for each descriptor
and one more, none of which waits for anybody. -/
theorem run_part (inv : BudgetInv env s) (hcopy : s.copies[i]? = some copy)
    (hparting : copy.Parting) :
    ∃ s' copy', (spliceProcessMachine env).run
        (List.replicate copy.fds (.copy i .close) ++ [.copy i .release]) s = some s' ∧
      s'.copies[i]? = some copy' ∧ copy'.Parted ∧ copy'.permit = false ∧ copy'.fds = 0 ∧
      s'.permitsInUse env + (if copy.permit then 1 else 0) = s.permitsInUse env := by
  obtain ⟨pipes, ended, hpoint⟩ := hparting
  have hfds := CopyFuture.fds_of_parting hpoint
  obtain ⟨closed, hclosed, hrun⟩ := run_close env hcopy hpoint
  have inv₁ : BudgetInv env _ :=
    Machine.run_invariant (m := spliceProcessMachine env) (fun inv hstep => inv.step hstep) inv hrun
  obtain ⟨s', hrelease, hcopy', hmove⟩ := step_release inv₁
    (List.getElem?_set_self (lt_length hcopy)) rfl hclosed
  obtain ⟨hparted, hpermit, hnone⟩ := CopyFuture.release_parted ended s.admission
    (copy.goto (.parting closed ended))
  refine ⟨s', _, ?_, hcopy', hparted, hpermit, hnone, hmove⟩
  rw [hfds]
  exact ((spliceProcessMachine env).run_append).mpr
    ⟨_, hrun, ((spliceProcessMachine env).run_cons).mpr ⟨_, hrelease, rfl⟩⟩

/-- A copy that lets go does nothing else, and keeps its permit until the last
descriptor is closed. -/
theorem part_only (hcopy : s.copies[i]? = some copy) (hparting : copy.Parting)
    {event : CopyFutureEvent} (h : s.step env (.copy i event) = some s') :
    event = .close ∧ copy.fds ≠ 0 ∨ event = .release ∧ copy.fds = 0 := by
  obtain ⟨pipes, ended, hpoint⟩ := hparting
  have hfds := CopyFuture.fds_of_parting hpoint
  obtain ⟨copy', hcopy', h⟩ := Option.bind_eq_some_iff.mp h
  obtain rfl := Option.some.inj (hcopy.symm.trans hcopy')
  obtain ⟨⟨admission, copy'⟩, hstep, -⟩ := Option.map_eq_some_iff.mp h
  cases CopyFuture.step_cases hstep with
  | closed hpoint' hclose =>
    obtain ⟨rfl, -⟩ := CopyPoint.parting.inj (hpoint.symm.trans hpoint')
    have hone := (Pipe.closeNext_some hclose).1
    exact .inl ⟨rfl, by omega⟩
  | released hpoint' hclosed =>
    obtain ⟨rfl, -⟩ := CopyPoint.parting.inj (hpoint.symm.trans hpoint')
    exact .inr ⟨rfl, hfds.trans (Pipe.closeNext_none_iff.mp hclosed)⟩
  | dropped hpoint' =>
    rw [hpoint] at hpoint'
    exact absurd hpoint' (by simp [CopyPoint.leaving])
  | refused hpoint' =>
    rcases hpoint' with hpoint' | ⟨first, hpoint'⟩ <;>
      exact absurd (hpoint.symm.trans hpoint') (by simp)
  | polled _ hpoint' | panicked hpoint' | exhausted hpoint' | admitted hpoint' | firstPipe _ hpoint'
  | secondPipe _ hpoint' | calledToUpstream hpoint' | calledToClient hpoint'
  | closedToUpstream hpoint' | closedToClient hpoint' | joined hpoint' | ended _ hpoint' =>
    exact absurd (hpoint.symm.trans hpoint') (by simp)

end SpliceProcess

-- ---------------------------------------------------------------------------
-- The budget
-- ---------------------------------------------------------------------------

/-- Half the limit is left, whatever it is; a limit below one connection's worth
leaves none. -/
theorem splicePermits_le (nofileLimit : Nat) : 8 * splicePermits nofileLimit ≤ nofileLimit := by
  unfold splicePermits maxSpliceFdShare fdsPerSpliceConnection
  omega

/-- What the budget promises. -/
structure WithinBudget (env : SpliceEnv) (s : SpliceProcess) : Prop where
  /-- Four descriptors for each permit in use. -/
  fds_le_permits : s.pipeFds ≤ 4 * s.permitsInUse env
  /-- With no override at most half the limit; none where it is unknown. -/
  within_limit : env.maxSpliceConnections.bind parseUsize = none →
    2 * s.pipeFds ≤ env.nofileSoftLimit.getD 0
  within_override : ∀ n, env.maxSpliceConnections.bind parseUsize = some n → s.pipeFds ≤ 4 * n
  /-- The permits in use are those that connections hold. -/
  in_use : s.permitsInUse env = s.copies.countP CopyFuture.permit
  /-- Who has a descriptor open holds one. -/
  held : ∀ copy ∈ s.copies, 0 < copy.fds → copy.permit = true
  /-- Who is in the portable copy, or over, does not. -/
  back : ∀ copy ∈ s.copies, copy.Parted → copy.permit = false
  /-- No permit goes before the last descriptor of its connection is closed. -/
  not_before : ∀ (i : Nat) copy event s' copy', s.copies[i]? = some copy →
    s.step env event = some s' → s'.copies[i]? = some copy' → copy.permit = true →
    copy'.permit = false → copy.fds = 0 ∧ copy'.fds = 0
  /-- Once `prepare` has failed or the future ends, the connection closes what is
  open and gives its permit back, and does nothing else before. -/
  as_soon : ∀ (i : Nat) copy, s.copies[i]? = some copy → copy.Parting →
    (∀ event s', s.step env (.copy i event) = some s' →
      event = .close ∧ copy.fds ≠ 0 ∨ event = .release ∧ copy.fds = 0) ∧
    ∃ s' copy', (spliceProcessMachine env).run
        (List.replicate copy.fds (.copy i .close) ++ [.copy i .release]) s = some s' ∧
      s'.copies[i]? = some copy' ∧ copy'.Parted ∧ copy'.permit = false ∧ copy'.fds = 0 ∧
      s'.permitsInUse env + (if copy.permit then 1 else 0) = s.permitsInUse env

/-- A copy that parted has given its permit back. -/
theorem CopyFuture.Held.back {copy : CopyFuture} (h : copy.Held) (hparted : copy.Parted) :
    copy.permit = false := by
  rcases hparted with hportable | ⟨ended, hgone⟩
  · exact h.unguarded (by rw [hportable]; rfl)
  · exact h.unguarded (by rw [hgone]; rfl)

/-- An event that takes a permit away finds the descriptors of its connection
closed. -/
theorem SpliceProcess.not_before {env : SpliceEnv} {s s' : SpliceProcess} (inv : BudgetInv env s)
    {i : Nat} {copy copy' : CopyFuture} {event : SpliceProcessEvent}
    (hcopy : s.copies[i]? = some copy) (hstep : s.step env event = some s')
    (hcopy' : s'.copies[i]? = some copy') (hpermit : copy.permit = true)
    (hgone : copy'.permit = false) : copy.fds = 0 ∧ copy'.fds = 0 := by
  refine ⟨?_, ((inv.step hstep).held copy' (List.mem_of_getElem? hcopy')).fds_eq_zero hgone⟩
  rcases SpliceProcess.copy_cases hstep hcopy with hsame | ⟨own, admission, moved, hmove, hmoved⟩
  · rw [Option.some.inj (hsame.symm.trans hcopy'), hgone] at hpermit
    exact absurd hpermit (by simp)
  · rw [← Option.some.inj (hmoved.symm.trans hcopy')] at hgone
    exact hmove.fds_of_release hpermit hgone

/-- **Splice pipes stay inside their descriptor budget.** For every descriptor
limit and every override, in every run of the connections of a process: whatever
they splice, wherever `prepare` fails, however they end and whenever they are
dropped. -/
theorem splice_pipes_within_budget (env : SpliceEnv) (s : SpliceProcess)
    (h : (spliceProcessMachine env).Reachable s) : WithinBudget env s := by
  have inv := budget_inv h
  have hpermits := inv.pipeFds_le
  have hcapacity := BudgetInv.permitsInUse_le env s
  refine ⟨hpermits, ?_, ?_, inv.in_use, ?_, ?_, ?_, ?_⟩
  · intro hunset
    have hle := splicePermits_le (env.nofileSoftLimit.getD 0)
    unfold Admission.capacity admissionCapacity at hcapacity
    rw [hunset] at hcapacity
    dsimp only at hcapacity
    omega
  · intro n hset
    unfold Admission.capacity admissionCapacity at hcapacity
    rw [hset] at hcapacity
    dsimp only at hcapacity
    omega
  · intro copy hmem hopen
    by_contra hpermit
    have hnone := (inv.held copy hmem).fds_eq_zero (Bool.eq_false_of_not_eq_true hpermit)
    omega
  · exact fun copy hmem hparted => (inv.held copy hmem).back hparted
  · exact fun i copy event s' copy' hcopy hstep hcopy' hpermit hgone =>
      SpliceProcess.not_before inv hcopy hstep hcopy' hpermit hgone
  · exact fun i copy hcopy hparting =>
      ⟨fun event s' hstep => SpliceProcess.part_only hcopy hparting hstep,
        SpliceProcess.run_part inv hcopy hparting⟩

/-- A limit of 16 admits two connections. The first splices, the second has failed
to create its second pipe and the third copies in user space. -/
theorem splice_pipes_within_budget_at : ∃ s,
    (spliceProcessMachine ⟨none, some 16⟩).Reachable s ∧ s.pipeFds = 6 ∧
      WithinBudget ⟨none, some 16⟩ s := by
  obtain ⟨s, hrun, hfds⟩ : ∃ s, (spliceProcessMachine ⟨none, some 16⟩).run
      [.start 4096 [1, 2] [3], .start 4096 [] [], .start 4096 [] [],
        .copy 0 (.poll true), .copy 0 .tryAcquire, .copy 1 (.poll true), .copy 1 .tryAcquire,
        .copy 2 (.poll true), .copy 2 .tryAcquire, .copy 0 (.pipe (some 4096)),
        .copy 1 (.pipe (some 4096)), .copy 1 (.pipe none), .copy 0 (.pipe (some 4096)),
        .copy 0 (.toUpstream (.spliceIn (.ok 2)))] .new = some s ∧ s.pipeFds = 6 :=
    Option.map_eq_some_iff.mp (by decide +kernel)
  have hreachable : (spliceProcessMachine ⟨none, some 16⟩).Reachable s := ⟨_, _, rfl, hrun⟩
  exact ⟨s, hreachable, hfds, splice_pipes_within_budget ⟨none, some 16⟩ s hreachable⟩

end SniRouter
