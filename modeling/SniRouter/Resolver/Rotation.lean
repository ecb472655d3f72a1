import SniRouter.Resolver.Answers
import Mathlib.Data.List.Rotate
import Mathlib.Data.List.Nodup

/-!
# SniRouter — rotation of addresses

The resolver counts the calls it gave addresses to, of all names in one
counter, and that count says where a call's list starts. Which address a name's
calls begin with so depends on how many calls of other names came between them:
calls of two names with two addresses each, made in turns, never get past the
first address.

* `rotated_eq_rotate` — what a call gets is a rotation of the answer.
* `CounterInv` — the rotation a call gets is the number of turns before it.
* `rotation_spreads_iff` — when consecutive calls of a name begin with
  different addresses.
* `rotation_sticks` — two names in turns.
-/

namespace SniRouter

-- ---------------------------------------------------------------------------
-- Rotated lists
-- ---------------------------------------------------------------------------

namespace Resolver

/-- The rotation of the addresses is a list rotation. -/
theorem rotated_eq_rotate (rotation : UInt64) (addrs : List SocketAddr) :
    rotated rotation addrs = addrs.rotate rotation.toNat := by
  rw [List.rotate_eq_drop_append_take_mod]
  cases addrs with
  | nil => simp [rotated]
  | cons addr addrs =>
    have hmax : max (addr :: addrs).length 1 = (addr :: addrs).length := by
      rw [List.length_cons]
      omega
    unfold rotated
    rw [hmax]

/-- Rotation keeps the addresses. -/
theorem rotated_perm (rotation : UInt64) (addrs : List SocketAddr) :
    (rotated rotation addrs).Perm addrs := by
  rw [rotated_eq_rotate]
  exact List.rotate_perm addrs rotation.toNat

/-- The first of the rotated addresses. -/
theorem head?_rotated (rotation : UInt64) {addrs : List SocketAddr} (hne : addrs ≠ []) :
    (rotated rotation addrs).head? = addrs[rotation.toNat % addrs.length]? := by
  have hpos : 0 < addrs.length := List.length_pos_iff.mpr hne
  rw [rotated_eq_rotate, ← List.rotate_mod]
  exact List.head?_rotate (Nat.mod_lt _ hpos)

end Resolver

-- ---------------------------------------------------------------------------
-- The counter
-- ---------------------------------------------------------------------------

/-- One counter for the turns of all names. -/
structure CounterInv (s : ResolverSystem) : Prop where
  counter : s.rotation = UInt64.ofNat s.turns.length
  turns   : ∀ (i : Nat) turn, s.turns[i]? = some turn → turn.rotation = UInt64.ofNat i

theorem CounterInv.step {config : ResolverConfig} {s s' : ResolverSystem} (inv : CounterInv s)
    {event : ResolverStep} (h : Resolver.step config event s = some s') : CounterInv s' := by
  rcases Resolver.turn_cases h with ⟨hturns, hrotation⟩ | hturn
  · exact ⟨by rw [hrotation, hturns, inv.counter], hturns ▸ inv.turns⟩
  · obtain ⟨c, call, answer, -, -, -, hrotation, hturns⟩ := hturn
    refine ⟨?_, ?_⟩
    · rw [hrotation, hturns, inv.counter, List.length_append, UInt64.ofNat_add]
      rfl
    · intro i turn hi
      rw [hturns] at hi
      rcases Table.lookup_append_cases hi with ⟨rfl, rfl⟩ | hold
      · exact inv.counter
      · exact inv.turns i turn hold

theorem counter_inv {config : ResolverConfig} {s : ResolverSystem}
    (h : (resolverMachine config).Reachable s) : CounterInv s := by
  have hinit : ∀ {s : ResolverSystem}, (resolverMachine config).init s → CounterInv s := by
    intro s hs
    have hs : s = Resolver.start config := hs
    rw [hs]
    exact ⟨rfl, fun i turn hi => absurd hi (by simp [Resolver.start])⟩
  have hstep : ∀ {event : ResolverStep} {s s' : ResolverSystem}, CounterInv s →
      (resolverMachine config).step event s = some s' → CounterInv s' :=
    fun inv hstep => inv.step hstep
  exact h.invariant hinit hstep

-- ---------------------------------------------------------------------------
-- Calls of one name
-- ---------------------------------------------------------------------------

/-- The addresses a lookup found, once they are recorded. -/
def DnsLookup.found (lookup : DnsLookup) : Option (List SocketAddr) :=
  match lookup.stored with
  | some (.ok addrs, _) => if addrs = [] then none else some addrs
  | _ => none

/-- A lookup that stored addresses found them. -/
theorem DnsLookup.found_of_stored {lookup : DnsLookup} {addrs : List SocketAddr} {time : Nat}
    (hstored : lookup.stored = some (.ok addrs, time)) (hne : addrs ≠ []) :
    lookup.found = some addrs := by
  unfold found
  rw [hstored]
  exact if_neg hne

/-- Every lookup of the key that found addresses found these, in some order. -/
def Keeps (s : ResolverSystem) (key : ResolverKey) (addrs : List SocketAddr) : Prop :=
  ∀ lookup ∈ s.lookups, lookup.key = key → ∀ found ∈ lookup.found, found.Perm addrs

instance (s : ResolverSystem) (key : ResolverKey) (addrs : List SocketAddr) :
    Decidable (Keeps s key addrs) :=
  inferInstanceAs (Decidable (∀ lookup ∈ s.lookups, _))

/-- The successful calls of the key in their order, each with the number of
successful calls of all names before it. -/
def turnsOf (s : ResolverSystem) (key : ResolverKey) : List (Turn × Nat) :=
  s.turns.zipIdx.filter fun call => call.1.key = key

/-- The calls got these addresses each, and begin with different ones. -/
def Spread (addrs : List SocketAddr) (calls : List (Turn × Nat)) : Prop :=
  (∀ call ∈ calls, call.1.result.Perm addrs) ∧
    (calls.map fun call => call.1.result.head?).Nodup

instance (addrs : List SocketAddr) (calls : List (Turn × Nat)) : Decidable (Spread addrs calls) :=
  inferInstanceAs (Decidable (_ ∧ _))

/-- Where the list of call number `i` starts among `n` addresses. -/
def startAt (n i : Nat) : Nat := i % 2 ^ 64 % n

section

variable {config : ResolverConfig} {s : ResolverSystem} {key : ResolverKey}
  {addrs : List SocketAddr}

/-- What one call of a name that keeps its addresses gets. -/
theorem turnsOf_spec (hr : (resolverMachine config).Reachable s) (hkeeps : Keeps s key addrs)
    {call : Turn × Nat} (hmem : call ∈ turnsOf s key) :
    call.1.answer.addrs.Perm addrs ∧ call.1.result.Perm addrs ∧
      call.1.result.head? = call.1.answer.addrs[startAt addrs.length call.2]? := by
  obtain ⟨hmem, hkey⟩ := List.mem_filter.mp hmem
  have hkey := of_decide_eq_true hkey
  have hturn : s.turns[call.2]? = some call.1 := List.mem_zipIdx_iff_getElem?.mp hmem
  obtain ⟨⟨time, hne, lookup, hlookup, hlookupkey, hstored⟩, hresult⟩ :=
    (answer_inv hr).turns call.1 (List.mem_of_getElem? hturn)
  have hperm := hkeeps lookup (List.mem_of_getElem? hlookup) (hlookupkey.trans hkey) _
    (DnsLookup.found_of_stored hstored hne)
  refine ⟨hperm, ?_, ?_⟩
  · rw [hresult]
    exact (Resolver.rotated_perm _ _).trans hperm
  · rw [hresult, Resolver.head?_rotated _ hne, (counter_inv hr).turns call.2 call.1 hturn,
      hperm.length_eq, UInt64.toNat_ofNat']
    rfl

/-- **When rotation spreads a name's calls.** Let a name keep the same `n`
addresses. Any `n` consecutive successful calls of it get all of them, and
begin with `n` different ones if and only if the places where their lists start
hold different addresses: with the answers in one order, if and only if the
numbers of the calls, counted over all names, differ modulo `n`. -/
theorem rotation_spreads_iff (hr : (resolverMachine config).Reachable s) (hnodup : addrs.Nodup)
    (hkeeps : Keeps s key addrs) {calls : List (Turn × Nat)} (hcalls : calls <:+: turnsOf s key)
    (hlength : calls.length = addrs.length) :
    (Spread addrs calls ↔
      (calls.map fun call => call.1.answer.addrs[startAt addrs.length call.2]?).Nodup) ∧
    ((∀ call ∈ calls, call.1.answer.addrs = addrs) →
      (Spread addrs calls ↔ (calls.map fun call => startAt addrs.length call.2).Nodup)) := by
  have hspec : ∀ call ∈ calls, call.1.answer.addrs.Perm addrs ∧ call.1.result.Perm addrs ∧
      call.1.result.head? = call.1.answer.addrs[startAt addrs.length call.2]? :=
    fun call hmem => turnsOf_spec hr hkeeps (hcalls.subset hmem)
  have hheads : (calls.map fun call => call.1.result.head?) =
      calls.map fun call => call.1.answer.addrs[startAt addrs.length call.2]? :=
    List.map_congr_left fun call hmem => (hspec call hmem).2.2
  have hspread : Spread addrs calls ↔
      (calls.map fun call => call.1.answer.addrs[startAt addrs.length call.2]?).Nodup := by
    unfold Spread
    rw [hheads]
    exact ⟨fun h => h.2, fun h => ⟨fun call hmem => (hspec call hmem).2.1, h⟩⟩
  refine ⟨hspread, fun horder => ?_⟩
  have hplaces : (calls.map fun call => call.1.answer.addrs[startAt addrs.length call.2]?) =
      (calls.map fun call => startAt addrs.length call.2).map fun i => addrs[i]? := by
    rw [List.map_map]
    exact List.map_congr_left fun call hmem => by rw [horder call hmem]; rfl
  rw [hspread, hplaces]
  refine ⟨fun h => h.of_map _, fun h => h.map_on ?_⟩
  intro i hi j _ hij
  -- every place is one of the list
  obtain ⟨call, hmem, rfl⟩ := List.mem_map.mp hi
  have hpos : 0 < addrs.length := hlength ▸ List.length_pos_of_mem hmem
  exact (List.getElem?_inj (Nat.mod_lt _ hpos) hnodup).mp hij

end

-- ---------------------------------------------------------------------------
-- Runs
-- ---------------------------------------------------------------------------

/-- Call `c` finds nothing cached, and waits for lookup `p`. -/
def lookedUp (key : ResolverKey) (c p : Nat) (addrs : List SocketAddr) : List ResolverStep :=
  [.begin key, .locked c, .lookup p .permit, .lookup p (.callEnds (.returned (.ok addrs))),
    .record p, .lookup p .publish, .wake c]

/-- A configuration under which answers stay fresh for a minute. -/
def minuteTtl : ResolverConfig := .new (60 * nanosPerSec) 1

/-- The key of a first name. -/
def api : ResolverKey := ⟨Text.ascii "api", 443⟩
/-- The key of another. -/
def web : ResolverKey := ⟨Text.ascii "web", 443⟩

/-- Two addresses for either name. -/
def addrsOf (name : Nat) : List SocketAddr :=
  [⟨.v4 ⟨[10, 0, name, 1]⟩, .https⟩, ⟨.v4 ⟨[10, 0, name, 2]⟩, .https⟩]

/-- Two calls of one name. -/
theorem rotation_spreads_iff_at :
    ∃ s, (resolverMachine minuteTtl).run (lookedUp api 0 0 (addrsOf 1) ++ [.begin api, .locked 1])
        (Resolver.start minuteTtl) = some s ∧ Spread (addrsOf 1) (turnsOf s api) := by
  have hends : ((resolverMachine minuteTtl).run
      (lookedUp api 0 0 (addrsOf 1) ++ [.begin api, .locked 1])
      (Resolver.start minuteTtl)).any (fun s => decide (Keeps s api (addrsOf 1)) &&
        decide ((turnsOf s api).map (fun call => (call.1.answer.addrs, call.2)) =
          [(addrsOf 1, 0), (addrsOf 1, 1)])) = true := by
    decide +kernel
  obtain ⟨s, hrun, hval⟩ := (Option.any_eq_true _ _).mp hends
  obtain ⟨hkeeps, hcalls⟩ := Bool.and_eq_true_iff.mp hval
  have hkeeps := of_decide_eq_true hkeeps
  have hcalls := of_decide_eq_true hcalls
  have hlength : (turnsOf s api).length = (addrsOf 1).length := by
    have h := congrArg List.length hcalls
    rw [List.length_map] at h
    exact h
  have horder : ∀ call ∈ turnsOf s api, call.1.answer.addrs = addrsOf 1 := by
    intro call hmem
    have h := List.mem_map_of_mem (f := fun call => (call.1.answer.addrs, call.2)) hmem
    rw [hcalls] at h
    simp only [List.mem_cons, Prod.mk.injEq, List.not_mem_nil, or_false] at h
    rcases h with h | h
    · exact h.1
    · exact h.1
  have hstarts : ((turnsOf s api).map fun call => startAt (addrsOf 1).length call.2) = [0, 1] := by
    have h := congrArg (List.map fun call => startAt (addrsOf 1).length call.2) hcalls
    rw [List.map_map] at h
    exact h
  refine ⟨s, hrun, ?_⟩
  refine ((rotation_spreads_iff ⟨_, _, rfl, hrun⟩ (by decide) hkeeps (List.infix_refl _)
    hlength).2 horder).mpr ?_
  rw [hstarts]
  decide

/-- Two names in turns: both calls of the first begin with the same address. -/
theorem rotation_sticks :
    ∃ (config : ResolverConfig) (s : ResolverSystem) (key : ResolverKey)
      (addrs : List SocketAddr) (calls : List (Turn × Nat)),
      (resolverMachine config).Reachable s ∧ addrs.Nodup ∧ Keeps s key addrs ∧
      calls <:+: turnsOf s key ∧ calls.length = addrs.length ∧ ¬ Spread addrs calls := by
  have hends : ((resolverMachine minuteTtl).run
      (lookedUp api 0 0 (addrsOf 1) ++ lookedUp web 1 1 (addrsOf 2) ++ [.begin api, .locked 2])
      (Resolver.start minuteTtl)).any (fun s => decide (Keeps s api (addrsOf 1)) &&
        (decide ((turnsOf s api).length = (addrsOf 1).length) &&
          decide (¬ Spread (addrsOf 1) (turnsOf s api)))) = true := by
    decide +kernel
  obtain ⟨s, hrun, hval⟩ := (Option.any_eq_true _ _).mp hends
  obtain ⟨hkeeps, hval⟩ := Bool.and_eq_true_iff.mp hval
  obtain ⟨hlength, hspread⟩ := Bool.and_eq_true_iff.mp hval
  exact ⟨_, s, api, addrsOf 1, turnsOf s api, ⟨_, _, rfl, hrun⟩, by decide,
    of_decide_eq_true hkeeps, List.infix_refl _, of_decide_eq_true hlength,
    of_decide_eq_true hspread⟩

end SniRouter
