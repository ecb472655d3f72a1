import SniRouter.Lookup.Types

/-!
# SniRouter — ClientHello limits and errors
-/

namespace SniRouter

/-- TLS caps a record's plaintext fragment at 2^14 bytes. -/
def maxRecordPayload : Nat := 16384
/-- Type (1), version (2), length (2). -/
def recordHeaderLen : Nat := 5
/-- Type (1), length (3). -/
def handshakeHeaderLen : Nat := 4

/-- Bounds on how much ClientHello the router will buffer. -/
structure HelloLimits where
  maxHandshakeBytes : Nat
  maxRecords        : Nat
deriving DecidableEq, Repr

/-- The limits of the wire protocol's reader unless configured. -/
def HelloLimits.default : HelloLimits := ⟨32 * 1024, 32⟩

/-- Most raw wire bytes a complete ClientHello can occupy, in 64-bit `usize`
arithmetic. -/
def HelloLimits.maxWireBytes (limits : HelloLimits) : Nat :=
  (handshakeHeaderLen + limits.maxHandshakeBytes + limits.maxRecords * recordHeaderLen) % 2 ^ 64

/-- What the router learned from a complete ClientHello. -/
structure ClientHelloInfo where
  sni      : Option Hostname
  consumed : Nat
deriving DecidableEq

/-- Why a buffer isn't (yet) a usable ClientHello. -/
inductive ParseError where
  | incomplete
  | notHandshake
  | invalidRecord
  | notClientHello
  | tooLarge
  | malformed (what : String)
  | invalidServerName (error : NameError)
deriving DecidableEq, Repr

/-- The errors of the record layer; the others come from the ClientHello
body. -/
def ParseError.IsRecordLayer : ParseError → Prop
  | .malformed _ | .invalidServerName _ => False
  | _ => True

instance : DecidablePred ParseError.IsRecordLayer := fun e => by
  cases e <;> unfold ParseError.IsRecordLayer <;> infer_instance

-- ---------------------------------------------------------------------------
-- Early returns
-- ---------------------------------------------------------------------------

/-- `if bad { return Err(error) }`. -/
def rejectIf {ε : Type} (bad : Prop) [Decidable bad] (error : ε) : Except ε Unit :=
  if bad then .error error else .ok ()

/-- `Option::ok_or`. -/
def okOr {α ε : Type} (value : Option α) (error : ε) : Except ε α :=
  match value with
  | some a => .ok a
  | none => .error error

/-- `ok_or` succeeds on a value only. -/
theorem okOr_eq_ok_iff {α ε : Type} {value : Option α} {error : ε} {a : α} :
    okOr value error = .ok a ↔ value = some a := by
  cases value <;> simp [okOr]

/-- A check passes when nothing is bad. -/
theorem rejectIf_eq_ok_iff {ε : Type} {bad : Prop} [Decidable bad] {error : ε} {u : Unit} :
    rejectIf bad error = .ok u ↔ ¬ bad := by
  unfold rejectIf
  split_ifs <;> simp_all

/-- A check fails with its own error. -/
theorem rejectIf_eq_error_iff {ε : Type} {bad : Prop} [Decidable bad] {error e : ε} :
    rejectIf bad error = .error e ↔ bad ∧ error = e := by
  unfold rejectIf
  split_ifs <;> simp_all

/-- A sequence succeeds when both parts do. -/
theorem bind_eq_ok_iff {ε α β : Type} {x : Except ε α} {f : α → Except ε β} {b : β} :
    (x >>= f) = .ok b ↔ ∃ a, x = .ok a ∧ f a = .ok b := by
  cases x <;> simp [bind, Except.bind]

/-- A sequence fails when one of its parts does. -/
theorem bind_eq_error_iff {ε α β : Type} {x : Except ε α} {f : α → Except ε β} {e : ε} :
    (x >>= f) = .error e ↔ x = .error e ∨ ∃ a, x = .ok a ∧ f a = .error e := by
  cases x <;> simp [bind, Except.bind]

end SniRouter
