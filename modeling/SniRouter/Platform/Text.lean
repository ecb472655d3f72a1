import SniRouter.Lib.Framing

/-!
# Text

The string operations of the standard library that the router uses, over the
UTF-8 bytes of a `str`. Every one of them is byte-wise in the source too: the
separators are ASCII, so cutting between bytes never splits a character.
-/

namespace SniRouter

open Framing (Bytes)

/-- The UTF-8 bytes of a `str`. -/
abbrev Str := Bytes

namespace Text

/-- The bytes of an ASCII literal. -/
def ascii (s : String) : Str := s.toList.map fun c => UInt8.ofNat c.toNat

def dot : UInt8 := 0x2e
def colon : UInt8 := 0x3a
def star : UInt8 := 0x2a
def hyphen : UInt8 := 0x2d
def underscore : UInt8 := 0x5f
def plus : UInt8 := 0x2b
def zero : UInt8 := 0x30
def openBracket : UInt8 := 0x5b
def closeBracket : UInt8 := 0x5d
def questionMark : UInt8 := 0x3f
def numberSign : UInt8 := 0x23

/-- `u8::is_ascii_uppercase`. -/
def isAsciiUppercase (b : UInt8) : Bool := 0x41 ≤ b && b ≤ 0x5a
/-- `u8::is_ascii_lowercase`. -/
def isAsciiLowercase (b : UInt8) : Bool := 0x61 ≤ b && b ≤ 0x7a
/-- `u8::is_ascii_digit`. -/
def isAsciiDigit (b : UInt8) : Bool := 0x30 ≤ b && b ≤ 0x39

/-- `u8::to_ascii_lowercase`. -/
def toAsciiLowercaseByte (b : UInt8) : UInt8 :=
  if isAsciiUppercase b then b + 0x20 else b

/-- `str::to_ascii_lowercase`. -/
def toAsciiLowercase (s : Str) : Str := s.map toAsciiLowercaseByte

/-- `str::split_once`: cuts at the first separator. -/
def splitOnce (sep : UInt8) : Str → Option (Str × Str)
  | [] => none
  | b :: rest =>
    if b = sep then some ([], rest)
    else (splitOnce sep rest).map fun p => (b :: p.1, p.2)

/-- `str::rsplit_once`: cuts at the last separator. -/
def rsplitOnce (sep : UInt8) (s : Str) : Option (Str × Str) :=
  (splitOnce sep s.reverse).map fun p => (p.2.reverse, p.1.reverse)

/-- `str::strip_prefix`. -/
def stripPrefix : Str → Str → Option Str
  | [], s => some s
  | _ :: _, [] => none
  | p :: ps, b :: s => if b = p then stripPrefix ps s else none

/-- `std::str::from_utf8`. -/
def fromUtf8 (bs : Bytes) : Option Str :=
  if (ByteArray.mk bs.toArray).validateUTF8 then some bs else none

/-- `from_str` of an unsigned integer: an optional `+`, then decimal digits, below
`bound`. -/
def parseUnsigned (bound : Nat) (s : Str) : Option Nat :=
  let digits := (stripPrefix [plus] s).getD s
  if digits.isEmpty || !digits.all isAsciiDigit then none
  else
    let value := digits.foldl (fun acc b => acc * 10 + (b.toNat - 0x30)) 0
    if value < bound then some value else none

/-- `u16::from_str`. -/
def parseU16 : Str → Option Nat := parseUnsigned (2 ^ 16)

/-- `usize::from_str`. -/
def parseUsize : Str → Option Nat := parseUnsigned (2 ^ 64)

-- ---------------------------------------------------------------------------
-- Lowercasing
-- ---------------------------------------------------------------------------

/-- What holds of the 256 bytes holds of every byte. -/
theorem forall_byte {p : UInt8 → Prop} (h : ∀ n : Fin 256, p (UInt8.ofNat n)) (b : UInt8) :
    p b := by
  simpa using h ⟨b.toNat, b.toNat_lt⟩

theorem toAsciiLowercaseByte_idem :
    ∀ b, toAsciiLowercaseByte (toAsciiLowercaseByte b) = toAsciiLowercaseByte b :=
  forall_byte (by decide +kernel)

@[simp] theorem toAsciiLowercase_idem (s : Str) :
    toAsciiLowercase (toAsciiLowercase s) = toAsciiLowercase s := by
  simp [toAsciiLowercase, toAsciiLowercaseByte_idem]

@[simp] theorem toAsciiLowercase_append (s t : Str) :
    toAsciiLowercase (s ++ t) = toAsciiLowercase s ++ toAsciiLowercase t := by
  simp [toAsciiLowercase]

-- ---------------------------------------------------------------------------
-- Cutting
-- ---------------------------------------------------------------------------

/-- The split is at the first separator. -/
theorem splitOnce_eq_some_iff {sep : UInt8} {s pre post : Str} :
    splitOnce sep s = some (pre, post) ↔ sep ∉ pre ∧ s = pre ++ sep :: post := by
  induction s generalizing pre with
  | nil => simp [splitOnce]
  | cons b s ih =>
    rw [splitOnce]
    split
    · next hb =>
      subst hb
      cases pre with
      | nil => simp
      | cons c pre =>
        simp only [Option.some.injEq, Prod.mk.injEq, List.mem_cons, List.cons_append,
          List.cons.injEq]
        constructor
        · rintro ⟨h, -⟩
          cases h
        · rintro ⟨hn, rfl, -⟩
          exact absurd (Or.inl rfl) hn
    · next hb =>
      cases pre with
      | nil =>
        simp only [Option.map_eq_some_iff, Prod.mk.injEq, reduceCtorEq, false_and, and_false,
          exists_false, List.nil_append, List.cons.injEq, false_iff]
        rintro ⟨-, rfl, -⟩
        exact hb rfl
      | cons c pre =>
        simp only [Option.map_eq_some_iff, Prod.mk.injEq, List.cons.injEq, Prod.exists,
          List.mem_cons, not_or, List.cons_append]
        constructor
        · rintro ⟨pre', post', h, ⟨rfl, rfl⟩, rfl⟩
          obtain ⟨hn, rfl⟩ := ih.mp h
          exact ⟨⟨fun h => hb h.symm, hn⟩, rfl, rfl⟩
        · rintro ⟨⟨-, hn⟩, rfl, hs⟩
          exact ⟨pre, post, ih.mpr ⟨hn, hs⟩, ⟨rfl, rfl⟩, rfl⟩

/-- A prefix is stripped when it is there. -/
theorem stripPrefix_eq_some_iff {p s rest : Str} :
    stripPrefix p s = some rest ↔ s = p ++ rest := by
  induction p generalizing s with
  | nil =>
    rw [stripPrefix, List.nil_append]
    exact Option.some_inj
  | cons b p ih =>
    cases s with
    | nil => simp [stripPrefix]
    | cons c s =>
      rw [stripPrefix]
      split
      · next h => simp [h, ih]
      · next h => simp [h]

/-- The split is at the last separator. -/
theorem rsplitOnce_eq_some_iff {sep : UInt8} {s pre post : Str} :
    rsplitOnce sep s = some (pre, post) ↔ sep ∉ post ∧ s = pre ++ sep :: post := by
  unfold rsplitOnce
  rw [Option.map_eq_some_iff]
  constructor
  · rintro ⟨⟨post', pre'⟩, h, hp⟩
    obtain ⟨rfl, rfl⟩ := Prod.mk.inj hp
    obtain ⟨hn, hs⟩ := splitOnce_eq_some_iff.mp h
    refine ⟨by simpa using hn, ?_⟩
    rw [← List.reverse_reverse s, hs]
    simp
  · rintro ⟨hn, rfl⟩
    refine ⟨(post.reverse, pre.reverse), splitOnce_eq_some_iff.mpr ?_, by simp⟩
    exact ⟨by simpa using hn, by simp⟩

/-- Every byte but the separators lies in one of the pieces. -/
theorem mem_piece_of_mem (sep : UInt8) {b : UInt8} {s : Str} (hb : b ∈ s) :
    b = sep ∨ ∃ piece ∈ s.splitOn sep, b ∈ piece := by
  have hjoin : [sep].intercalate (s.splitOn sep) = s := List.intercalate_splitOn sep
  generalize s.splitOn sep = pieces at hjoin
  subst hjoin
  induction pieces with
  | nil => simp at hb
  | cons piece pieces ih =>
    by_cases hnil : pieces = []
    · subst hnil
      exact Or.inr ⟨piece, List.mem_cons_self .., by simpa using hb⟩
    · rw [List.intercalate_cons_of_ne_nil hnil, List.mem_append, List.mem_append,
        List.mem_singleton] at hb
      rcases hb with (hb | hb) | hb
      · exact Or.inr ⟨piece, List.mem_cons_self .., hb⟩
      · exact Or.inl hb
      · rcases ih hb with h | ⟨p, hp, hbp⟩
        · exact Or.inl h
        · exact Or.inr ⟨p, List.mem_cons_of_mem _ hp, hbp⟩

/-- A check over a list passes exactly when it passes on every element. -/
theorem forM_ok_iff {α ε : Type*} {check : α → Except ε Unit} {as : List α} :
    as.forM check = .ok () ↔ ∀ a ∈ as, check a = .ok () := by
  induction as with
  | nil => simp [pure, Except.pure]
  | cons a as ih =>
    rw [List.forM_eq_forM, List.forM_cons, List.forall_mem_cons, ← ih, List.forM_eq_forM]
    cases hcheck : check a with
    | error e => simp [bind, Except.bind]
    | ok u => simp [bind, Except.bind]

-- ---------------------------------------------------------------------------
-- Cutting and case
-- ---------------------------------------------------------------------------

/-- No other byte lowercases to it: the separators of the text formats. -/
def Caseless (sep : UInt8) : Prop := ∀ b, toAsciiLowercaseByte b = sep ↔ b = sep

theorem caseless_dot : Caseless dot := forall_byte (by decide +kernel)
theorem caseless_colon : Caseless colon := forall_byte (by decide +kernel)
theorem caseless_openBracket : Caseless openBracket := forall_byte (by decide +kernel)
theorem caseless_closeBracket : Caseless closeBracket := forall_byte (by decide +kernel)

theorem mem_toAsciiLowercase {sep : UInt8} (hsep : Caseless sep) {s : Str} :
    sep ∈ toAsciiLowercase s ↔ sep ∈ s := by
  simp [toAsciiLowercase, hsep _]

/-- Lowercasing and cutting at a separator commute. -/
theorem splitOnce_toAsciiLowercase {sep : UInt8} (hsep : Caseless sep) (s : Str) :
    splitOnce sep (toAsciiLowercase s) =
      (splitOnce sep s).map fun p => (toAsciiLowercase p.1, toAsciiLowercase p.2) := by
  induction s with
  | nil => rfl
  | cons b s ih =>
    rw [toAsciiLowercase, List.map_cons, ← toAsciiLowercase, splitOnce, splitOnce]
    by_cases hb : b = sep
    · rw [if_pos hb, if_pos ((hsep b).mpr hb)]
      rfl
    · rw [if_neg hb, if_neg fun h => hb ((hsep b).mp h), ih, Option.map_map, Option.map_map]
      rfl

theorem rsplitOnce_toAsciiLowercase {sep : UInt8} (hsep : Caseless sep) (s : Str) :
    rsplitOnce sep (toAsciiLowercase s) =
      (rsplitOnce sep s).map fun p => (toAsciiLowercase p.1, toAsciiLowercase p.2) := by
  have hreverse : (toAsciiLowercase s).reverse = toAsciiLowercase s.reverse :=
    List.map_reverse.symm
  rw [rsplitOnce, rsplitOnce, hreverse, splitOnce_toAsciiLowercase hsep, Option.map_map,
    Option.map_map]
  congr 1
  funext p
  simp [toAsciiLowercase]

theorem stripPrefix_toAsciiLowercase {sep : UInt8} (hsep : Caseless sep) (s : Str) :
    stripPrefix [sep] (toAsciiLowercase s) = (stripPrefix [sep] s).map toAsciiLowercase := by
  cases s with
  | nil => rfl
  | cons b s =>
    rw [toAsciiLowercase, List.map_cons, ← toAsciiLowercase]
    simp only [stripPrefix]
    by_cases hb : b = sep
    · rw [if_pos hb, if_pos ((hsep b).mpr hb)]
      rfl
    · rw [if_neg hb, if_neg fun h => hb ((hsep b).mp h)]
      rfl

end Text

end SniRouter
