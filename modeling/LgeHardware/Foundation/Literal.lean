import LgeHardware.Foundation.Hexadecimal

/-! # Integer literals

`strtol` with base 0 reads the longest integer literal at the front of a text and says where it
ends. What it reads to the end of the text is a literal of C with white space before it, with the
value that the literal has, or no text at all.
-/

namespace LgeHardware.Foundation

/-! ## The grammar -/

def isOctal (c : Char) : Bool := '0' ≤ c ∧ c ≤ '7'

def isHex (c : Char) : Bool := (hexDigit c).isSome

/-- An unsigned literal, with its value. -/
inductive Magnitude : List Char → Nat → Prop
  | decimal (c : Char) (digits : List Char) (hc : c ≠ '0')
      (hdigits : ∀ d ∈ c :: digits, d.isDigit = true) :
      Magnitude (c :: digits) (Nat.ofDigitChars 10 (c :: digits) 0)
  | octal (digits : List Char) (hdigits : ∀ d ∈ digits, isOctal d = true) :
      Magnitude ('0' :: digits) (Nat.ofDigitChars 8 digits 0)
  | hexadecimal (x d : Char) (digits : List Char) (hx : x = 'x' ∨ x = 'X')
      (hdigits : ∀ c ∈ d :: digits, isHex c = true) :
      Magnitude ('0' :: x :: d :: digits) (leadingHex (d :: digits) 0)

/-- The two signs. -/
def signs : List (Char × Bool) := [('-', true), ('+', false)]

/-- A literal, after its sign if it has one. -/
inductive SignedLiteral : List Char → Int → Prop
  | unsigned {digits : List Char} {n : Nat} (hdigits : Magnitude digits n) :
      SignedLiteral digits n
  | signed {digits : List Char} {n : Nat} {sign : Char} {negative : Bool}
      (hsign : (sign, negative) ∈ signs) (hdigits : Magnitude digits n) :
      SignedLiteral (sign :: digits) (if negative then -n else n)

/-! ## The reader -/

/-- The digits after a prefix for base 16. -/
def hexBody : List Char → Option (List Char)
  | '0' :: x :: d :: digits =>
      if (x = 'x' ∨ x = 'X') ∧ isHex d = true then some (d :: digits) else none
  | _ => none

/-- The natural at the front of a text in the base that its first characters announce, with what
follows it. -/
def readMagnitude (cs : List Char) : Option (Nat × List Char) :=
  match hexBody cs with
  | some digits => some (leadingHex digits 0, digits.dropWhile isHex)
  | none =>
      match cs with
      | '0' :: rest =>
          some (Nat.ofDigitChars 8 (rest.takeWhile isOctal) 0, rest.dropWhile isOctal)
      | cs => (leadingNat cs).map (·, cs.dropWhile Char.isDigit)

/-- Whether a sign at the front is a minus, and what follows it. -/
def readSign (cs : List Char) : Bool × List Char :=
  match cs with
  | '-' :: rest => (true, rest)
  | '+' :: rest => (false, rest)
  | rest => (false, rest)

/-- `strtol` with base 0, with the text from where it ends. The value is that of an unbounded
integer. -/
def strtol (cs : List Char) : Int × List Char :=
  let (negative, body) := readSign (cs.dropWhile isSpace)
  match readMagnitude body with
  | none => (0, cs)
  | some (n, rest) => (if negative then -n else n, rest)

/-! ## What is read to the end -/

theorem hexBody_eq_some {cs body : List Char} (h : hexBody cs = some body) :
    ∃ x d digits, cs = '0' :: x :: d :: digits ∧ (x = 'x' ∨ x = 'X') ∧ isHex d = true ∧
      body = d :: digits := by
  unfold hexBody at h
  split at h
  next x d digits =>
    split at h
    next hprefix =>
      cases h
      exact ⟨x, d, digits, rfl, hprefix.1, hprefix.2, rfl⟩
    next => cases h
  next => cases h

theorem hexBody_of_head_ne {c : Char} (hc : c ≠ '0') (digits : List Char) :
    hexBody (c :: digits) = none := by
  cases hbody : hexBody (c :: digits) with
  | none => rfl
  | some body =>
      obtain ⟨x, d, rest, hcs, -⟩ := hexBody_eq_some hbody
      exact absurd (List.cons.inj hcs).1 hc

theorem hexBody_of_octal {digits : List Char} (hdigits : ∀ d ∈ digits, isOctal d = true) :
    hexBody ('0' :: digits) = none := by
  cases hbody : hexBody ('0' :: digits) with
  | none => rfl
  | some body =>
      obtain ⟨x, d, rest, hcs, hx, -⟩ := hexBody_eq_some hbody
      obtain ⟨-, rfl⟩ := List.cons.inj hcs
      have hoctal := hdigits x List.mem_cons_self
      rcases hx with rfl | rfl
      · exact absurd hoctal (by decide)
      · exact absurd hoctal (by decide)

theorem leadingNat_of_digits {c : Char} {digits : List Char}
    (hdigits : ∀ d ∈ c :: digits, d.isDigit = true) :
    leadingNat (c :: digits) = some (Nat.ofDigitChars 10 (c :: digits) 0) := by
  rw [leadingNat, List.takeWhile_eq_self_iff.mpr hdigits]

theorem readMagnitude_complete {cs : List Char} {n : Nat} (h : Magnitude cs n) :
    readMagnitude cs = some (n, []) := by
  cases h with
  | decimal c digits hc hdigits =>
      rw [readMagnitude, hexBody_of_head_ne hc]
      · dsimp only
        rw [leadingNat_of_digits hdigits, List.dropWhile_eq_nil_iff.mpr hdigits]
        rfl
      · intro rest heq
        exact hc (List.cons.inj heq).1
  | octal digits hdigits =>
      rw [readMagnitude, hexBody_of_octal hdigits]
      dsimp only
      rw [List.takeWhile_eq_self_iff.mpr hdigits, List.dropWhile_eq_nil_iff.mpr hdigits]
  | hexadecimal x d digits hx hdigits =>
      have hbody : hexBody ('0' :: x :: d :: digits) = some (d :: digits) :=
        if_pos ⟨hx, hdigits d List.mem_cons_self⟩
      rw [readMagnitude, hbody]
      dsimp only
      rw [List.dropWhile_eq_nil_iff.mpr hdigits]

theorem readMagnitude_sound {cs : List Char} {n : Nat} (h : readMagnitude cs = some (n, [])) :
    Magnitude cs n := by
  unfold readMagnitude at h
  split at h
  next body hbody =>
    obtain ⟨x, d, digits, rfl, hx, -, rfl⟩ := hexBody_eq_some hbody
    obtain ⟨rfl, hrest⟩ := Prod.mk.inj (Option.some.inj h)
    exact .hexadecimal x d digits hx (List.dropWhile_eq_nil_iff.mp hrest)
  next =>
    split at h
    next rest _ =>
      obtain ⟨rfl, hrest⟩ := Prod.mk.inj (Option.some.inj h)
      have hdigits := List.dropWhile_eq_nil_iff.mp hrest
      rw [List.takeWhile_eq_self_iff.mpr hdigits]
      exact .octal rest hdigits
    next _ _ hzero =>
      obtain ⟨m, hm, heq⟩ := Option.map_eq_some_iff.mp h
      obtain ⟨rfl, hrest⟩ := Prod.mk.inj heq
      have hdigits := List.dropWhile_eq_nil_iff.mp hrest
      cases cs with
      | nil => cases hm
      | cons c digits =>
          rw [leadingNat_of_digits hdigits] at hm
          cases hm
          exact .decimal c digits (fun hc => hzero digits (hc ▸ rfl)) hdigits

/-- An unsigned literal begins with a digit. -/
theorem Magnitude.head {cs : List Char} {n : Nat} (h : Magnitude cs n) :
    ∃ c rest, cs = c :: rest ∧ c.isDigit = true := by
  cases h with
  | decimal c digits _ hdigits => exact ⟨c, digits, rfl, hdigits c List.mem_cons_self⟩
  | octal digits _ => exact ⟨'0', digits, rfl, rfl⟩
  | hexadecimal x d digits _ _ => exact ⟨'0', _, rfl, rfl⟩

/-- A sign is read, or nothing. -/
theorem readSign_cases (cs : List Char) :
    (∃ sign negative rest, (sign, negative) ∈ signs ∧ cs = sign :: rest ∧
        readSign cs = (negative, rest)) ∨ readSign cs = (false, cs) := by
  unfold readSign
  split
  next rest => exact .inl ⟨'-', true, rest, .head _, rfl, rfl⟩
  next rest => exact .inl ⟨'+', false, rest, .tail _ (.head _), rfl, rfl⟩
  next => exact .inr rfl

theorem SignedLiteral.read {cs : List Char} {v : Int} (h : SignedLiteral cs v) :
    ∃ negative digits n, readSign cs = (negative, digits) ∧ Magnitude digits n ∧
      v = if negative then -(n : Int) else n := by
  cases h with
  | unsigned hdigits =>
      refine ⟨false, _, _, ?_, hdigits, rfl⟩
      obtain ⟨c, rest, rfl, hc⟩ := hdigits.head
      unfold readSign
      split
      next heq => exact absurd ((List.cons.inj heq).1 ▸ hc) (by decide)
      next heq => exact absurd ((List.cons.inj heq).1 ▸ hc) (by decide)
      next => rfl
  | signed hsign hdigits =>
      refine ⟨_, _, _, ?_, hdigits, rfl⟩
      rcases List.mem_cons.mp hsign with heq | heq
      · cases heq
        rfl
      · cases List.mem_singleton.mp heq
        rfl

theorem signedLiteral_of_read {cs : List Char} {n : Nat} (h : Magnitude (readSign cs).2 n) :
    SignedLiteral cs (if (readSign cs).1 then -n else n) := by
  rcases readSign_cases cs with ⟨sign, negative, rest, hsign, rfl, hread⟩ | hread
  · rw [hread] at h ⊢
    exact .signed hsign h
  · rw [hread] at h ⊢
    exact .unsigned h

/-- What `strtol` reads to the end is a literal with white space before it, or nothing. -/
theorem strtol_eq_iff {cs : List Char} {v : Int} :
    strtol cs = (v, []) ↔ SignedLiteral (cs.dropWhile isSpace) v ∨ cs = [] ∧ v = 0 := by
  rw [strtol]
  cases hread : readMagnitude (readSign (cs.dropWhile isSpace)).2 with
  | none =>
      dsimp only
      rw [hread]
      constructor
      · intro h
        obtain ⟨rfl, hcs⟩ := Prod.mk.inj h
        exact .inr ⟨hcs, rfl⟩
      · intro h
        rcases h with hliteral | ⟨rfl, rfl⟩
        · obtain ⟨negative, digits, n, hsign, hdigits, -⟩ := hliteral.read
          rw [hsign, readMagnitude_complete hdigits] at hread
          cases hread
        · rfl
  | some result =>
      obtain ⟨n, rest⟩ := result
      dsimp only
      rw [hread]
      constructor
      · intro h
        obtain ⟨rfl, rfl⟩ := Prod.mk.inj h
        exact .inl (signedLiteral_of_read (readMagnitude_sound hread))
      · intro h
        rcases h with hliteral | ⟨rfl, rfl⟩
        · obtain ⟨negative, digits, m, hsign, hdigits, rfl⟩ := hliteral.read
          rw [hsign, readMagnitude_complete hdigits] at hread
          cases hread
          rw [hsign]
        · cases hread

end LgeHardware.Foundation
