import LgeHardware.Foundation.Decimal

/-! # Reading hexadecimal naturals

The hexadecimal digits of a natural, with zeros in front of them or without, are read as that
natural. What is no digit ends the number.
-/

namespace LgeHardware.Foundation

/-- The characters are hexadecimal digits. -/
def AllHex (cs : List Char) : Prop := ∀ c ∈ cs, (hexDigit c).isSome = true

theorem hexDigit_digitChar {d : Nat} (hd : d < 16) : hexDigit d.digitChar = some d := by
  have hall : ∀ d < 16, hexDigit d.digitChar = some d := by decide
  exact hall d hd

theorem AllHex.append {first second : List Char} (hfirst : AllHex first)
    (hsecond : AllHex second) : AllHex (first ++ second) := by
  intro c hc
  rcases List.mem_append.mp hc with hc | hc
  · exact hfirst c hc
  · exact hsecond c hc

theorem allHex_toDigits (n : Nat) : AllHex (Nat.toDigits 16 n) := by
  have hdigit : ∀ d < 16, AllHex [d.digitChar] := by
    intro d hd c hc
    rw [List.mem_singleton.mp hc, hexDigit_digitChar hd]
    rfl
  induction n using Nat.strong_induction_on with
  | _ n ih =>
      by_cases hsmall : n < 16
      · rw [Nat.toDigits_of_lt_base hsmall]
        exact hdigit n hsmall
      · rw [Nat.toDigits_of_base_le (by decide) (by omega)]
        exact (ih (n / 16) (by omega)).append (hdigit (n % 16) (by omega))

theorem allHex_zeros (n : Nat) : AllHex (List.replicate n '0') := by
  intro c hc
  rw [List.eq_of_mem_replicate hc]
  rfl

/-- Digits are read on from what is in front of them. -/
theorem leadingHex_append {first : List Char} (hfirst : AllHex first) (second : List Char)
    (value : Nat) :
    leadingHex (first ++ second) value = leadingHex second (leadingHex first value) := by
  induction first generalizing value with
  | nil => rfl
  | cons c rest ih =>
      obtain ⟨d, hd⟩ := Option.isSome_iff_exists.mp (hfirst c List.mem_cons_self)
      have hrest : AllHex rest := fun c hc => hfirst c (List.mem_cons_of_mem _ hc)
      simp only [List.cons_append, leadingHex, hd]
      exact ih hrest (16 * value + d)

theorem leadingHex_singleton {d : Nat} (hd : d < 16) (value : Nat) :
    leadingHex [d.digitChar] value = 16 * value + d := by
  simp only [leadingHex, hexDigit_digitChar hd]

theorem leadingHex_toDigits (n : Nat) : leadingHex (Nat.toDigits 16 n) 0 = n := by
  induction n using Nat.strong_induction_on with
  | _ n ih =>
      by_cases hsmall : n < 16
      · rw [Nat.toDigits_of_lt_base hsmall, leadingHex_singleton hsmall]
        omega
      · rw [Nat.toDigits_of_base_le (by decide) (by omega),
          leadingHex_append (allHex_toDigits (n / 16)), ih (n / 16) (by omega),
          leadingHex_singleton (by omega)]
        omega

theorem leadingHex_zeros (count : Nat) : leadingHex (List.replicate count '0') 0 = 0 := by
  induction count with
  | zero => rfl
  | succ count ih =>
      rw [List.replicate_succ, leadingHex]
      exact ih

/-- Zeros in front do not matter. -/
theorem leadingHex_leftpad (width n : Nat) :
    leadingHex ((Nat.toDigits 16 n).leftpad width '0') 0 = n := by
  rw [List.leftpad, leadingHex_append (allHex_zeros _), leadingHex_zeros, leadingHex_toDigits]

/-- A number after `0x`, to the end of the text. -/
theorem leadingNatAnyBase_hex {digits : List Char} (hne : digits ≠ []) (hdigits : AllHex digits) :
    leadingNatAnyBase ('0' :: 'x' :: digits) = some (leadingHex digits 0) := by
  cases digits with
  | nil => exact absurd rfl hne
  | cons d rest =>
      have hd := hdigits d List.mem_cons_self
      simp [leadingNatAnyBase, hd]

end LgeHardware.Foundation
