import Mathlib.Data.Nat.Basic
import Mathlib.Data.List.TakeWhile
import Mathlib.Tactic.Common
import Mathlib.Tactic.IntervalCases
import Std.Data.String.ToInt

/-! # Reading decimal integers

The C library reads an integer from the front of a text: it skips white space,
takes a sign if there is one and then as many digits as there are, and ignores what
follows. The decimal representation of an integer is read as that integer.
-/

namespace LgeHardware.Foundation

/-- `isspace` in the C locale. -/
def isSpace (c : Char) : Bool := c ∈ [' ', '\t', '\n', '\x0b', '\x0c', '\r']

/-- The digits at the front of a text as a number, if there are any. -/
def leadingNat (cs : List Char) : Option Nat :=
  match cs.takeWhile Char.isDigit with
  | [] => none
  | digits => some (Nat.ofDigitChars 10 digits 0)

/-- The integer at the front of a text. -/
def leadingInt (cs : List Char) : Option Int :=
  match cs.dropWhile isSpace with
  | '-' :: rest => (leadingNat rest).map fun n => -Int.ofNat n
  | '+' :: rest => (leadingNat rest).map Int.ofNat
  | rest => (leadingNat rest).map Int.ofNat

/-- The same for any reader of naturals. -/
def signedInt (read : List Char → Option Nat) (cs : List Char) : Option Int :=
  match cs.dropWhile isSpace with
  | '-' :: rest => (read rest).map fun n => -Int.ofNat n
  | '+' :: rest => (read rest).map Int.ofNat
  | rest => (read rest).map Int.ofNat

/-- The value of a hexadecimal digit. -/
def hexDigit (c : Char) : Option Nat :=
  if c.isDigit then some (c.toNat - '0'.toNat)
  else if 'a' ≤ c ∧ c ≤ 'f' then some (c.toNat - 'a'.toNat + 10)
  else if 'A' ≤ c ∧ c ≤ 'F' then some (c.toNat - 'A'.toNat + 10)
  else none

/-- The hexadecimal digits at the front of a text as a number. -/
def leadingHex : List Char → Nat → Nat
  | [], value => value
  | c :: rest, value =>
      match hexDigit c with
      | some d => leadingHex rest (16 * value + d)
      | none => value

/-- The natural at the front of a text in the base that its first characters announce, as
`strtoimax` reads it with base 0: hexadecimal after `0x`, octal after `0`. -/
def leadingNatAnyBase (cs : List Char) : Option Nat :=
  match cs with
  | '0' :: rest =>
      match rest with
      | x :: d :: digits =>
          if (x = 'x' ∨ x = 'X') ∧ (hexDigit d).isSome then some (leadingHex (d :: digits) 0)
          else some (Nat.ofDigitChars 8 (rest.takeWhile fun c => '0' ≤ c ∧ c ≤ '7') 0)
      | _ => some (Nat.ofDigitChars 8 (rest.takeWhile fun c => '0' ≤ c ∧ c ≤ '7') 0)
  | _ => leadingNat cs

/-! ## Round trip -/

theorem leadingNat_toDigits (n : Nat) : leadingNat (Nat.toDigits 10 n) = some n := by
  have hall : (Nat.toDigits 10 n).takeWhile Char.isDigit = Nat.toDigits 10 n := by
    rw [List.takeWhile_eq_self_iff]
    exact fun c hc => Nat.isDigit_of_mem_toDigits (by decide) (by decide) hc
  have hvalue := Nat.ofDigitChars_ten_toDigits (n := n)
  rw [leadingNat, hall]
  cases hdigits : Nat.toDigits 10 n with
  | nil => exact absurd hdigits Nat.toDigits_ne_nil
  | cons first rest =>
      rw [hdigits] at hvalue
      rw [← hvalue]

/-- A reader of naturals that reads the decimal representation of every natural, behind
white space and a sign. -/
theorem signedInt_toDigits {read : List Char → Option Nat}
    (hread : ∀ n, read (Nat.toDigits 10 n) = some n) (n : Nat) :
    signedInt read (Nat.toDigits 10 n) = some (n : Int) := by
  have hread := hread n
  cases hdigits : Nat.toDigits 10 n with
  | nil => exact absurd hdigits Nat.toDigits_ne_nil
  | cons first rest =>
      have hfirst : first.isDigit = true :=
        Nat.isDigit_of_mem_toDigits (by decide) (by decide) (hdigits ▸ List.mem_cons_self)
      have hspace : isSpace first = false := by
        by_contra hspace
        rw [Bool.not_eq_false, isSpace, decide_eq_true_eq] at hspace
        simp only [List.mem_cons, List.not_mem_nil, or_false] at hspace
        rcases hspace with rfl | rfl | rfl | rfl | rfl | rfl <;> cases hfirst
      rw [hdigits] at hread
      rw [signedInt, List.dropWhile_cons_of_neg (by rw [hspace]; exact Bool.false_ne_true)]
      split
      next heq =>
        cases heq
        cases hfirst
      next heq =>
        cases heq
        cases hfirst
      next =>
        rw [hread]
        rfl

/-- The characters of the decimal representation of an integer. -/
theorem toList_toString (i : Int) : (toString i).toList =
    if 0 ≤ i then Nat.toDigits 10 i.toNat else '-' :: Nat.toDigits 10 (-i).toNat := by
  rw [Int.toString_eq_repr, Int.repr_eq_if]
  split
  next => exact Nat.toList_repr
  next =>
    rw [String.toList_append, Nat.toList_repr]
    rfl

theorem signedInt_toString {read : List Char → Option Nat}
    (hread : ∀ n, read (Nat.toDigits 10 n) = some n) (i : Int) :
    signedInt read (toString i).toList = some i := by
  rw [toList_toString]
  split
  next hnonneg => rw [signedInt_toDigits hread, Int.toNat_of_nonneg hnonneg]
  next hneg =>
    rw [signedInt, List.dropWhile_cons_of_neg (by decide)]
    change (read (Nat.toDigits 10 (-i).toNat)).map (fun n => -Int.ofNat n) = some i
    rw [hread, Option.map_some, Int.ofNat_eq_natCast, Int.toNat_of_nonneg (by omega), Int.neg_neg]

theorem leadingInt_toString (i : Int) : leadingInt (toString i).toList = some i :=
  signedInt_toString leadingNat_toDigits i

/-- The first digit of a positive number is not a zero. -/
theorem head?_toDigits_ne_zero {n : Nat} (hn : 0 < n) : (Nat.toDigits 10 n).head? ≠ some '0' := by
  induction n using Nat.base_induction 10 (by decide) with
  | single m hm =>
      rw [Nat.toDigits_of_lt_base hm, List.head?_cons]
      interval_cases m <;> decide
  | digit m k hk hm ih =>
      have hne : (Nat.toDigits 10 m).head? ≠ none := by
        rw [Ne, List.head?_eq_none_iff]
        exact Nat.toDigits_ne_nil
      rw [← Nat.toDigits_append_toDigits (by decide) hm hk, List.head?_append,
        Option.or_of_isSome (Option.isSome_iff_ne_none.mpr hne)]
      exact ih hm

theorem leadingNatAnyBase_toDigits (n : Nat) :
    leadingNatAnyBase (Nat.toDigits 10 n) = some n := by
  rcases Nat.eq_zero_or_pos n with rfl | hn
  · rfl
  · have hhead := head?_toDigits_ne_zero hn
    rw [← leadingNat_toDigits n, leadingNatAnyBase]
    intro rest heq
    rw [heq] at hhead
    exact hhead rfl

/-! ## Texts of 32-bit integers -/

/-- `std::to_string`. -/
def toStr (id : Int32) : String := toString id.toInt

/-- `std::stoi`, `none` where it throws. -/
def stoi (s : String) : Option Int32 :=
  (leadingInt s.toList).bind fun i =>
    if -2 ^ 31 ≤ i ∧ i < 2 ^ 31 then some (Int32.ofInt i) else none

theorem stoi_toStr (id : Int32) : stoi (toStr id) = some id := by
  have hlow := Int32.le_toInt id
  have hhigh := Int32.toInt_lt id
  rw [stoi, toStr, leadingInt_toString, Option.bind_some, if_pos ⟨hlow, hhigh⟩, Int32.ofInt_toInt]

theorem toStr_injective : Function.Injective toStr := by
  intro i j h
  have hread := congrArg stoi h
  rw [stoi_toStr, stoi_toStr] at hread
  exact Option.some_inj.mp hread

/-- `strtoimax` with base 0, restricted to 32 bits: `none` where nothing is read or where the
value does not fit. -/
def readInt32 (s : String) : Option Int32 :=
  (signedInt leadingNatAnyBase s.toList).bind fun i =>
    if -2 ^ 31 ≤ i ∧ i < 2 ^ 31 then some (Int32.ofInt i) else none

theorem readInt32_toStr (i : Int32) : readInt32 (toStr i) = some i := by
  have hlow := Int32.le_toInt i
  have hhigh := Int32.toInt_lt i
  rw [readInt32, toStr, signedInt_toString leadingNatAnyBase_toDigits, Option.bind_some,
    if_pos ⟨hlow, hhigh⟩, Int32.ofInt_toInt]

theorem toStr_ne_empty (i : Int32) : toStr i ≠ "" := by
  intro hempty
  have hread := stoi_toStr i
  rw [hempty] at hread
  cases hread

/-- The text of an integer has no character but digits and a sign. -/
theorem isDigit_of_mem_toStr {i : Int32} {c : Char} (hc : c ∈ (toStr i).toList) :
    c = '-' ∨ c.isDigit = true := by
  rw [toStr, toList_toString] at hc
  split at hc
  next => exact .inr (Nat.isDigit_of_mem_toDigits (by decide) (by decide) hc)
  next =>
    rcases List.mem_cons.mp hc with rfl | hc
    · exact .inl rfl
    · exact .inr (Nat.isDigit_of_mem_toDigits (by decide) (by decide) hc)

theorem not_mem_toStr {c : Char} (hsign : c ≠ '-') (hdigit : c.isDigit = false) (i : Int32) :
    c ∉ (toStr i).toList := by
  intro hc
  rcases isDigit_of_mem_toStr hc with heq | hdigit'
  · exact hsign heq
  · exact absurd (hdigit.symm.trans hdigit') Bool.noConfusion

theorem comma_not_mem_toStr (i : Int32) : ',' ∉ (toStr i).toList :=
  not_mem_toStr (by decide) (by decide) i

/-! ## Lists of integers with commas -/

/-- Integers with commas between them. -/
def commaSeparated (values : List Int32) : String := ",".intercalate (values.map toStr)

/-- The text before the first comma. -/
def firstField (text : String) : String := String.ofList (text.toList.takeWhile (· ≠ ','))

/-- A text of integers with commas between them stands for one list only. -/
theorem commaSeparated_injective {is js : List Int32} (his : is ≠ []) (hjs : js ≠ [])
    (h : commaSeparated is = commaSeparated js) : is = js := by
  have hsplit : ∀ {l : List Int32}, l ≠ [] →
      (commaSeparated l).toList.splitOn ',' = l.map fun i => (toStr i).toList := by
    intro l hl
    have hcomma : ",".toList = [','] := rfl
    rw [commaSeparated, String.toList_intercalate, List.map_map, hcomma]
    apply List.splitOn_intercalate
    · intro cs hcs
      obtain ⟨i, -, rfl⟩ := List.mem_map.mp hcs
      exact comma_not_mem_toStr i
    · exact fun hnil => hl (List.map_eq_nil_iff.mp hnil)
  have hfields : (is.map fun i => (toStr i).toList) = js.map fun i => (toStr i).toList := by
    rw [← hsplit his, ← hsplit hjs, h]
  rw [List.map_inj_right fun i j hij => toStr_injective (String.toList_inj.mp hij)] at hfields
  exact hfields

theorem firstField_commaSeparated (i : Int32) (rest : List Int32) :
    firstField (commaSeparated (i :: rest)) = toStr i := by
  have hall : ∀ c ∈ (toStr i).toList, decide (c ≠ ',') = true := by
    intro c hc
    rw [decide_eq_true_eq]
    rintro rfl
    exact comma_not_mem_toStr i hc
  cases rest with
  | nil =>
      rw [firstField, commaSeparated, List.map_singleton, String.intercalate_singleton,
        List.takeWhile_eq_self_iff.mpr hall, String.ofList_toList]
  | cons j rest =>
      rw [firstField, commaSeparated, List.map_cons, List.map_cons, String.intercalate_cons_cons,
        String.toList_append, String.toList_append, List.append_assoc,
        List.takeWhile_append_of_pos hall]
      have hcomma : ",".toList ++ (",".intercalate (toStr j :: rest.map toStr)).toList =
          ',' :: (",".intercalate (toStr j :: rest.map toStr)).toList := rfl
      rw [hcomma, List.takeWhile_cons_of_neg (by decide), List.append_nil, String.ofList_toList]

end LgeHardware.Foundation
