import Mathlib.Data.List.Induction
import Statute.Number.Integer

/-!
# Decimal digits of integers

The decimal form of an integer is read as the integer itself. Digits without a leading zero are the
decimal form of the number that they stand for.
-/

namespace Statute.Number

theorem isDigit_eq (character : Char) : isDigit character = character.isDigit := by
  simp [isDigit, Char.isDigit, Char.le_def]

/-- The decimal form of a number has only digits. -/
theorem isDigit_of_mem_toDigits {value : Nat} {digit : Char} (member : digit ∈ toDigits value) :
    isDigit digit = true := by
  rw [isDigit_eq]
  exact Nat.isDigit_of_mem_toDigits (by decide) (by decide) member

/-- The digits of a number stand for the number. -/
theorem ofDigits_toDigits (value : Nat) : ofDigits (toDigits value) = value := by
  have read : Nat.ofDigitChars 10 (Nat.toDigits 10 value) 0 = value :=
    Nat.ofDigitChars_ten_toDigits
  rwa [Nat.ofDigitChars_eq_foldl] at read

/-- The digits of a number are read as the number. -/
theorem natural?_toDigits (value : Nat) : natural? (toDigits value) = some value := by
  have digits : (toDigits value).all isDigit = true :=
    List.all_eq_true.mpr fun _ => isDigit_of_mem_toDigits
  have nonempty : (toDigits value).isEmpty = false := by
    rw [List.isEmpty_eq_false_iff]
    exact Nat.toDigits_ne_nil
  simp [natural?, digits, nonempty, ofDigits_toDigits]

/-- Different numbers have different decimal forms. -/
theorem repr_injective : Function.Injective Nat.repr := by
  intro first second same
  have digits : toDigits first = toDigits second := by
    have lists := congrArg String.toList same
    rwa [Nat.toList_repr, Nat.toList_repr] at lists
  have read := congrArg natural? digits
  rw [natural?_toDigits, natural?_toDigits] at read
  exact Option.some.inj read

/-- Digits have no sign. -/
theorem signedText?_toDigits (value : Nat) : signedText? (toDigits value) = some (value : Int) := by
  have read := natural?_toDigits value
  have digits : ∀ digit ∈ toDigits value, isDigit digit = true := fun _ => isDigit_of_mem_toDigits
  cases shape : toDigits value with
  | nil => exact absurd shape Nat.toDigits_ne_nil
  | cons first others =>
    rw [shape] at read digits
    have first := digits _ List.mem_cons_self
    unfold signedText?
    split
    next same =>
      obtain ⟨rfl, -⟩ := List.cons.inj same
      exact absurd first (by decide)
    next same =>
      obtain ⟨rfl, -⟩ := List.cons.inj same
      exact absurd first (by decide)
    next =>
      rw [read]
      rfl

/-- An integer without minus sign is written as its digits. -/
theorem toList_toString_of_nonneg {value : Int} (nonnegative : 0 ≤ value) :
    (toString value).toList = toDigits value.toNat := by
  rw [Int.toString_eq_repr, Int.repr_eq_if, if_pos nonnegative, Nat.toList_repr]
  rfl

/-- A negative integer is written as a minus sign and digits. -/
theorem toList_toString_of_neg {value : Int} (negative : value < 0) :
    (toString value).toList = '-' :: toDigits (-value).toNat := by
  rw [Int.toString_eq_repr, Int.repr_eq_if, if_neg (Int.not_le.mpr negative), String.toList_append,
    Nat.toList_repr]
  rfl

/-- An integer is read back from its decimal form. -/
theorem signedText?_toString (value : Int) : signedText? (toString value).toList = some value := by
  rcases Int.lt_or_le value 0 with negative | nonnegative
  · have digits : ((-value).toNat : Int) = -value := Int.toNat_of_nonneg (by omega)
    rw [toList_toString_of_neg negative, signedText?, natural?_toDigits]
    change some (-((-value).toNat : Int)) = some value
    rw [digits, Int.neg_neg]
  · rw [toList_toString_of_nonneg nonnegative, signedText?_toDigits,
      Int.toNat_of_nonneg nonnegative]

/-- Sixty-four bits hold what they hold. -/
theorem int64?_toInt (value : Int64) : int64? value.toInt = some value := by
  have within : Int64.minValue.toInt ≤ value.toInt ∧ value.toInt ≤ Int64.maxValue.toInt :=
    ⟨value.minValue_le_toInt, value.toInt_le⟩
  rw [int64?, if_pos within, Int64.ofInt_toInt]

/-- A signed integer of sixty-four bits is read back from its decimal form. -/
theorem readInt64?_toString (value : Int64) : readInt64? (toString value.toInt) = some value := by
  rw [readInt64?, signedText?_toString, Option.bind_eq_bind, Option.bind_some, int64?_toInt]

/-- Digits in the shortest form of their number: ASCII digits without a leading zero. -/
structure IsCanonical (digits : List Char) : Prop where
  nonempty : digits ≠ []
  ascii : ∀ digit ∈ digits, isDigit digit = true
  noLeadingZero : digits.head? = some '0' → digits = ['0']

instance (digits : List Char) : Decidable (IsCanonical digits) :=
  decidable_of_iff
    (digits ≠ [] ∧ digits.all isDigit = true ∧ (digits.head? = some '0' → digits = ['0']))
    ⟨fun ⟨nonempty, ascii, noLeadingZero⟩ =>
        ⟨nonempty, List.all_eq_true.mp ascii, noLeadingZero⟩,
      fun ⟨nonempty, ascii, noLeadingZero⟩ =>
        ⟨nonempty, List.all_eq_true.mpr ascii, noLeadingZero⟩⟩

/-- The value of a digit is less than ten and gives the digit back. -/
theorem digitChar_digitValue {digit : Char} (ascii : isDigit digit = true) :
    digitValue digit < 10 ∧ (digitValue digit).digitChar = digit := by
  simp only [isDigit, Bool.and_eq_true, decide_eq_true_eq, Char.le_def,
    UInt32.le_iff_toNat_le] at ascii
  have lower : 48 ≤ digit.toNat := ascii.1
  have upper : digit.toNat ≤ 57 := ascii.2
  have value : digitValue digit = digit.toNat - 48 := rfl
  have bounded : digitValue digit < 10 := by omega
  refine ⟨bounded, Char.toNat_inj.mp ?_⟩
  have table : ∀ number < 10, number.digitChar.toNat = number + 48 := by decide
  rw [table _ bounded]
  omega

/-- A digit at the end counts once, and all digits in front of it ten times. -/
theorem ofDigits_append_singleton (front : List Char) (digit : Char) :
    ofDigits (front ++ [digit]) = 10 * ofDigits front + digitValue digit := by
  rw [ofDigits, List.foldl_append]
  rfl

/-- Digits of the shortest form are the decimal form of the number that they stand for. -/
theorem toDigits_ofDigits {digits : List Char} (canonical : IsCanonical digits) :
    toDigits (ofDigits digits) = digits := by
  induction digits using List.reverseRecOn with
  | nil => exact absurd rfl canonical.nonempty
  | append_singleton front digit inductionHypothesis =>
    obtain ⟨bounded, same⟩ := digitChar_digitValue (canonical.ascii digit (by simp))
    rw [ofDigits_append_singleton]
    by_cases single : front = []
    · subst single
      have value : 10 * ofDigits [] + digitValue digit = digitValue digit := by simp [ofDigits]
      rw [value, toDigits, Nat.toDigits_of_lt_base bounded, same]
      rfl
    · -- More than one digit: the first is not zero, so those in front are a positive number.
      have leading : front.head? ≠ some '0' := by
        intro zero
        have alone := canonical.noLeadingZero (by rw [List.head?_append, zero, Option.some_or])
        exact single (by simpa using congrArg List.length alone)
      have frontDigits := inductionHypothesis
        ⟨single, fun other member => canonical.ascii other (List.mem_append_left _ member),
          fun zero => absurd zero leading⟩
      have positive : 0 < ofDigits front := by
        rw [Nat.pos_iff_ne_zero]
        intro zero
        rw [zero] at frontDigits
        rw [← frontDigits] at leading
        exact leading rfl
      have appended := Nat.toDigits_append_toDigits (b := 10) (by decide) positive bounded
      rw [toDigits, ← appended, Nat.toDigits_of_lt_base bounded, same]
      rw [toDigits] at frontDigits
      rw [frontDigits]

/-- A number in the shortest form of its digits is written with these digits. -/
theorem toList_toString_of_readInt64? {digits : List Char} {value : Int64}
    (canonical : IsCanonical digits) (reads : readInt64? (String.ofList digits) = some value) :
    (toString value.toInt).toList = digits := by
  have reading : signedText? digits = some (ofDigits digits : Int) := by
    have read := signedText?_toDigits (ofDigits digits)
    rwa [toDigits_ofDigits canonical] at read
  rw [readInt64?, String.toList_ofList, reading, Option.bind_eq_bind, Option.bind_some,
    int64?] at reads
  split at reads
  next within =>
    obtain rfl := Option.some.inj reads
    rw [Int64.toInt_minValue, Int64.toInt_maxValue] at within
    have same : (Int64.ofInt (ofDigits digits)).toInt = ofDigits digits :=
      Int64.toInt_ofInt_of_le within.1 (by omega)
    rw [same, toList_toString_of_nonneg (Int.natCast_nonneg _), Int.toNat_natCast,
      toDigits_ofDigits canonical]
  next => exact nomatch reads

end Statute.Number
