import Mathlib.Algebra.Group.Nat.Defs
import Mathlib.Data.List.TakeWhile
import Statute.Proofs.Number.Digits
import Statute.Proofs.Text.Trimming
import Statute.Time.Reading

/-!
# The fields of written timestamps

Numbers with leading zeros, fractions of a second, offsets and names are read as what they were
written for, with everything behind them left over. What stands behind a number with a free number
of digits must not begin with a digit.
-/

namespace Statute.Timestamp

open Number Text Time

/-- What follows a step that succeeds goes on with its result. -/
theorem bind_eq_of_some {α β : Type} {step : Option α} {next : α → Option β} {result : α}
    (succeeds : step = some result) : step >>= next = next result := by
  rw [succeeds]
  rfl

/-- Nothing follows a step that fails. -/
theorem bind_eq_none_of_eq_none {α β : Type} {step : Option α} {next : α → Option β}
    (fails : step = none) : step >>= next = none := by
  rw [fails]
  rfl

/-- A character that comes next is dropped. -/
theorem dropCharacter_cons (character : Char) (rest : List Char) :
    dropCharacter character (character :: rest) = some rest :=
  if_pos rfl

/-! ## Numbers -/

/-- All characters are digits. -/
def AllDigits (text : List Char) : Prop :=
  ∀ character ∈ text, isDigit character = true

/-- A text that does not begin with a digit ends the digits in front of it. -/
def EndsDigits (text : List Char) : Prop :=
  ∀ character ∈ text.head?, isDigit character = false

/-- Digits end in front of any other character. -/
theorem EndsDigits.cons {first : Char} (noDigit : isDigit first = false) (rest : List Char) :
    EndsDigits (first :: rest) :=
  fun _ begins => Option.some.inj begins ▸ noDigit

/-- The digits of a number are digits. -/
theorem allDigits_toDigits (value : Nat) : AllDigits (toDigits value) :=
  fun _ => isDigit_of_mem_toDigits

/-- A padded number is all digits. -/
theorem allDigits_padded (width value : Nat) : AllDigits (padded width value) := by
  refine List.forall_mem_append.mpr ⟨fun character member => ?_, allDigits_toDigits value⟩
  rw [List.eq_of_mem_replicate member]
  rfl

/-- A digit is not blank. -/
theorem isBlank_of_isDigit {character : Char} (digit : isDigit character = true) :
    isBlank character = false := by
  simp only [isDigit, Bool.and_eq_true, decide_eq_true_eq, Char.le_def,
    UInt32.le_iff_toNat_le] at digit
  have lower : 48 ≤ character.toNat := digit.1
  have upper : character.toNat ≤ 57 := digit.2
  simp [isBlank]
  omega

/-- A number fits a width when it has so many digits or fewer. -/
theorem length_padded {width value : Nat} (positive : 0 < width) (fits : value < 10 ^ width) :
    (padded width value).length = width := by
  have digits : (toDigits value).length ≤ width :=
    (Nat.length_toDigits_le_iff (by decide) positive).mpr fits
  rw [padded, List.length_append, List.length_replicate]
  omega

/-- Leading zeros count for nothing. -/
theorem ofDigits_padded (width value : Nat) : ofDigits (padded width value) = value := by
  have zeros (count : Nat) (digits : List Char) :
      ofDigits (List.replicate count '0' ++ digits) = ofDigits digits := by
    induction count with
    | zero => rfl
    | succ count inductionHypothesis => exact inductionHypothesis
  exact (zeros _ _).trans (ofDigits_toDigits value)

/-- Digits are taken up to the greatest number of them, or up to what is no digit. -/
theorem takeNumber_append {least most : Nat} {digits rest : List Char} (all : AllDigits digits)
    (enough : least ≤ digits.length)
    (ends : digits.length = most ∨ digits.length ≤ most ∧ EndsDigits rest) :
    takeNumber least most (digits ++ rest) = some (ofDigits digits, rest) := by
  have taken : ((digits ++ rest).take most).takeWhile isDigit = digits := by
    rcases ends with rfl | ⟨within, others⟩
    · rw [List.take_left]
      exact List.takeWhile_eq_self_iff.mpr all
    · have nothing : (rest.take (most - digits.length)).takeWhile isDigit = [] := by
        cases rest with
        | nil => simp
        | cons first rest =>
          cases most - digits.length <;> simp [others first rfl]
      rw [List.take_append, List.take_of_length_le within, List.takeWhile_append_of_pos all,
        nothing, List.append_nil]
  rw [takeNumber, taken]
  simp only [Nat.not_lt.mpr enough, if_false, List.drop_left]

/-- A number with leading zeros is taken when its width is allowed. -/
theorem takeNumber_padded {least width value : Nat} (positive : 0 < width) (enough : least ≤ width)
    (fits : value < 10 ^ width) (rest : List Char) :
    takeNumber least width (padded width value ++ rest) = some (value, rest) := by
  have length := length_padded positive fits
  rw [takeNumber_append (allDigits_padded width value) (by omega) (.inl length), ofDigits_padded]

/-- A number below a hundred is read from its two digits, whatever follows. -/
theorem takeNumber_two {value : Nat} (fits : value < 100) (rest : List Char) :
    takeNumber 2 2 (padded 2 value ++ rest) = some (value, rest) :=
  takeNumber_padded (by decide) (by decide) fits rest

/-- Where no digit stands, there is no number. -/
theorem takeNumber_eq_none {least most : Nat} (positive : 0 < least) {first : Char}
    (other : isDigit first = false) (rest : List Char) :
    takeNumber least most (first :: rest) = none := by
  cases most <;> simp [takeNumber, other, positive]

/-- A padded number has at least one digit. -/
theorem padded_ne_nil (width value : Nat) : padded width value ≠ [] :=
  List.append_ne_nil_of_right_ne_nil _ Nat.toDigits_ne_nil

/-- A text that begins with digits does not begin with a blank. -/
theorem not_isBlank_head_digits {digits : List Char} (all : AllDigits digits)
    (nonempty : digits ≠ []) (rest : List Char) :
    ∀ character ∈ (digits ++ rest).head?, isBlank character = false := by
  cases digits with
  | nil => exact absurd rfl nonempty
  | cons first digits =>
    exact fun character begins =>
      Option.some.inj begins ▸ isBlank_of_isDigit (all first List.mem_cons_self)

/-- No blanks are cut off in front of a padded number. -/
theorem trimLeft_padded (width value : Nat) (rest : List Char) :
    trimLeft (padded width value ++ rest) = padded width value ++ rest :=
  trimLeft_eq_self (not_isBlank_head_digits (allDigits_padded _ _) (padded_ne_nil _ _) rest)

/-- A year with leading zeros and no sign is taken. -/
theorem takeYear_padded {year : Int} (nonnegative : 0 ≤ year) (bound : year < 10000)
    (rest : List Char) :
    takeYear (padded 4 year.natAbs ++ rest) = some (year, rest) := by
  have taken : takeNumber 1 4 (padded 4 year.natAbs ++ rest) = some (year.natAbs, rest) :=
    takeNumber_padded (by decide) (by decide) (by omega) rest
  have digits := allDigits_padded 4 year.natAbs
  have same : (year.natAbs : Int) = year := Int.natAbs_of_nonneg nonnegative
  cases shape : padded 4 year.natAbs with
  | nil => exact absurd shape (padded_ne_nil _ _)
  | cons first others =>
    rw [shape] at taken digits
    have digit := digits first List.mem_cons_self
    rw [List.cons_append] at taken ⊢
    unfold takeYear
    split
    next begins =>
      obtain ⟨rfl, -⟩ := List.cons.inj begins
      exact absurd digit (by decide)
    next begins =>
      obtain ⟨rfl, -⟩ := List.cons.inj begins
      exact absurd digit (by decide)
    next =>
      rw [taken]
      exact congrArg (fun year => some (year, rest)) same

/-! ## Fractions of a second -/

/-- A fraction is taken in nanoseconds, by the number of its digits. -/
theorem takeFraction_padded {width value : Nat} (positive : 0 < width) (within : width ≤ 9)
    (fits : value < 10 ^ width) {rest : List Char} (ends : EndsDigits rest) :
    takeFraction (padded width value ++ rest) = some (value * Nat.pow 10 (9 - width), rest) := by
  have length := length_padded positive fits
  have unread : rest.dropWhile isDigit = rest := by
    cases rest with
    | nil => rfl
    | cons first rest => simp [ends first rfl]
  have taken : takeNumber 1 9 (padded width value ++ rest) = some (value, rest) := by
    rw [takeNumber_append (allDigits_padded width value) (by omega) (.inr ⟨by omega, ends⟩),
      ofDigits_padded]
  rw [takeFraction, taken]
  simp only [List.length_append, length, Nat.add_sub_cancel, unread]

/-- The fraction that is written for a number of nanoseconds is taken as this number. -/
theorem takeOptionalFraction_text {nanosecond : Nat} (bound : nanosecond < 1000000000)
    {rest : List Char} (ends : EndsDigits rest) (noPoint : rest.head? ≠ some '.') :
    takeOptionalFraction (fractionText nanosecond ++ rest) = some (nanosecond, rest) := by
  unfold fractionText
  split
  next zero =>
    rw [zero, List.nil_append, takeOptionalFraction.eq_def]
    split
    next => exact absurd rfl noPoint
    next => rfl
  next =>
    split
    next milliseconds =>
      have scaled : nanosecond / 1000000 * 1000000 = nanosecond := by omega
      have fits : nanosecond / 1000000 < 10 ^ 3 := by omega
      refine (takeFraction_padded (by decide) (by decide) fits ends).trans ?_
      exact congrArg (fun value => some (value, rest)) scaled
    next =>
      split
      next microseconds =>
        have scaled : nanosecond / 1000 * 1000 = nanosecond := by omega
        have fits : nanosecond / 1000 < 10 ^ 6 := by omega
        refine (takeFraction_padded (by decide) (by decide) fits ends).trans ?_
        exact congrArg (fun value => some (value, rest)) scaled
      next =>
        have fits : nanosecond < 10 ^ 9 := bound
        refine (takeFraction_padded (by decide) (by decide) fits ends).trans ?_
        exact congrArg (fun value => some (value, rest)) (Nat.mul_one nanosecond)

/-! ## Offsets -/

/-- Hours and minutes with a colon between them. -/
def clockText (minutes : Nat) : List Char :=
  padded 2 (minutes / 60) ++ ':' :: padded 2 (minutes % 60)

/-- A clock is read with its colon, as minutes. -/
theorem takeHoursAndMinutes_clockText {minutes : Nat} (day : minutes < 1440) :
    takeHoursAndMinutes (dropCharacter ':') (clockText minutes) = some ((minutes : Int), []) := by
  have takesHours :=
    takeNumber_two (show minutes / 60 < 100 by omega) (':' :: padded 2 (minutes % 60))
  have takesMinutes := takeNumber_two (show minutes % 60 < 100 by omega) []
  rw [List.append_nil] at takesMinutes
  have hour : minutes % 60 < 60 := Nat.mod_lt _ (by decide)
  have whole : 60 * ((minutes / 60 : Nat) : Int) + (minutes % 60 : Nat) = minutes := by omega
  simp only [takeHoursAndMinutes, clockText, takesHours, dropCharacter, if_true, takesMinutes,
    hour, bind, Option.bind, pure, whole]

/-- The written forms of an offset of less than a day: a sign with hours and minutes, either sign
when there are none, or a letter for no offset. -/
inductive IsOffset : Int → List Char → Prop where
  | ahead {minutes : Nat} (bound : minutes < 1440) : IsOffset minutes ('+' :: clockText minutes)
  | behind {minutes : Nat} (bound : minutes < 1440) :
      IsOffset (-minutes) ('-' :: clockText minutes)
  | zulu : IsOffset 0 ['Z']

/-- An offset from universal time is less than a day. -/
theorem IsOffset.bounds {offset : Int} {text : List Char} (written : IsOffset offset text) :
    -1440 < offset ∧ offset < 1440 := by
  cases written with
  | ahead => omega
  | behind => omega
  | zulu => decide

/-- Every offset of less than a day can be written. -/
theorem exists_isOffset {offset : Int} (bounds : -1440 < offset ∧ offset < 1440) :
    ∃ text, IsOffset offset text := by
  obtain ⟨minutes, rfl | rfl⟩ := offset.eq_nat_or_neg
  · exact ⟨_, .ahead (by omega)⟩
  · exact ⟨_, .behind (by omega)⟩

/-- A written offset is taken as the offset. -/
theorem IsOffset.takeOffset_eq {offset : Int} {text : List Char} (written : IsOffset offset text) :
    takeOffset text = some (offset, []) := by
  cases written with
  | ahead bound =>
    rw [takeOffset, if_neg (by decide), if_pos rfl, takeHoursAndMinutes_clockText bound]
  | behind bound =>
    rw [takeOffset, if_neg (by decide), if_neg (by decide), if_pos (by decide),
      takeHoursAndMinutes_clockText bound]
    rfl
  | zulu => decide

end Statute.Timestamp
