import Mathlib.Algebra.Ring.Int.Defs
import Mathlib.Algebra.Ring.Nat
import Mathlib.Data.List.Induction
import Statute.Color
import Statute.Number.FixedPoint

/-!
# The hash of colors in a browser

Browsers compute the hash with the numbers that they have: doubles, and bitwise operators that work
on signed numbers of thirty-two bits. Only the last of these signed numbers is taken as an unsigned
one. The module states this computation over the code units of a text and shows that it ends with
the same hash. At every code unit the two numbers are congruent, and the product is small enough
for a double to hold it exactly.
-/

namespace Statute.Color

/-! ## Code units -/

/-- Code units of sixteen bits that stand for a text. A character beyond the basic plane has two of
them, a high and a low surrogate. -/
inductive IsUtf16 : List Char → List Nat → Prop where
  | nil : IsUtf16 [] []
  | basic {character text units} (within : character.toNat < 0x10000)
      (others : IsUtf16 text units) : IsUtf16 (character :: text) (character.toNat :: units)
  | astral {character text high low units} (isHigh : 0xd800 ≤ high ∧ high < 0xdc00)
      (isLow : 0xdc00 ≤ low ∧ low < 0xe000)
      (code : character.toNat = 0x10000 + 0x400 * (high - 0xd800) + (low - 0xdc00))
      (others : IsUtf16 text units) : IsUtf16 (character :: text) (high :: low :: units)

/-- A text has one sequence of code units. -/
theorem IsUtf16.unique {text : List Char} {units others : List Nat} (first : IsUtf16 text units)
    (second : IsUtf16 text others) : units = others := by
  induction first generalizing others with
  | nil =>
    cases second
    rfl
  | basic within _ inductionHypothesis =>
    cases second with
    | basic _ rest => rw [inductionHypothesis rest]
    | astral _ _ code _ => omega
  | astral isHigh isLow code _ inductionHypothesis =>
    cases second with
    | basic within _ => omega
    | astral otherHigh otherLow otherCode rest =>
      rw [inductionHypothesis rest]
      congr 2 <;> omega

/-- Every code point is below 0x110000, which is as far as two code units reach. -/
theorem toNat_lt (character : Char) : character.toNat < 0x110000 := by
  have valid : character.toNat < 0xd800 ∨ 0xdfff < character.toNat ∧ character.toNat < 0x110000 :=
    character.valid
  omega

/-- The code units of a character beyond the basic plane, as numbers. -/
theorem toNat_codeUnits_astral {character : Char} (beyond : 0x10000 ≤ character.toNat) :
    (codeUnits character).map UInt32.toNat =
      [0xd800 + (character.toNat - 0x10000) / 0x400,
        0xdc00 + (character.toNat - 0x10000) % 0x400] := by
  have bounded := toNat_lt character
  have large : ¬ character.val < 0x10000 := UInt32.not_lt.mpr (UInt32.le_iff_toNat_le.mpr beyond)
  have code : (character.val - 0x10000).toNat = character.toNat - 0x10000 :=
    UInt32.toNat_sub_of_le _ _ (UInt32.not_lt.mp large)
  have high : (0xd800 + (character.val - 0x10000) / 0x400).toNat =
      0xd800 + (character.toNat - 0x10000) / 0x400 := by
    rw [UInt32.toNat_add, UInt32.toNat_div, code]
    exact Nat.mod_eq_of_lt (by simp; omega)
  have low : (0xdc00 + (character.val - 0x10000) % 0x400).toNat =
      0xdc00 + (character.toNat - 0x10000) % 0x400 := by
    rw [UInt32.toNat_add, UInt32.toNat_mod, code]
    exact Nat.mod_eq_of_lt (by simp; omega)
  rw [codeUnits, if_neg large, List.map_cons, List.map_singleton, high, low]

/-- What the hash takes in are the code units of the text. -/
theorem isUtf16_codeUnits (text : List Char) :
    IsUtf16 text ((text.flatMap codeUnits).map UInt32.toNat) := by
  induction text with
  | nil => exact .nil
  | cons character text inductionHypothesis =>
    rw [List.flatMap_cons, List.map_append]
    by_cases within : character.toNat < 0x10000
    · have single : codeUnits character = [character.val] :=
        if_pos (show character.val < 0x10000 from UInt32.lt_iff_toNat_lt.mpr within)
      rw [single]
      exact .basic within inductionHypothesis
    · have bounded := toNat_lt character
      rw [toNat_codeUnits_astral (by omega)]
      exact .astral (by omega) (by omega) (by omega) inductionHypothesis

/-! ## The arithmetic of browsers -/

/-- The double nearest to an integer: a multiple of a power of two with a factor of at most
fifty-three bits, of two equally near ones the even one. -/
def nearestDouble (value : Int) : Int :=
  let unit := 2 ^ (value.natAbs.log2 - 52)
  value.sign * (Number.roundedQuotient value.natAbs unit * unit : Nat)

/-- The signed number of thirty-two bits that is congruent to an integer. -/
def signed32 (value : Int) : Int :=
  value.bmod (2 ^ 32)

/-- The exclusive or of two numbers, each taken as a signed one of thirty-two bits. -/
def signedXor (left right : Int) : Int :=
  (BitVec.ofInt 32 left ^^^ BitVec.ofInt 32 right).toInt

/-- Takes in a code unit: times 33 as doubles, cut to a signed number, then exclusive or. -/
def browserStep (hash : Int) (unit : Nat) : Int :=
  signedXor (signed32 (nearestDouble (hash * 33))) unit

/-- The signed number behind some code units. -/
def browserState (units : List Nat) : Int :=
  units.foldl browserStep 5381

/-- The hash of a browser: the last signed number taken as an unsigned one. -/
def browserHash (units : List Nat) : Nat :=
  (browserState units % 2 ^ 32).toNat

/-- Integers of less than fifty-four bits are doubles themselves. -/
theorem nearestDouble_eq_self {value : Int} (small : value.natAbs < 2 ^ 53) :
    nearestDouble value = value := by
  have noScale : value.natAbs.log2 - 52 = 0 := by
    by_cases zero : value.natAbs = 0
    · rw [zero]
      rfl
    · have bits := (Nat.log2_lt zero).mpr small
      omega
  have whole : Number.roundedQuotient value.natAbs (2 ^ 0) * 2 ^ 0 = value.natAbs := by
    simp [Number.roundedQuotient, Nat.mod_one]
  rw [nearestDouble, noScale, whole, Int.sign_mul_natAbs]

/-- Cutting a number to a signed one of thirty-two bits keeps these bits. -/
theorem ofInt_signed32 (value : Int) :
    BitVec.ofInt 32 (signed32 value) = BitVec.ofInt 32 value := by
  apply BitVec.eq_of_toInt_eq
  rw [BitVec.toInt_ofInt, BitVec.toInt_ofInt, signed32, Int.bmod_bmod]

/-- A number that thirty-two bits hold with a sign. -/
def IsSigned32 (value : Int) : Prop :=
  -2 ^ 31 ≤ value ∧ value < 2 ^ 31

instance (value : Int) : Decidable (IsSigned32 value) :=
  inferInstanceAs (Decidable (_ ∧ _))

/-- Every step of the browser leaves a signed number of thirty-two bits. -/
theorem isSigned32_browserStep (hash : Int) (unit : Nat) : IsSigned32 (browserStep hash unit) :=
  ⟨BitVec.le_toInt _, BitVec.toInt_lt⟩

/-- Times 33, a signed number of thirty-two bits stays exact as a double. -/
theorem IsSigned32.product_lt {hash : Int} (signed : IsSigned32 hash) :
    (hash * 33).natAbs < 2 ^ 53 := by
  obtain ⟨lower, upper⟩ := signed
  omega

/-- One code unit keeps the two hashes congruent. -/
theorem ofInt_browserStep {hash : Int} (signed : IsSigned32 hash) {word : UInt32}
    (same : BitVec.ofInt 32 hash = word.toBitVec) (unit : UInt32) :
    BitVec.ofInt 32 (browserStep hash unit.toNat) = (word * 33 ^^^ unit).toBitVec := by
  have read : BitVec.ofInt 32 (unit.toNat : Int) = unit.toBitVec := by
    rw [BitVec.ofInt_natCast]
    exact BitVec.ofNat_toNat ..
  rw [browserStep, signedXor, BitVec.ofInt_toInt, nearestDouble_eq_self signed.product_lt,
    ofInt_signed32, BitVec.ofInt_mul, same, read, UInt32.toBitVec_xor, UInt32.toBitVec_mul]
  rfl

/-- Code units taken in one after another keep the two hashes congruent. -/
theorem browserState_congruent (units : List UInt32) :
    IsSigned32 (browserState (units.map UInt32.toNat)) ∧
      BitVec.ofInt 32 (browserState (units.map UInt32.toNat)) =
        (units.foldl (fun hash unit => hash * 33 ^^^ unit) 5381).toBitVec := by
  -- Both folds are taken apart at their last code unit, where one step is known.
  induction units using List.reverseRecOn with
  | nil => decide
  | append_singleton units unit inductionHypothesis =>
    obtain ⟨signed, same⟩ := inductionHypothesis
    rw [browserState, List.map_append, List.map_singleton, List.foldl_append, List.foldl_append]
    exact ⟨isSigned32_browserStep _ _, ofInt_browserStep signed same unit⟩

/-- The hash of a text is that of a browser over the code units of the text, of which there is one
sequence. On the way the browser's products are below the fifty-third power of two, so that no digit
is lost. -/
theorem djb2_eq_browserHash (key : String) :
    ∃ units, IsUtf16 key.toList units ∧ (∀ others, IsUtf16 key.toList others → others = units) ∧
      (djb2 key).toNat = browserHash units ∧
      ∀ read, read <+: units →
        IsSigned32 (browserState read) ∧ (browserState read * 33).natAbs < 2 ^ 53 := by
  have written := isUtf16_codeUnits key.toList
  refine ⟨_, written, fun others again => again.unique written, ?_, fun read begins => ?_⟩
  · obtain ⟨-, same⟩ := browserState_congruent (key.toList.flatMap codeUnits)
    rw [djb2, ← UInt32.toNat_toBitVec, ← same, BitVec.toNat_ofInt]
    rfl
  · obtain ⟨words, -, rfl⟩ := List.prefix_map_iff.mp begins
    obtain ⟨signed, -⟩ := browserState_congruent words
    exact ⟨signed, signed.product_lt⟩

/-- A text whose hash is negative on the way, with a character of two code units. -/
theorem exampleBird_hash :
    IsUtf16 "bird(😀)".toList [98, 105, 114, 100, 40, 0xd83d, 0xde00, 41] ∧
      browserState [98, 105, 114, 100, 40, 0xd83d, 0xde00] = -1620314963 ∧
      (djb2 "bird(😀)").toNat = 2364181092 ∧
      browserHash [98, 105, 114, 100, 40, 0xd83d, 0xde00, 41] = 2364181092 := by
  have written : IsUtf16 "bird(😀)".toList [98, 105, 114, 100, 40, 0xd83d, 0xde00, 41] := by
    refine .basic (by decide) (.basic (by decide) (.basic (by decide) (.basic (by decide)
      (.basic (by decide) (.astral ?_ ?_ ?_ (.basic (by decide) .nil)))))) <;> decide
  have hash : browserHash [98, 105, 114, 100, 40, 0xd83d, 0xde00, 41] = 2364181092 := by
    decide +kernel
  obtain ⟨units, -, unique, same, -⟩ := djb2_eq_browserHash "bird(😀)"
  rw [← unique _ written, hash] at same
  exact ⟨written, by decide +kernel, same, hash⟩

end Statute.Color
