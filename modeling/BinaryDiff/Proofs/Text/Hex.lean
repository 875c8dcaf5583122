import BinaryDiff.Text.Hex
import Mathlib.Data.List.Basic
import Mathlib.Tactic.Common
import Mathlib.Tactic.IntervalCases

/-!
# Hexadecimal text reads back

The digits of a number, read in base sixteen, give the number back, whatever its length; so does
the text of an integer with its sign.  The induction is on the number, one digit at a time, as the
digits are written.  Texts of one length stand in the order of their numbers
(`Hex.padded_lt_padded_iff`): there the induction is on the length, and the last digit decides only
if all others agree.
-/

namespace BinaryDiff
namespace Hex

/-! ### Digits -/

lemma valueOf_digit {value : Nat} (h : value < 16) : valueOf (digit value) = some value := by
  interval_cases value <;> decide

lemma digits_of_lt {n : Nat} (h : n < 16) : digits n = [digit n] := by
  rw [digits, if_pos h]

lemma digits_of_le {n : Nat} (h : 16 ≤ n) : digits n = digits (n / 16) ++ [digit (n % 16)] := by
  rw [digits, if_neg (by omega)]

lemma digits_ne_nil (n : Nat) : digits n ≠ [] := by
  rcases Nat.lt_or_ge n 16 with h | h
  · simp [digits_of_lt h]
  · simp [digits_of_le h]

lemma exists_digit_of_mem_digits {n : Nat} {c : Char} (h : c ∈ digits n) :
    ∃ value < 16, c = digit value := by
  induction n using digits.induct with
  | case1 n hn =>
    rw [digits_of_lt hn, List.mem_singleton] at h
    exact ⟨n, hn, h⟩
  | case2 n hn ih =>
    rw [digits_of_le (by omega), List.mem_append, List.mem_singleton] at h
    exact h.elim ih fun hlast => ⟨n % 16, Nat.mod_lt n (by omega), hlast⟩

/-! ### Reading digits -/

/-- The sum that reading goes on with after some characters. -/
def readFrom (sum : Option Nat) (text : List Char) : Option Nat :=
  text.foldl (fun sum c => do return 16 * (← sum) + (← valueOf c)) sum

lemma ofDigits_eq_readFrom {text : List Char} (h : text ≠ []) :
    ofDigits text = readFrom (some 0) text := by
  rw [ofDigits, if_neg (by simpa using h), readFrom]

lemma readFrom_append_digit {sum : Option Nat} {text : List Char} {n value : Nat}
    (h : readFrom sum text = some n) (hv : value < 16) :
    readFrom sum (text ++ [digit value]) = some (16 * n + value) := by
  have hstep : readFrom sum (text ++ [digit value])
      = (do return 16 * (← readFrom sum text) + (← valueOf (digit value))) := by
    simp only [readFrom, List.foldl_append, List.foldl_cons, List.foldl_nil]
  rw [hstep, h, valueOf_digit hv]
  rfl

lemma readFrom_digits (n : Nat) : readFrom (some 0) (digits n) = some n := by
  induction n using digits.induct with
  | case1 n h =>
    have hread : readFrom (some 0) ([] ++ [digit n]) = some (16 * 0 + n) :=
      readFrom_append_digit rfl h
    simpa [digits_of_lt h] using hread
  | case2 n h ih =>
    have hread := readFrom_append_digit ih (Nat.mod_lt n (by omega))
    rw [digits_of_le (by omega), hread, Nat.div_add_mod]

/-- Reading the digits of a number gives the number back. -/
theorem ofDigits_digits (n : Nat) : ofDigits (digits n) = some n := by
  rw [ofDigits_eq_readFrom (digits_ne_nil n), readFrom_digits]

/-! ### Padded digits -/

lemma length_digits_le {n length : Nat} (hlength : 0 < length) (h : n < 16 ^ length) :
    (digits n).length ≤ length := by
  induction length generalizing n with
  | zero => omega
  | succ length ih =>
    rcases Nat.lt_or_ge n 16 with hsmall | hlarge
    · simp [digits_of_lt hsmall]
    · have hpositive : 0 < length := by
        by_contra hzero
        rw [Nat.eq_zero_of_not_pos hzero] at h
        omega
      have hshort := ih hpositive (Nat.div_lt_of_lt_mul (by rwa [Nat.pow_succ'] at h))
      rw [digits_of_le hlarge, List.length_append, List.length_singleton]
      omega

lemma length_padded {n length : Nat} (hlength : 0 < length) (h : n < 16 ^ length) :
    (padded length n).length = length := by
  have hshort := length_digits_le hlength h
  rw [padded, List.length_append, List.length_replicate]
  omega

lemma exists_digit_of_mem_padded {length n : Nat} {c : Char} (h : c ∈ padded length n) :
    ∃ value < 16, c = digit value := by
  rcases List.mem_append.mp h with hzero | hdigit
  · exact ⟨0, by omega, List.eq_of_mem_replicate hzero⟩
  · exact exists_digit_of_mem_digits hdigit

lemma readFrom_zeros (count : Nat) (text : List Char) :
    readFrom (some 0) (List.replicate count '0' ++ text) = readFrom (some 0) text := by
  induction count with
  | zero => rfl
  | succ count ih => exact ih

/-- Zeros on the left do not matter. -/
theorem ofDigits_padded (length n : Nat) : ofDigits (padded length n) = some n := by
  have hne : padded length n ≠ [] := by simp [padded, digits_ne_nil]
  rw [ofDigits_eq_readFrom hne, padded, readFrom_zeros, readFrom_digits]

/-! ### Digits in the order of numbers -/

lemma digit_eq_digitChar {value : Nat} (h : value < 16) : digit value = value.digitChar := by
  interval_cases value <;> rfl

/-- The digits are the usual ones. -/
theorem digits_eq_toDigits (n : Nat) : digits n = Nat.toDigits 16 n := by
  induction n using digits.induct with
  | case1 n h => rw [digits_of_lt h, Nat.toDigits_of_lt_base h, digit_eq_digitChar h]
  | case2 n h ih =>
    rw [digits_of_le (by omega), ih, digit_eq_digitChar (Nat.mod_lt n (by omega)),
      Nat.toDigits_eq_if (by omega) (n := n), if_neg h]

lemma lt_pow_length_digits (n : Nat) : n < 16 ^ (digits n).length := by
  have hsome : 0 < (digits n).length := List.length_pos_iff.mpr (digits_ne_nil n)
  rw [digits_eq_toDigits] at hsome ⊢
  exact (Nat.length_toDigits_le_iff (by omega) hsome).mp le_rfl

/-- No number but zero has a zero for its first digit. -/
lemma head?_digits_ne {n : Nat} (h : n ≠ 0) : (digits n).head? ≠ some '0' := by
  induction n using digits.induct with
  | case1 n hn =>
    rw [digits_of_lt hn]
    interval_cases n <;> simp_all [digit]
  | case2 n hn ih =>
    rw [digits_of_le (by omega), List.head?_append_of_ne_nil _ (digits_ne_nil _)]
    exact ih (by omega)

lemma digit_lt_digit_iff {first second : Nat} (hfirst : first < 16) (hsecond : second < 16) :
    digit first < digit second ↔ first < second := by
  have hall : ∀ first < 16, ∀ second < 16, digit first < digit second ↔ first < second := by decide
  exact hall first hfirst second hsecond

lemma padded_succ {length : Nat} (hlength : 0 < length) (n : Nat) :
    padded (length + 1) n = padded length (n / 16) ++ [digit (n % 16)] := by
  rcases Nat.lt_or_ge n 16 with h | h
  · -- one digit, behind zeros only
    have hzeros : List.replicate (length - 1) '0' ++ ['0'] = List.replicate length '0' := by
      rw [← List.replicate_succ', Nat.sub_add_cancel hlength]
    rw [padded, padded, digits_of_lt h, Nat.div_eq_of_lt h, Nat.mod_eq_of_lt h,
      digits_of_lt (by omega)]
    exact congrArg (· ++ [digit n]) hzeros.symm
  · rw [padded, padded, digits_of_le h, List.length_append, List.length_singleton,
      Nat.add_sub_add_right, List.append_assoc]

lemma concat_lt_concat_iff {text other : List Char} (h : text.length = other.length) (c d : Char) :
    text ++ [c] < other ++ [d] ↔ text < other ∨ text = other ∧ c < d := by
  induction text generalizing other with
  | nil =>
    obtain rfl : other = [] := List.eq_nil_of_length_eq_zero h.symm
    simp [List.cons_lt_cons_iff]
  | cons first text ih =>
    obtain ⟨second, other, rfl⟩ := List.exists_cons_of_length_eq_add_one h.symm
    simp only [List.cons_append, List.cons_lt_cons_iff, ih (by simpa using h), List.cons.injEq]
    tauto

/-- Texts of a given length are in the order of the numbers. -/
lemma padded_lt_padded_of_lt {length m n : Nat} (hlength : 0 < length) (hm : m < 16 ^ length)
    (hn : n < 16 ^ length) : padded length m < padded length n ↔ m < n := by
  induction length, hlength using Nat.le_induction generalizing m n with
  | base =>
    rw [padded, padded, digits_of_lt hm, digits_of_lt hn]
    simpa [List.cons_lt_cons_iff] using digit_lt_digit_iff hm hn
  | succ length hlength ih =>
    rw [Nat.pow_succ'] at hm hn
    have hmhigh : m / 16 < 16 ^ length := Nat.div_lt_of_lt_mul hm
    have hnhigh : n / 16 < 16 ^ length := Nat.div_lt_of_lt_mul hn
    have hsame : padded length (m / 16) = padded length (n / 16) ↔ m / 16 = n / 16 := by
      refine ⟨fun htexts => ?_, congrArg _⟩
      have hread := ofDigits_padded length (m / 16)
      rw [htexts, ofDigits_padded] at hread
      exact (Option.some.inj hread).symm
    rw [padded_succ hlength, padded_succ hlength,
      concat_lt_concat_iff (by rw [length_padded hlength hmhigh, length_padded hlength hnhigh]),
      ih hmhigh hnhigh, hsame,
      digit_lt_digit_iff (Nat.mod_lt m (by omega)) (Nat.mod_lt n (by omega))]
    omega

lemma length_padded_eq (length n : Nat) :
    (padded length n).length = max length (digits n).length := by
  rw [padded, List.length_append, List.length_replicate]
  omega

/-- A text that is longer than it has to be was not padded. -/
lemma padded_length_padded (length n : Nat) :
    padded (padded length n).length n = padded length n := by
  have hzeros : max length (digits n).length - (digits n).length = length - (digits n).length := by
    omega
  rw [length_padded_eq, padded, padded, hzeros]

/-- Texts of one length, whatever it is, are in the order of the numbers. -/
theorem padded_lt_padded_iff {length m n : Nat}
    (h : (padded length m).length = (padded length n).length) :
    padded length m < padded length n ↔ m < n := by
  have hroom : ∀ number, (digits number).length ≤ (padded length number).length := by
    intro number
    rw [length_padded_eq]
    exact le_max_right _ _
  have hlt : ∀ number, number < 16 ^ (padded length number).length := fun number =>
    (lt_pow_length_digits number).trans_le (Nat.pow_le_pow_right (by omega) (hroom number))
  have hsome : 0 < (padded length m).length :=
    (List.length_pos_iff.mpr (digits_ne_nil m)).trans_le (hroom m)
  have hm := padded_length_padded length m
  have hn := padded_length_padded length n
  rw [← h] at hn
  rw [← hm, ← hn]
  exact padded_lt_padded_of_lt hsome (hlt m) (h ▸ hlt n)

/-! ### Integers with a sign -/

/-- The integer that a text with a sign and the marker `0x` stands for. -/
def readSigned : List Char → Option Int
  | '-' :: '0' :: 'x' :: text => (ofDigits text).map fun n : Nat => -(n : Int)
  | '0' :: 'x' :: text => (ofDigits text).map Int.ofNat
  | _ => none

/-- Reading the text of an integer gives the integer back. -/
theorem readSigned_signed (n : Int) : readSigned (signed n).toList = some n := by
  by_cases h : n < 0
  · have htext : (signed n).toList = '-' :: '0' :: 'x' :: digits n.natAbs := by
      simp [signed, h]
    rw [htext, readSigned, ofDigits_digits, Option.map_some]
    congr 1
    omega
  · have htext : (signed n).toList = '0' :: 'x' :: digits n.natAbs := by
      simp [signed, h]
    rw [htext, readSigned, ofDigits_digits, Option.map_some]
    congr 1
    exact Int.natAbs_of_nonneg (by omega)

end Hex
end BinaryDiff
