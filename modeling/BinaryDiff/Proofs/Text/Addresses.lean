import BinaryDiff.Address
import BinaryDiff.Proofs.Text.Hex
import Mathlib.Data.String.Basic

/-!
# Addresses read back

The text of an address that is not negative is `0x` and at least eight hexadecimal digits, and
reading these gives the address back (`readSigned_formatAddress`), so different addresses have
different texts.  Of two texts of one length the lesser is that of the lesser address
(`formatAddress_lt_iff`).
-/

namespace BinaryDiff

lemma toList_formatAddress {address : Int} (h : 0 ≤ address) :
    (formatAddress address).toList = '0' :: 'x' :: Hex.padded 8 address.natAbs := by
  rw [formatAddress, if_neg (by omega), String.toList_append]
  simp

lemma mem_formatAddress {address : Int} (h : 0 ≤ address) {c : Char}
    (hc : c ∈ (formatAddress address).toList) : c = 'x' ∨ ∃ value < 16, c = Hex.digit value := by
  rw [toList_formatAddress h, List.mem_cons, List.mem_cons] at hc
  rcases hc with rfl | rfl | hdigit
  · exact .inr ⟨0, by decide, rfl⟩
  · exact .inl rfl
  · exact .inr (Hex.exists_digit_of_mem_padded hdigit)

/-- An address of at most 64 bits takes at most sixteen digits. -/
lemma length_formatAddress_le {address : Int} (h : 0 ≤ address) (hlt : address < 2 ^ 64) :
    (formatAddress address).toList.length ≤ 18 := by
  have hdigits := Hex.length_digits_le (n := address.natAbs) (show 0 < 16 by omega) (by omega)
  rw [toList_formatAddress h, List.length_cons, List.length_cons, Hex.padded, List.length_append,
    List.length_replicate]
  omega

/-- The text of an address reads back as the address. -/
theorem readSigned_formatAddress {address : Int} (h : 0 ≤ address) :
    Hex.readSigned (formatAddress address).toList = some address := by
  rw [toList_formatAddress h, Hex.readSigned, Hex.ofDigits_padded, Option.map_some]
  exact congrArg some (Int.natAbs_of_nonneg h)

/-- The text of an address consists of `0x`, zeros up to eight places, and its digits. -/
lemma toList_formatAddress_natCast (n : ℕ) :
    (formatAddress n).toList = ['0', 'x'] ++
      (List.replicate (8 - (Nat.toDigits 16 n).length) '0' ++ Nat.toDigits 16 n) := by
  rw [toList_formatAddress (Int.natCast_nonneg n), Int.natAbs_natCast, Hex.padded,
    Hex.digits_eq_toDigits]
  rfl

/-- Different addresses have different texts. -/
lemma formatAddress_natCast_injective : Function.Injective fun n : ℕ => formatAddress n := by
  intro m n htexts
  have hread := readSigned_formatAddress (Int.natCast_nonneg m)
  rw [show formatAddress m = formatAddress n from htexts,
    readSigned_formatAddress (Int.natCast_nonneg n)] at hread
  exact (Int.natCast_inj.mp (Option.some.inj hread)).symm

/-- Of two texts of one length the lesser is that of the lesser address. -/
theorem formatAddress_lt_iff {m n : ℕ}
    (h : (formatAddress m).length = (formatAddress n).length) :
    formatAddress m < formatAddress n ↔ m < n := by
  have hm := toList_formatAddress (Int.natCast_nonneg m)
  have hn := toList_formatAddress (Int.natCast_nonneg n)
  rw [Int.natAbs_natCast] at hm hn
  have hlength : (Hex.padded 8 m).length = (Hex.padded 8 n).length := by
    rw [← String.length_toList, ← String.length_toList, hm, hn] at h
    simpa using h
  rw [String.lt_iff_toList_lt, hm, hn]
  simpa [List.cons_lt_cons_iff] using Hex.padded_lt_padded_iff hlength

end BinaryDiff
