import BinaryDiff.Proofs.Cursor.Rows
import Mathlib.Data.Int.ModEq

/-!
# Addresses in signed integers

A stored integer of 64 bits with a sign stands for exactly one address of 64 bits, the one that is
congruent to it, and each address is stood for by exactly one integer, which has the same bits.
Reading an integer under a width gives this address, or nothing if it needs more bits
(`toAddress_exact`): no two integers are read as one address, and none is cut down to fit.
-/

namespace BinaryDiff

/-- Whether an address of 64 bits is the one that a stored integer stands for. -/
structure StandsFor (raw : Int64) (address : Int) : Prop where
  nonneg : 0 ≤ address
  lt : address < 2 ^ 64
  congruent : address ≡ raw.toInt [ZMOD 2 ^ 64]

/-- The stored integer with the bits of an address. -/
def signedReading (address : Int) : Int64 := (UInt64.ofNat address.toNat).toInt64

/-- The upper half of the addresses is read as negative. -/
lemma toInt_signedReading {address : Int} (hnonneg : 0 ≤ address) (hlt : address < 2 ^ 64) :
    (signedReading address).toInt = if address < 2 ^ 63 then address else address - 2 ^ 64 := by
  have hbits : (signedReading address).toInt = (address.toNat : Int).bmod (2 ^ 64) := by
    rw [signedReading, UInt64.toInt64_ofNat', Int64.toInt_ofNat']
    rfl
  have hself : (address.toNat : Int) = address := Int.toNat_of_nonneg hnonneg
  rw [hbits, hself, Int.bmod_def]
  split <;> split <;> omega

namespace StandsFor

variable {raw other : Int64} {address : Int}

/-- The address of an integer is its remainder. -/
lemma iff_eq_emod : StandsFor raw address ↔ address = raw.toInt % 2 ^ 64 := by
  constructor
  · intro h
    have hself : address % 2 ^ 64 = address := Int.emod_eq_of_lt h.nonneg h.lt
    rw [← hself]
    exact h.congruent
  · rintro rfl
    have hpositive : (0 : Int) < 2 ^ 64 := by decide
    exact ⟨Int.emod_nonneg _ hpositive.ne', Int.emod_lt_of_pos _ hpositive,
      Int.mod_modEq raw.toInt (2 ^ 64)⟩

lemma existsUnique (raw : Int64) : ∃! address, StandsFor raw address :=
  ⟨raw.toInt % 2 ^ 64, iff_eq_emod.mpr rfl, fun _ h => iff_eq_emod.mp h⟩

/-- The bits of its address give an integer back. -/
lemma signedReading_eq (h : StandsFor raw address) : signedReading address = raw := by
  have hsigned := toInt_signedReading h.nonneg h.lt
  have hmod := iff_eq_emod.mp h
  have hle := raw.le_toInt
  have hlt := raw.toInt_lt
  apply Int64.toInt_inj.mp
  rw [hsigned]
  split <;> omega

/-- Each address is the one of the integer with its bits. -/
lemma of_signedReading (hnonneg : 0 ≤ address) (hlt : address < 2 ^ 64) :
    StandsFor (signedReading address) address := by
  rw [iff_eq_emod, toInt_signedReading hnonneg hlt]
  split <;> omega

end StandsFor

section Reading

variable {raw : Int64} {address : Int} {width : Nat}

/-- What is read is the address of the integer, if that has no more bits than the width. -/
lemma toAddress_eq_some_iff :
    toAddress raw.toInt width = some address ↔ StandsFor raw address ∧ address < 2 ^ width := by
  rw [toAddress_toInt, StandsFor.iff_eq_emod, Option.ite_none_right_eq_some, Option.some.injEq]
  constructor
  · rintro ⟨hfits, rfl⟩
    exact ⟨rfl, hfits⟩
  · rintro ⟨rfl, hfits⟩
    exact ⟨hfits, rfl⟩

lemma StandsFor.toAddress_eq (h : StandsFor raw address) (width : Nat) :
    toAddress raw.toInt width = if address < 2 ^ width then some address else none := by
  rw [toAddress_toInt, ← iff_eq_emod.mp h]

/-- An address is read from the integer with its bits and from no other. -/
lemma toAddress_eq_some_iff_eq_signedReading (hwidth : width ≤ 64) (hnonneg : 0 ≤ address)
    (hfits : address < 2 ^ width) :
    toAddress raw.toInt width = some address ↔ raw = signedReading address := by
  have hpow : (2 : Int) ^ width ≤ 2 ^ 64 := pow_le_pow_right₀ (by decide) hwidth
  rw [toAddress_eq_some_iff]
  constructor
  · rintro ⟨hstands, -⟩
    exact hstands.signedReading_eq.symm
  · rintro rfl
    exact ⟨.of_signedReading hnonneg (by omega), hfits⟩

end Reading

/-- A stored integer is read as the one address of 64 bits that is congruent to it, if this fits the
width, and else not at all.  So no two integers are read as the same address, the bits of the
address give the integer back, and each address that fits the width is read from exactly one
integer: itself below `2 ^ 63`, and less by `2 ^ 64` from there on.  A smaller width changes no
address, it only leaves some out. -/
theorem toAddress_exact {width : Nat} (hwidth : width ≤ 64) :
    (∀ raw : Int64, (∃! address, StandsFor raw address) ∧
      ∀ address, StandsFor raw address →
        toAddress raw.toInt width = if address < 2 ^ width then some address else none) ∧
    (∀ raw other : Int64, (toAddress raw.toInt width).isSome →
      toAddress other.toInt width = toAddress raw.toInt width → other = raw) ∧
    (∀ address : Int, 0 ≤ address → address < 2 ^ width →
      ∃ raw : Int64, raw.toInt = (if address < 2 ^ 63 then address else address - 2 ^ 64) ∧
        ∀ other : Int64, toAddress other.toInt width = some address ↔ other = raw) ∧
    (∀ (raw : Int64) (address : Int), toAddress raw.toInt width = some address →
      signedReading address = raw) ∧
    ∀ (raw : Int64) (address : Int), toAddress raw.toInt width = some address ↔
      toAddress raw.toInt 64 = some address ∧ address < 2 ^ width := by
  have hpow : (2 : Int) ^ width ≤ 2 ^ 64 := pow_le_pow_right₀ (by decide) hwidth
  refine ⟨fun raw => ⟨StandsFor.existsUnique raw, fun address h => h.toAddress_eq width⟩,
    ?_, ?_, ?_, ?_⟩
  · -- both integers are the one with the bits of the address
    intro raw other hread heq
    obtain ⟨address, haddress⟩ := Option.isSome_iff_exists.mp hread
    have hraw := (toAddress_eq_some_iff.mp haddress).1
    have hother := (toAddress_eq_some_iff.mp (heq.trans haddress)).1
    rw [← hother.signedReading_eq, hraw.signedReading_eq]
  · intro address hnonneg hfits
    have hlt : address < 2 ^ 64 := by omega
    refine ⟨signedReading address, toInt_signedReading hnonneg hlt, fun other => ?_⟩
    exact toAddress_eq_some_iff_eq_signedReading hwidth hnonneg hfits
  · intro raw address hread
    exact (toAddress_eq_some_iff.mp hread).1.signedReading_eq
  · intro raw address
    rw [toAddress_eq_some_iff, toAddress_eq_some_iff]
    constructor
    · rintro ⟨hstands, hfits⟩
      exact ⟨⟨hstands, hstands.lt⟩, hfits⟩
    · rintro ⟨⟨hstands, -⟩, hfits⟩
      exact ⟨hstands, hfits⟩

/-- The lowest integer stands for the first address of the upper half, which needs all 64 bits. -/
theorem toAddress_exact_lowest :
    63 ≤ 64 ∧ 64 ≤ 64 ∧ StandsFor Int64.minValue (2 ^ 63) ∧
      toAddress Int64.minValue.toInt 63 = none ∧
      toAddress Int64.minValue.toInt 64 = some (2 ^ 63) ∧
      signedReading (2 ^ 63) = Int64.minValue := by
  have hstands : StandsFor Int64.minValue (2 ^ 63) := ⟨by decide, by decide, by decide⟩
  obtain ⟨hshort, -⟩ := @toAddress_exact 63 (by decide)
  obtain ⟨hfull, -, -, hreading, -⟩ := @toAddress_exact 64 (by decide)
  have hread := (hfull Int64.minValue).2 _ hstands
  rw [if_pos (by decide)] at hread
  refine ⟨by decide, by decide, hstands, ?_, hread, hreading _ _ hread⟩
  rw [(hshort Int64.minValue).2 _ hstands, if_neg (by decide)]

end BinaryDiff
