import BinaryDiff.Proofs.Store.Failures

/-!
# The order of cells

A database sorts cells by what they hold: nothing first, then the numbers by their values, then the
texts and then the blobs, both byte by byte (`Cell.Precedes`).  Rows are sorted by a column in this
order, and rows that tie in it stay as they are stored; so of two rows the one that is stored second
comes first exactly if it precedes the other (`Table.Ranked.sorted_eq`).
-/

namespace BinaryDiff

namespace Cell

/-- The order of cells.  By rank nothing comes before the numbers, these before the texts and these
before the blobs; the value of a number, integer or double, is the position that it has among the
multiples of the smallest double. -/
inductive Precedes : Cell → Cell → Prop
  | ofRanks {a b : Cell} : a.rank < b.rank → Precedes a b
  | ofNumbers {a b : Cell} : a.rank = 1 → b.rank = 1 → a.position < b.position → Precedes a b
  | ofTexts {a b : List UInt8} : a < b → Precedes (.text a) (.text b)
  | ofBlobs {a b : List UInt8} : a < b → Precedes (.blob a) (.blob b)

/-- Bytes are compared like the letters of words. -/
lemma bytesUpTo_iff_not_lt (a b : List UInt8) : bytesUpTo a b = true ↔ ¬ b < a := by
  induction a generalizing b with
  | nil => simp [bytesUpTo]
  | cons x as ih =>
    cases b with
    | nil => simp [bytesUpTo]
    | cons y bs =>
      have htotal : x < y ∨ x = y ∨ y < x := by
        rcases Nat.lt_trichotomy x.toNat y.toNat with h | h | h
        · exact .inl h
        · exact .inr (.inl (UInt8.toNat_inj.mp h))
        · exact .inr (.inr h)
      simp only [bytesUpTo, List.cons_lt_cons_iff, Bool.or_eq_true, Bool.and_eq_true,
        decide_eq_true_eq, beq_iff_eq, ih]
      rcases htotal with h | rfl | h
      · simp [h, UInt8.lt_asymm h, (UInt8.ne_of_lt h).symm]
      · simp [UInt8.lt_irrefl]
      · simp [h, UInt8.lt_asymm h, (UInt8.ne_of_lt h).symm]

lemma upTo_of_rank_lt {a b : Cell} (h : a.rank < b.rank) : a.upTo b = true := by
  simp [upTo, h]

lemma upTo_numbers {a b : Cell} (ha : a.rank = 1) (hb : b.rank = 1) :
    a.upTo b = true ↔ a.position ≤ b.position := by
  simp [upTo, ha, hb]

lemma upTo_bytes {a b : Cell} (hrank : a.rank = b.rank) (hbytes : a.rank ≠ 1) :
    a.upTo b = true ↔ ¬ b.bytes < a.bytes := by
  simp [upTo, ← hrank, hbytes, bytesUpTo_iff_not_lt]

lemma not_upTo_of_precedes {a b : Cell} (h : b.Precedes a) : ¬ a.upTo b = true := by
  cases h with
  | ofRanks hlt =>
    have hne : a.rank ≠ b.rank := by omega
    simp [upTo, hne, Nat.le_of_lt hlt]
  | ofNumbers hb ha hlt =>
    rw [upTo_numbers ha hb]
    omega
  | @ofTexts first second hlt =>
    have hiff := @upTo_bytes (.text second) (.text first) rfl (by simp [rank])
    exact fun hupTo => hiff.mp hupTo hlt
  | @ofBlobs first second hlt =>
    have hiff := @upTo_bytes (.blob second) (.blob first) rfl (by simp [rank])
    exact fun hupTo => hiff.mp hupTo hlt

lemma upTo_of_not_precedes {a b : Cell} (h : ¬ b.Precedes a) : a.upTo b = true := by
  rcases Nat.lt_trichotomy a.rank b.rank with hlt | heq | hgt
  · exact upTo_of_rank_lt hlt
  · by_cases hnumber : a.rank = 1
    · have hb : b.rank = 1 := by omega
      rw [upTo_numbers hnumber hb]
      by_contra hlt
      exact h (.ofNumbers hb hnumber (by omega))
    · rw [upTo_bytes heq hnumber]
      intro hlt
      -- only texts and blobs have bytes that could differ
      cases a with
      | null => exact absurd hlt (List.not_lt_nil _)
      | integer | real => exact hnumber rfl
      | text bytes =>
        cases b with
        | text => exact h (.ofTexts hlt)
        | null | integer | real | blob => cases heq
      | blob bytes =>
        cases b with
        | blob => exact h (.ofBlobs hlt)
        | null | integer | real | text => cases heq
  · exact absurd (.ofRanks hgt) h

/-- In the sort a cell comes before another, or beside it, unless the other precedes it. -/
theorem upTo_iff_not_precedes {a b : Cell} : a.upTo b = true ↔ ¬ b.Precedes a :=
  ⟨fun hupTo hprecedes => not_upTo_of_precedes hprecedes hupTo, upTo_of_not_precedes⟩

lemma Precedes.asymm {a b : Cell} (h : a.Precedes b) : ¬ b.Precedes a := by
  intro hreverse
  cases h with
  | ofRanks hlt =>
    cases hreverse with
    | ofRanks hgt => omega
    | ofNumbers hb ha => omega
    | ofTexts | ofBlobs => exact Nat.lt_irrefl _ hlt
  | ofNumbers ha hb hlt =>
    cases hreverse with
    | ofRanks hgt => omega
    | ofNumbers _ _ hgt => omega
    | ofTexts | ofBlobs => cases hb
  | ofTexts hlt =>
    cases hreverse with
    | ofRanks hgt => exact Nat.lt_irrefl _ hgt
    | ofNumbers hb => cases hb
    | ofTexts hgt => exact List.lt_asymm hlt hgt
  | ofBlobs hlt =>
    cases hreverse with
    | ofRanks hgt => exact Nat.lt_irrefl _ hgt
    | ofNumbers hb => cases hb
    | ofBlobs hgt => exact List.lt_asymm hlt hgt

instance (a b : Cell) : Decidable (a.Precedes b) :=
  decidable_of_iff (¬ b.upTo a = true) (by rw [upTo_iff_not_precedes, not_not])

end Cell

namespace Table

variable {table twin : Table} {key : String} {lower higher first second : List Cell}

/-- Whether a table has two rows, and in the order of a column one comes first and the other second:
rows that tie are in the order in which they are stored. -/
inductive Ranked (table : Table) (key : String) (lower higher : List Cell) : Prop
  | inOrder : table.rows = [lower, higher] →
      ¬ (table.stored key higher).cell.Precedes (table.stored key lower).cell →
      Ranked table key lower higher
  | exchanged : table.rows = [higher, lower] →
      (table.stored key lower).cell.Precedes (table.stored key higher).cell →
      Ranked table key lower higher

lemma exists_ranked (h : table.rows.length = 2) (key : String) :
    ∃ lower higher, table.Ranked key lower higher := by
  obtain ⟨first, second, hrows⟩ : ∃ first second, table.rows = [first, second] := by
    match hrows : table.rows with
    | [first, second] => exact ⟨first, second, rfl⟩
    | [] | [_] | _ :: _ :: _ :: _ => simp [hrows] at h
  by_cases hprecedes : (table.stored key second).cell.Precedes (table.stored key first).cell
  · exact ⟨second, first, .exchanged hrows hprecedes⟩
  · exact ⟨first, second, .inOrder hrows hprecedes⟩

/-- The rows of a table of two come in their order. -/
theorem Ranked.sorted_eq (h : table.Ranked key lower higher) :
    table.sorted key = [lower, higher] := by
  cases h with
  | inOrder hrows hprecedes =>
    rw [sorted_of_two hrows, if_pos (Cell.upTo_iff_not_precedes.mpr hprecedes)]
  | exchanged hrows hprecedes =>
    rw [sorted_of_two hrows, if_neg]
    rw [Cell.upTo_iff_not_precedes]
    exact not_not_intro hprecedes

/-- If two rows do not tie, it does not matter which of them is stored first. -/
lemma sorted_of_exchanged (hcolumns : twin.columns = table.columns)
    (hrows : table.rows = [first, second]) (htwin : twin.rows = [second, first])
    (hdiffer : (table.stored key first).cell.Precedes (table.stored key second).cell ∨
      (table.stored key second).cell.Precedes (table.stored key first).cell) :
    twin.sorted key = table.sorted key := by
  have hstored : twin.stored = table.stored := stored_congr hcolumns
  rcases hdiffer with hprecedes | hprecedes
  · have hown : table.Ranked key first second := .inOrder hrows hprecedes.asymm
    have hother : twin.Ranked key first second := .exchanged htwin (by rwa [hstored])
    rw [hown.sorted_eq, hother.sorted_eq]
  · have hown : table.Ranked key second first := .exchanged hrows hprecedes
    have hother : twin.Ranked key second first :=
      .inOrder htwin (by rw [hstored]; exact hprecedes.asymm)
    rw [hown.sorted_eq, hother.sorted_eq]

lemma Ranked.mem_rows (h : table.Ranked key lower higher) {row : List Cell} :
    row ∈ table.rows ↔ row = lower ∨ row = higher := by
  have hsorted : row ∈ table.sorted key ↔ row ∈ table.rows := mem_sorted
  rw [← hsorted, h.sorted_eq]
  simp

end Table
end BinaryDiff
