import BinaryDiff.Report.Digest
import Mathlib.Data.List.Basic
import Mathlib.Data.List.Induction
import Mathlib.Tactic.Common

/-!
# Tallies of pages

When the pages of some addresses are counted one after the other, each has in the end as many
addresses as lie in it, and the pages stand in the order in which the first of these came
(`Tally.ofPages_eq`).  Those that are shown are the most frequent ones.  Since sorting by frequency
is stable, pages that are equally frequent keep their order, also where the last of them are cut
off (`Tally.ranking`).
-/

namespace BinaryDiff

lemma total_perm {numbers others : List Nat} (h : numbers.Perm others) :
    total numbers = total others := by
  induction h with
  | nil => rfl
  | cons n _ ih => exact congrArg (n + ·) ih
  | swap n other numbers => exact Nat.add_left_comm other n (total numbers)
  | trans _ _ ih hrest => exact ih.trans hrest

/-! ### Lists without repetitions -/

lemma eraseDups_append_singleton (items : List Int) (item : Int) :
    (items ++ [item]).eraseDups
      = if item ∈ items then items.eraseDups else items.eraseDups ++ [item] := by
  rw [List.eraseDups_append]
  by_cases h : item ∈ items
  · simp [List.removeAll, h]
  · simp [List.removeAll, h, List.eraseDups_cons]

/-- What is left of a list without repetitions stands in the order of first appearance. -/
lemma pairwise_idxOf_eraseDups (items : List Int) :
    items.eraseDups.Pairwise fun a b => items.idxOf a < items.idxOf b := by
  induction items using List.reverseRecOn with
  | nil => exact .nil
  | append_singleton items item ih =>
    have hbefore : items.eraseDups.Pairwise fun a b =>
        (items ++ [item]).idxOf a < (items ++ [item]).idxOf b := by
      refine ih.imp_of_mem fun ha hb hlt => ?_
      rwa [List.idxOf_append_of_mem (List.mem_eraseDups.mp ha),
        List.idxOf_append_of_mem (List.mem_eraseDups.mp hb)]
    rw [eraseDups_append_singleton]
    split
    · exact hbefore
    · rename_i hnew
      refine List.pairwise_append.mpr ⟨hbefore, List.pairwise_singleton _ _, fun a ha b hb => ?_⟩
      have hlt := List.idxOf_lt_length_of_mem (List.mem_eraseDups.mp ha)
      rw [List.mem_singleton.mp hb, List.idxOf_append_of_mem (List.mem_eraseDups.mp ha),
        List.idxOf_append_of_notMem hnew]
      exact Nat.lt_add_right _ hlt

lemma nodup_eraseDups (items : List Int) : items.eraseDups.Nodup :=
  (pairwise_idxOf_eraseDups items).imp fun hlt heq => Nat.ne_of_lt hlt (congrArg items.idxOf heq)

/-- A stable sort keeps an order that the items had before, as far as the sort itself does not tell
them apart. -/
theorem pairwise_mergeSort_of_pairwise {α : Type} {le : α → α → Bool} {before : α → α → Prop}
    (htrans : ∀ a b c, le a b → le b c → le a c) (htotal : ∀ a b, le a b || le b a)
    {items : List α} (h : items.Pairwise before) :
    (items.mergeSort le).Pairwise fun a b => le a b ∧ (le b a → before a b) := by
  -- the places of the items decide where the sort does not
  rw [← List.mergeSort_zipIdx, List.pairwise_map]
  have hsorted := List.pairwise_mergeSort (List.zipIdxLE_trans htrans) (List.zipIdxLE_total htotal)
    items.zipIdx
  have hplaces : (items.zipIdx.mergeSort (List.zipIdxLE le)).Pairwise fun a b => a.2 ≠ b.2 := by
    refine ((List.mergeSort_perm _ _).pairwise_iff Ne.symm).mpr ?_
    rw [← List.pairwise_map, List.zipIdx_map_snd]
    exact List.nodup_range'
  refine (hsorted.and hplaces).imp_of_mem fun {a b} ha hb hboth => ?_
  obtain ⟨hle, hne⟩ := hboth
  rw [List.zipIdxLE] at hle
  split at hle
  · rename_i hfirst
    refine ⟨hfirst, fun hsecond => ?_⟩
    rw [if_pos hsecond, decide_eq_true_eq] at hle
    obtain ⟨hplace, hitem⟩ := List.getElem?_eq_some_iff.mp
      (List.mem_zipIdx_iff_getElem?.mp (List.mem_mergeSort.mp ha))
    obtain ⟨hnext, hother⟩ := List.getElem?_eq_some_iff.mp
      (List.mem_zipIdx_iff_getElem?.mp (List.mem_mergeSort.mp hb))
    rw [← hitem, ← hother]
    exact List.pairwise_iff_getElem.mp h _ _ hplace hnext (Nat.lt_of_le_of_ne hle hne)
  · exact absurd hle Bool.false_ne_true

namespace Tally

variable {page address : Int} {tally : Tally}

/-! ### Counting -/

/-- The tally of some pages. -/
def ofPages (pages : List Int) : Tally := pages.foldl (fun tally page => tally.add page) []

lemma ofPages_append_singleton (pages : List Int) (page : Int) :
    ofPages (pages ++ [page]) = (ofPages pages).add page := by
  rw [ofPages, List.foldl_append, ← ofPages]
  rfl

/-- A page that was counted before is counted once more. -/
lemma add_of_mem {pages : List Int} (hnodup : pages.Nodup) (hmem : page ∈ pages)
    (count : Int → Nat) :
    add page (pages.map fun page => (page, count page))
      = pages.map fun other => (other, count other + if other = page then 1 else 0) := by
  induction pages with
  | nil => cases hmem
  | cons other pages ih =>
    obtain ⟨hother, hpages⟩ := List.nodup_cons.mp hnodup
    rw [List.map_cons, List.map_cons, add]
    by_cases hsame : other = page
    · -- it is counted here, and the pages after it are others
      rw [if_pos hsame, if_pos hsame]
      refine congrArg _ (List.map_congr_left fun later hlater => ?_)
      rw [if_neg]
      · rfl
      · rintro rfl
        exact hother (hsame ▸ hlater)
    · have hlater := (List.mem_cons.mp hmem).resolve_left (Ne.symm hsame)
      rw [if_neg hsame, if_neg hsame, ih hpages hlater]
      rfl

/-- A page that was not counted before comes to the end. -/
lemma add_of_not_mem {pages : List Int} (hmem : page ∉ pages) (count : Int → Nat) :
    add page (pages.map fun page => (page, count page))
      = (pages.map fun page => (page, count page)) ++ [(page, 1)] := by
  induction pages with
  | nil => rfl
  | cons other pages ih =>
    obtain ⟨hother, hpages⟩ := not_or.mp (List.mem_cons.not.mp hmem)
    rw [List.map_cons, add, if_neg (Ne.symm hother), ih hpages]
    rfl

/-- Every page has its number of occurrences, in the order of first appearance. -/
theorem ofPages_eq (pages : List Int) :
    ofPages pages = pages.eraseDups.map fun page => (page, pages.count page) := by
  induction pages using List.reverseRecOn with
  | nil => rfl
  | append_singleton pages page ih =>
    -- one page more changes its own count and no other
    have hcount : ∀ other, (pages ++ [page]).count other
        = pages.count other + if other = page then 1 else 0 := by
      intro other
      rw [List.count_append, List.count_singleton]
      by_cases hsame : other = page
      · simp [hsame]
      · simp [hsame, Ne.symm hsame]
    rw [ofPages_append_singleton, ih, eraseDups_append_singleton]
    by_cases hmem : page ∈ pages
    · rw [if_pos hmem, add_of_mem (nodup_eraseDups pages) (List.mem_eraseDups.mpr hmem)]
      simp only [hcount]
    · rw [if_neg hmem, add_of_not_mem (List.mem_eraseDups.not.mpr hmem), List.map_append]
      congr 1
      · refine List.map_congr_left fun other hother => ?_
        have hne : other ≠ page := by
          rintro rfl
          exact hmem (List.mem_eraseDups.mp hother)
        rw [hcount, if_neg hne, Nat.add_zero]
      · simp [List.count_eq_zero_of_not_mem hmem]

lemma total_add (page : Int) (tally : Tally) :
    total ((tally.add page).map Prod.snd) = total (tally.map Prod.snd) + 1 := by
  induction tally with
  | nil => rfl
  | cons entry tally ih =>
    obtain ⟨other, count⟩ := entry
    rw [add]
    split
    · exact Nat.add_right_comm count 1 _
    · exact (congrArg (count + ·) ih).trans (Nat.add_assoc ..).symm

/-- All counts together are the number of pages that were counted. -/
lemma total_ofPages (pages : List Int) : total ((ofPages pages).map Prod.snd) = pages.length := by
  induction pages using List.reverseRecOn with
  | nil => rfl
  | append_singleton pages page ih =>
    rw [ofPages_append_singleton, total_add, ih, List.length_append, List.length_singleton]

/-! ### Pages -/

/-- Whether an address lies in a page. -/
def Holds (page address : Int) : Prop := base page ≤ address ∧ address < base page + 4096

instance (page address : Int) : Decidable (Holds page address) :=
  inferInstanceAs (Decidable (_ ∧ _))

/-- An address lies in its page and in no other. -/
lemma holds_iff : Holds page address ↔ Tally.page address = page := by
  have hsize : (twoTo 12 : Int) = 4096 := rfl
  rw [Holds, base, Tally.page, hsize]
  omega

/-- The place of the first of some addresses that lies in a page. -/
def firstIn (addresses : List Int) (page : Int) : Nat :=
  addresses.findIdx fun address => decide (Holds page address)

lemma firstIn_eq (addresses : List Int) (page : Int) :
    firstIn addresses page = (addresses.map Tally.page).idxOf page := by
  rw [firstIn, List.idxOf, List.findIdx_map]
  congr 1
  funext address
  simp [holds_iff, Bool.beq_eq_decide_eq]

lemma count_eq (addresses : List Int) (page : Int) :
    (addresses.map Tally.page).count page
      = addresses.countP fun address => decide (Holds page address) := by
  rw [List.count, List.countP_map]
  congr 1
  funext address
  simp [holds_iff, Bool.beq_eq_decide_eq]

/-! ### The most frequent pages -/

/-- The tally of some addresses by their pages, of which the first are shown and the others left
out. -/
structure Ranking (addresses : List Int) (shown left : Tally) : Prop where
  length_shown : shown.length = min 5 (shown ++ left).length
  nodup : ((shown ++ left).map Prod.fst).Nodup
  /-- A page has as many addresses as lie in it, and at least one. -/
  counted : ∀ entry ∈ shown ++ left, 0 < entry.2 ∧
    entry.2 = addresses.countP fun address => decide (Holds entry.1 address)
  /-- Every address lies in exactly one page. -/
  covered : ∀ address ∈ addresses, ∃ page, Holds page address ∧
    page ∈ (shown ++ left).map Prod.fst ∧ ∀ other, Holds other address → other = page
  total_eq : total ((shown ++ left).map Prod.snd) = addresses.length
  /-- A page comes before the less frequent ones, and of those that are equally frequent before
  those that appeared later. -/
  ranked : (shown ++ left).Pairwise fun a b =>
    b.2 < a.2 ∨ a.2 = b.2 ∧ firstIn addresses a.1 < firstIn addresses b.1

/-- The pages of a tally, the most frequent ones first. -/
def byFrequency (tally : Tally) : Tally := tally.mergeSort fun a b => b.2 ≤ a.2

lemma byFrequency_perm (tally : Tally) : (byFrequency tally).Perm tally :=
  List.mergeSort_perm _ _

lemma mem_byFrequency {pages : List Int} {entry : Int × Nat}
    (h : entry ∈ byFrequency (ofPages pages)) :
    entry.1 ∈ pages ∧ entry.2 = pages.count entry.1 := by
  rw [(byFrequency_perm _).mem_iff, ofPages_eq] at h
  obtain ⟨page, hpage, rfl⟩ := List.mem_map.mp h
  exact ⟨List.mem_eraseDups.mp hpage, rfl⟩

lemma map_fst_byFrequency_perm (pages : List Int) :
    ((byFrequency (ofPages pages)).map Prod.fst).Perm pages.eraseDups := by
  have hkeys : (ofPages pages).map Prod.fst = pages.eraseDups := by
    rw [ofPages_eq, List.map_map]
    exact List.map_id _
  rw [← hkeys]
  exact (byFrequency_perm _).map _

/-- Pages that are equally frequent keep the order of first appearance. -/
lemma pairwise_byFrequency (pages : List Int) :
    (byFrequency (ofPages pages)).Pairwise fun a b =>
      b.2 < a.2 ∨ a.2 = b.2 ∧ pages.idxOf a.1 < pages.idxOf b.1 := by
  have hfirst : (ofPages pages).Pairwise fun a b => pages.idxOf a.1 < pages.idxOf b.1 := by
    rw [ofPages_eq, List.pairwise_map]
    exact pairwise_idxOf_eraseDups pages
  have htrans : ∀ a b c : Int × Nat, decide (b.2 ≤ a.2) → decide (c.2 ≤ b.2) →
      decide (c.2 ≤ a.2) := by
    simp only [decide_eq_true_eq]
    omega
  have htotal : ∀ a b : Int × Nat, decide (b.2 ≤ a.2) || decide (a.2 ≤ b.2) := by
    simp only [Bool.or_eq_true, decide_eq_true_eq]
    omega
  refine (pairwise_mergeSort_of_pairwise htrans htotal hfirst).imp fun {a b} hboth => ?_
  simp only [decide_eq_true_eq] at hboth
  obtain ⟨hle, hties⟩ := hboth
  obtain heq | hlt := Nat.eq_or_lt_of_le hle
  · exact .inr ⟨heq.symm, hties (Nat.le_of_eq heq.symm)⟩
  · exact .inl hlt

/-- What is shown of the tally of some addresses are the most frequent pages. -/
theorem ranking (addresses : List Int) :
    ∃ left, Ranking addresses
      ((ofPages (addresses.map Tally.page)).mostCommon Digest.shownPages) left := by
  generalize hpages : addresses.map Tally.page = pages
  refine ⟨(byFrequency (ofPages pages)).drop Digest.shownPages, ?_⟩
  rw [mostCommon, ← byFrequency]
  have hkeys := map_fst_byFrequency_perm pages
  constructor
  · rw [List.take_append_drop, List.length_take]
    rfl
  all_goals rw [List.take_append_drop]
  · exact hkeys.nodup_iff.mpr (nodup_eraseDups pages)
  · intro entry hentry
    obtain ⟨hmem, hcount⟩ := mem_byFrequency hentry
    rw [hcount, ← count_eq, hpages]
    exact ⟨List.count_pos_iff.mpr hmem, rfl⟩
  · intro address haddress
    refine ⟨Tally.page address, holds_iff.mpr rfl, ?_, fun other hother =>
      (holds_iff.mp hother).symm⟩
    rw [hkeys.mem_iff, List.mem_eraseDups, ← hpages]
    exact List.mem_map_of_mem haddress
  · rw [total_perm ((byFrequency_perm _).map Prod.snd), total_ofPages, ← hpages, List.length_map]
  · simp only [firstIn_eq, hpages]
    exact pairwise_byFrequency pages

end Tally
end BinaryDiff
