import BinaryDiff.Proofs.Delivery.Delivered

/-!
# The bounds of what is read

Under a width that is not negative no reading fails for its width, and every address that is read is
below the power of two of the width.  Both hold of a single stored integer, and from there of the
matches of any cursor (`RowReader.within_of_mem_feed`) and of the calls of any parse
(`within_of_mem_calls`), whatever the sinks do.
-/

namespace BinaryDiff

variable {σ : Type}

/-- Whether the addresses of a match are numbers of some bits. -/
structure AddressPair.Within (bits : Nat) (pair : AddressPair) : Prop where
  primary : 0 ≤ pair.primary ∧ pair.primary < 2 ^ bits
  secondary : 0 ≤ pair.secondary ∧ pair.secondary < 2 ^ bits

lemma AddressPair.Within.mono {bits more : Nat} {pair : AddressPair} (h : pair.Within bits)
    (hle : bits ≤ more) : pair.Within more := by
  have hpow : (2 : Int) ^ bits ≤ 2 ^ more := pow_le_pow_right₀ (by decide) hle
  exact ⟨⟨h.primary.1, h.primary.2.trans_le hpow⟩, ⟨h.secondary.1, h.secondary.2.trans_le hpow⟩⟩

lemma toAddress_bounds {raw address : Int} {width : Nat} (h : toAddress raw width = some address) :
    0 ≤ address ∧ address < 2 ^ width := by
  have hpow : (twoTo width : Int) = 2 ^ width := by simp [twoTo]
  simp only [toAddress, hpow, Option.ite_none_right_eq_some, Option.some.injEq] at h
  obtain ⟨hlt, rfl⟩ := h
  refine ⟨?_, hlt⟩
  split
  · exact Int.emod_nonneg _ (by decide)
  · omega

/-! ### Cursors -/

namespace RowReader

variable {reader : RowReader}

lemma widthChecked_of_nonneg {width : Int} (h : 0 ≤ width) (raw : Int) :
    widthChecked raw width = .ok (toAddress raw width.toNat) :=
  if_neg (Int.not_lt.mpr h)

lemma address_bounds {index : Nat} {column : String} {value : Value} {address : Int}
    (h : reader.address index column value = .ok address) :
    0 ≤ address ∧ address < 2 ^ reader.width.toNat := by
  cases value with
  | integer raw =>
    rw [RowReader.address, widthChecked] at h
    split at h
    · cases h
    · cases h
    · rename_i hraw
      cases h
      split at hraw
      · cases hraw
      · exact toAddress_bounds (Except.ok.inj hraw)
  | null | real | text | blob => cases h

lemma within_of_pair {index : Nat} {row : FetchedRow} {pair : AddressPair}
    (h : reader.pair index row = .ok pair) : pair.Within reader.width.toNat := by
  cases row with
  | error reason => cases h
  | ok values =>
    rw [RowReader.pair] at h
    cases hprimary : reader.address index "address1" (values.getD 0 .null) with
    | error failure =>
      rw [hprimary] at h
      cases h
    | ok primary =>
      rw [hprimary] at h
      cases hsecondary : reader.address index "address2" (values.getD 1 .null) with
      | error failure =>
        rw [hsecondary] at h
        cases h
      | ok secondary =>
        rw [hsecondary] at h
        cases h
        exact ⟨address_bounds hprimary, address_bounds hsecondary⟩

/-- The matches of a cursor are within its width. -/
theorem within_of_mem_feed {index : Nat} {rows : List FetchedRow} {pair : AddressPair}
    (h : pair ∈ (reader.feed index rows).pairs) : pair.Within reader.width.toNat := by
  induction rows generalizing index with
  | nil => cases h
  | cons row rows ih =>
    rw [feed] at h
    split at h
    · cases h
    · rename_i first hfirst
      rcases List.mem_cons.mp h with rfl | h
      · exact within_of_pair hfirst
      · exact ih h

lemma feed_ne_negativeWidth (hwidth : 0 ≤ reader.width) (index : Nat) (rows : List FetchedRow) :
    (reader.feed index rows).failure ≠ some .negativeWidth := by
  intro h
  rcases read_of_feed_eq_some h with hread | ⟨-, hnegative⟩ | ⟨error, -, -, heq⟩
  · cases hread
  · omega
  · cases heq

end RowReader

/-! ### Parses -/

lemma mem_calls_deliver {sinks : Granularity → Sink σ} {granularity : Granularity}
    {path : Option String} {failure : Option Failure} {count : Nat} {pairs : List AddressPair}
    {record : Record σ} {call : Call}
    (h : call ∈ (Dispatch.deliver (recording sinks granularity) granularity path failure count pairs
      record).state.calls) :
    call ∈ record.calls ∨ call.offer.pair ∈ pairs := by
  rw [calls_deliver, List.mem_append] at h
  refine h.imp_right fun hmem => ?_
  obtain ⟨hbegins, -⟩ := callsOn_prefix sinks record.state (pairs.map (Offer.mk granularity))
  obtain ⟨pair, hpair, heq⟩ := List.mem_map.mp (hbegins.subset (List.mem_map_of_mem hmem))
  rw [← heq]
  exact hpair

lemma within_of_mem_calls_deliverTables {store : Store} {width : Int}
    {sinks : Granularity → Sink σ} {granularities : List Granularity} {record : Record σ}
    {call : Call}
    (h : call ∈ (Parse.deliverTables store width (recording sinks) granularities
      record).state.calls) :
    call ∈ record.calls ∨ call.offer.pair.Within width.toNat := by
  induction granularities generalizing record with
  | nil => exact .inl h
  | cons granularity others ih =>
    rw [Parse.deliverTables_cons, MatchCursor.query_outcome] at h
    cases hrows : store.execute (.matchesOf granularity) with
    | error failure =>
      rw [hrows] at h
      exact .inl h
    | ok rows =>
      rw [hrows] at h
      have hdelivery : ∀ {call : Call},
          call ∈ (dispatch (recording sinks granularity) granularity (some store.path)
            (RowReader.feed ⟨store.path, granularity, width⟩ 0 rows) record).state.calls →
          call ∈ record.calls ∨ call.offer.pair.Within width.toNat :=
        fun hmem => (mem_calls_deliver hmem).imp_right RowReader.within_of_mem_feed
      simp only [Except.map] at h
      split at h
      · exact hdelivery h
      · rcases ih h with hmem | hwithin
        · exact hdelivery hmem
        · exact .inr hwithin

section Parse

variable {around : Surroundings} {request : ParseRequest}

/-- The matches that a parse hands to its sinks are within its width. -/
theorem within_of_mem_calls {sinks : Granularity → Sink σ} {state : σ} {call : Call}
    (h : call ∈ (parse around request (recording sinks) ⟨state, []⟩).state.calls) :
    call.offer.pair.Within request.width.toNat := by
  have hnone : call ∉ (⟨state, []⟩ : Record σ).calls := List.not_mem_nil
  rw [parse, Parse.run] at h
  cases hopened : (Store.openAt around request.given).outcome with
  | error failure =>
    rw [hopened] at h
    exact absurd h hnone
  | ok store =>
    rw [hopened] at h
    simp only at h
    cases hprepared : (Parse.prepare store request.metadataRequested).outcome with
    | error failure =>
      rw [hprepared] at h
      exact absurd h hnone
    | ok metadata =>
      rw [hprepared] at h
      simp only at h
      split at h <;> exact (within_of_mem_calls_deliverTables h).resolve_left hnone

lemma deliverTables_ne_negativeWidth {store : Store} {width : Int} (hwidth : 0 ≤ width)
    (sinks : Granularity → Sink σ) (granularities : List Granularity) (state : σ) :
    (Parse.deliverTables store width sinks granularities state).outcome
      ≠ .error .negativeWidth := by
  intro h
  have hend := deliveryEnd_deliverTables sinks store width .plain granularities state
  rw [h] at hend
  generalize hfailure : Failure.negativeWidth = failure at hend
  cases hend with
  | unqueried _ hrows =>
    subst hfailure
    rcases Store.execute_failure hrows with hread | ⟨error, heq⟩
    · cases hread
    · cases heq
  | unread _ _ hfeed =>
    subst hfailure
    exact RowReader.feed_ne_negativeWidth hwidth _ _ hfeed
  | @refused _ _ _ _ _ _ complaint =>
    -- a complaint becomes a rejection, or else it is a request to stop or was never found words for
    rw [Dispatch.refusal] at hfailure
    cases complaint <;> cases hfailure

/-- No parse under a width that is not negative fails for its width, whatever the sinks do. -/
theorem parse_ne_negativeWidth (hwidth : 0 ≤ request.width) (sinks : Granularity → Sink σ)
    (state : σ) : (parse around request sinks state).outcome ≠ .error .negativeWidth := by
  intro h
  rw [parse_outcome] at h
  rcases Except.bind_eq_error h with hopening | ⟨store, -, h⟩
  · rcases Store.openAt_failure hopening with heq | hread | hunopened
    · cases heq
    · cases hread
    · cases hunopened
  rcases Except.bind_eq_error h with hpreparing | ⟨metadata, -, h⟩
  · rw [Parse.prepare_outcome] at hpreparing
    rcases Except.bind_eq_error hpreparing with hchecking | ⟨⟨⟩, -, hrecords⟩
    · obtain hread | ⟨error, heq⟩ := Store.requireTables_failure hchecking
      · cases hread
      · cases heq
    · split at hrecords
      · rcases Except.bind_eq_error hrecords with hextract | ⟨pair, -, hdone⟩
        · rcases Metadata.extract_failure hextract with hread | ⟨error, heq⟩
          · cases hread
          · cases heq
        · cases hdone
      · cases hrecords
  · rcases Except.bind_eq_error h with htables | ⟨counts, -, hdone⟩
    · exact deliverTables_ne_negativeWidth hwidth sinks _ state htables
    · cases hdone

end Parse
end BinaryDiff
