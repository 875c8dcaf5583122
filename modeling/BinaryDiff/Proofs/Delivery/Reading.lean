import BinaryDiff.Proofs.Cursor.Passes
import BinaryDiff.Proofs.Delivery.Calls

/-!
# How the reading of match tables ends

A delivery ends in one of three ways: all matches were accepted, the source of the matches failed
after that, or a sink complained (`delivered_deliver`).  The tables are read one after the other, so
the whole reading is described by a single list of rows: either all of them are good and accepted,
or there is a first row at which the reading halts, because it is flawed or because its match is
refused (`reading_deliverTables`).  For a store that was not checked, and for any width, what can
make the reading fail is listed by `DeliveryFailure`.
-/

namespace BinaryDiff

variable {σ : Type} {sinks : Granularity → Sink σ}

/-! ### One delivery -/

/-- The ways in which a delivery ends that starts with some pairs and `count` matches delivered. -/
inductive Delivered (sinks : Granularity → Sink σ) (granularity : Granularity)
    (path : Option String) (failure : Option Failure) (count : Nat) (pairs : List AddressPair)
    (state : σ) : Delivery σ → Prop
  | completed {last : σ} {total : Nat} : failure = none → total = count + pairs.length →
      Accepts sinks state (pairs.map (Offer.mk granularity)) last →
      Delivered sinks granularity path failure count pairs state
        ⟨[Dispatch.completed granularity total], last, total, true, .ok total⟩
  | sourceFailed {last : σ} {total : Nat} {reason : Failure} :
      failure = some reason → total = count + pairs.length →
      Accepts sinks state (pairs.map (Offer.mk granularity)) last →
      Delivered sinks granularity path failure count pairs state
        ⟨[], last, total, true, .error reason⟩
  | refused (before : List AddressPair) {after : List AddressPair} {pair : AddressPair}
      {between last : σ} {index : Nat} {complaint : Failure} :
      pairs = before ++ pair :: after → index = count + before.length →
      Accepts sinks state (before.map (Offer.mk granularity)) between →
      sinks granularity between pair = (last, some complaint) →
      Delivered sinks granularity path failure count pairs state
        ⟨Dispatch.refusalEvents granularity index pair complaint, last, index + 1, false,
          .error (Dispatch.refusal granularity index pair path complaint)⟩

lemma Delivered.cons {granularity : Granularity} {path : Option String} {failure : Option Failure}
    {count : Nat} {pair : AddressPair} {pairs : List AddressPair} {state next : σ}
    {delivery : Delivery σ} (hcall : sinks granularity state pair = (next, none))
    (h : Delivered sinks granularity path failure (count + 1) pairs next delivery) :
    Delivered sinks granularity path failure count (pair :: pairs) state delivery := by
  cases h with
  | completed hfailure htotal haccepts =>
    refine .completed hfailure ?_ (.cons hcall haccepts)
    rw [htotal, List.length_cons]
    omega
  | sourceFailed hfailure htotal haccepts =>
    refine .sourceFailed hfailure ?_ (.cons hcall haccepts)
    rw [htotal, List.length_cons]
    omega
  | refused before hpairs hindex haccepts hrefused =>
    subst hpairs
    refine .refused (pair :: before) rfl ?_ (.cons hcall haccepts) hrefused
    rw [hindex, List.length_cons]
    omega

/-- Every delivery ends in one of these ways. -/
theorem delivered_deliver (sinks : Granularity → Sink σ) (granularity : Granularity)
    (path : Option String) (failure : Option Failure) (count : Nat) (pairs : List AddressPair)
    (state : σ) :
    Delivered sinks granularity path failure count pairs state
      (Dispatch.deliver (sinks granularity) granularity path failure count pairs state) := by
  induction pairs generalizing count state with
  | nil =>
    cases failure with
    | none => exact .completed rfl rfl (.nil state)
    | some reason => exact .sourceFailed rfl rfl (.nil state)
  | cons pair pairs ih =>
    cases hcall : sinks granularity state pair with
    | mk next answer =>
      cases answer with
      | none =>
        rw [Dispatch.deliver, hcall]
        exact (ih (count + 1) next).cons hcall
      | some complaint =>
        rw [Dispatch.deliver_of_refused hcall]
        exact .refused [] rfl rfl (.nil state) hcall

/-! ### Rows of several tables -/

/-- A row of the match table of a granularity. -/
structure TableRow where
  granularity : Granularity
  stored : StoredMatch
deriving DecidableEq, Repr

namespace TableRow

/-- The match that a good row stands for, on its way to its sink. -/
def offer (row : TableRow) : Offer := ⟨row.granularity, row.stored.pair⟩

/-- Whether the row stands for a match. -/
def Good (width : Nat) (row : TableRow) : Prop := row.stored.Good width

instance (width : Nat) (row : TableRow) : Decidable (row.Good width) :=
  inferInstanceAs (Decidable (row.stored.Good width))

/-- The number of rows of a granularity among some rows. -/
def ordinal (granularity : Granularity) (rows : List TableRow) : Nat :=
  rows.countP fun row => decide (row.granularity = granularity)

lemma ordinal_append (granularity : Granularity) (rows others : List TableRow) :
    ordinal granularity (rows ++ others) = ordinal granularity rows + ordinal granularity others :=
  List.countP_append

lemma ordinal_map_mk (granularity : Granularity) (rows : List StoredMatch) :
    ordinal granularity (rows.map (mk granularity)) = rows.length := by
  rw [ordinal, List.countP_map, List.countP_eq_length.mpr (by simp)]

end TableRow

/-- The rows of the match tables of some granularities. -/
def Database.tableRows (database : Database) (granularities : List Granularity) : List TableRow :=
  granularities.flatMap fun granularity =>
    (database.matchesOf granularity).map (TableRow.mk granularity)

/-- How the reading halts at a row of its table, before which the sinks are in some state. -/
inductive Halts (sinks : Granularity → Sink σ) (path : String) (width : Int) (index : Nat)
    (row : TableRow) (state : σ) : σ → Failure → Prop
  | flawed {failure : Failure} : ¬ row.Good width.toNat →
      Flawed ⟨path, row.granularity, width⟩ index row.stored failure →
      Halts sinks path width index row state state failure
  | refused {last : σ} {complaint : Failure} : row.Good width.toNat →
      sinks row.granularity state row.stored.pair = (last, some complaint) →
      Halts sinks path width index row state last
        (Dispatch.refusal row.granularity index row.stored.pair (some path) complaint)

/-- How the reading of some rows ends, and with which failure. -/
inductive Reading (sinks : Granularity → Sink σ) (path : String) (width : Int)
    (rows : List TableRow) (state : σ) : σ → Option Failure → Prop
  | completed {last : σ} : (∀ row ∈ rows, row.Good width.toNat) →
      Accepts sinks state (rows.map TableRow.offer) last →
      Reading sinks path width rows state last none
  | halted (earlier : List TableRow) (row : TableRow) (later : List TableRow) {between last : σ}
      {failure : Failure} : rows = earlier ++ row :: later →
      (∀ row ∈ earlier, row.Good width.toNat) →
      Accepts sinks state (earlier.map TableRow.offer) between →
      Halts sinks path width (TableRow.ordinal row.granularity earlier) row between last failure →
      Reading sinks path width rows state last (some failure)

namespace Reading

variable {path : String} {width : Int}

/-- What was read before, of other tables, changes nothing about how the reading goes on. -/
lemma append {before rows : List TableRow} {state between last : σ} {failure : Option Failure}
    (hgood : ∀ row ∈ before, row.Good width.toNat)
    (haccepts : Accepts sinks state (before.map TableRow.offer) between)
    (hother : ∀ row ∈ before, ∀ other ∈ rows, row.granularity ≠ other.granularity)
    (h : Reading sinks path width rows between last failure) :
    Reading sinks path width (before ++ rows) state last failure := by
  cases h with
  | completed hrows hrest =>
    refine .completed ?_ ?_
    · intro row hrow
      rcases List.mem_append.mp hrow with hrow | hrow
      · exact hgood row hrow
      · exact hrows row hrow
    · rw [List.map_append]
      exact haccepts.append hrest
  | halted earlier row later hrows hearlier hrest hhalts =>
    have hordinal : TableRow.ordinal row.granularity (before ++ earlier)
        = TableRow.ordinal row.granularity earlier := by
      have hnone : TableRow.ordinal row.granularity before = 0 := by
        rw [TableRow.ordinal, List.countP_eq_zero]
        intro other hmem
        simpa using hother other hmem row (by simp [hrows])
      rw [TableRow.ordinal_append, hnone, Nat.zero_add]
    have hall := haccepts.append hrest
    rw [← List.map_append] at hall
    refine .halted (before ++ earlier) row later (by rw [hrows, List.append_assoc]) ?_ hall ?_
    · intro other hmem
      rcases List.mem_append.mp hmem with hmem | hmem
      · exact hgood other hmem
      · exact hearlier other hmem
    · rw [hordinal]
      exact hhalts

/-- A reading that halts does so whatever comes after. -/
lemma append_of_some {rows after : List TableRow} {state last : σ} {failure : Failure}
    (h : Reading sinks path width rows state last (some failure)) :
    Reading sinks path width (rows ++ after) state last (some failure) := by
  cases h with
  | halted earlier row later hrows hearlier hrest hhalts =>
    exact .halted earlier row (later ++ after) (by rw [hrows]; simp) hearlier hrest hhalts

end Reading

/-! ### The rows of one table -/

section Table

variable {path : String} {width : Int} {granularity : Granularity}

lemma map_offer_map_mk (rows : List StoredMatch) :
    (rows.map (TableRow.mk granularity)).map TableRow.offer
      = (rows.map StoredMatch.pair).map (Offer.mk granularity) := by
  rw [List.map_map, List.map_map]
  rfl

lemma reading_of_refused {rows : List StoredMatch} {state between last : σ}
    {before after : List AddressPair} {pair : AddressPair} {complaint : Failure}
    (hgood : ∀ row ∈ rows, row.Good width.toNat)
    (hpairs : rows.map StoredMatch.pair = before ++ pair :: after)
    (haccepts : Accepts sinks state (before.map (Offer.mk granularity)) between)
    (hrefused : sinks granularity between pair = (last, some complaint)) :
    Reading sinks path width (rows.map (TableRow.mk granularity)) state last
      (some (Dispatch.refusal granularity before.length pair (some path) complaint)) := by
  obtain ⟨earlier, rest, rfl, rfl, hrest⟩ := List.map_eq_append_iff.mp hpairs
  obtain ⟨row, later, rfl, rfl, -⟩ := List.map_eq_cons_iff.mp hrest
  rw [← map_offer_map_mk] at haccepts
  refine .halted (earlier.map (TableRow.mk granularity)) ⟨granularity, row⟩
    (later.map (TableRow.mk granularity)) (by simp) ?_ haccepts ?_
  · intro other hother
    obtain ⟨stored, hstored, rfl⟩ := List.mem_map.mp hother
    exact hgood stored (List.mem_append_left _ hstored)
  · rw [TableRow.ordinal_map_mk, List.length_map]
    exact .refused (hgood row (by simp)) hrefused

/-- A delivery of the rows of a table is a reading of them, and counts them if it completes. -/
lemma reading_of_delivered (hwidth : 0 ≤ width) {rows : List StoredMatch} {state : σ}
    {feed : Feed}
    (hfeed : feed = RowReader.feed ⟨path, granularity, width⟩ 0 (rows.map StoredMatch.fetch))
    {delivery : Delivery σ}
    (h : Delivered sinks granularity (some path) feed.failure 0 feed.pairs state delivery) :
    (delivery.outcome = .ok rows.length ∧
        Reading sinks path width (rows.map (TableRow.mk granularity)) state delivery.state none) ∨
      ∃ failure, delivery.outcome = .error failure ∧
        Reading sinks path width (rows.map (TableRow.mk granularity)) state delivery.state
          (some failure) := by
  have hrows : ∀ {others : List StoredMatch}, (∀ row ∈ others, row.Good width.toNat) →
      ∀ row ∈ others.map (TableRow.mk granularity), row.Good width.toNat := by
    rintro others hgood _ hmem
    obtain ⟨stored, hstored, rfl⟩ := List.mem_map.mp hmem
    exact hgood stored hstored
  -- the feed ends at the first flawed row, and the sink may complain about a match before it
  obtain ⟨hgood, hall⟩ | ⟨before, bad, after, flaw, rfl, hgood, hbad, hflawed, hall⟩ :=
    RowReader.feed_cases ⟨path, granularity, width⟩ hwidth rows 0
  · rw [hfeed, hall] at h
    cases h with
    | completed _ htotal haccepts =>
      refine .inl ⟨by simp [htotal], .completed (hrows hgood) ?_⟩
      rw [map_offer_map_mk]
      exact haccepts
    | sourceFailed hfailure => exact absurd hfailure (by simp)
    | refused _ hpairs hindex haccepts hrefused =>
      subst hindex
      rw [Nat.zero_add]
      exact .inr ⟨_, rfl, reading_of_refused hgood hpairs haccepts hrefused⟩
  · rw [hfeed, hall] at h
    rw [List.map_append]
    cases h with
    | completed hfailure => exact absurd hfailure (by simp)
    | sourceFailed hfailure _ haccepts =>
      cases hfailure
      rw [← map_offer_map_mk] at haccepts
      refine .inr ⟨flaw, rfl, .halted _ ⟨granularity, bad⟩
        (after.map (TableRow.mk granularity)) rfl (hrows hgood) haccepts ?_⟩
      rw [TableRow.ordinal_map_mk]
      exact .flawed hbad (by simpa using hflawed)
    | refused _ hpairs hindex haccepts hrefused =>
      subst hindex
      rw [Nat.zero_add]
      exact .inr ⟨_, rfl, (reading_of_refused hgood hpairs haccepts hrefused).append_of_some⟩

end Table

/-! ### All tables -/

lemma granularity_of_mem_tableRows {database : Database} {granularities : List Granularity}
    {row : TableRow} (h : row ∈ database.tableRows granularities) :
    row.granularity ∈ granularities := by
  obtain ⟨granularity, hmem, hrow⟩ := List.mem_flatMap.mp h
  obtain ⟨stored, -, rfl⟩ := List.mem_map.mp hrow
  exact hmem

/-- The delivery of some tables is a reading of all their rows.  It counts the rows of each table if
it completes, and fails as the reading does if that halts. -/
theorem reading_deliverTables (sinks : Granularity → Sink σ) {store : Store}
    (hopen : store.isOpen = true) (hchecked : store.requireTables Schema.requiredTables = .ok ())
    {width : Int} (hwidth : 0 ≤ width) {granularities : List Granularity}
    (hnodup : granularities.Nodup) (state : σ) :
    ∃ failure, Reading sinks store.path width (store.database.tableRows granularities) state
        (Parse.deliverTables store width sinks granularities state).state failure ∧
      (Parse.deliverTables store width sinks granularities state).outcome
        = match failure with
          | none => .ok (granularities.map fun granularity =>
              (store.database.matchesOf granularity).length)
          | some failure => .error failure := by
  -- by induction on the tables: what was accepted of one is put before the reading of the others
  induction granularities generalizing state with
  | nil => exact ⟨none, .completed (by simp [Database.tableRows]) (.nil state), rfl⟩
  | cons granularity others ih =>
    obtain ⟨hfresh, hothers⟩ := List.nodup_cons.mp hnodup
    have hquery := MatchCursor.query_outcome store granularity width
    rw [Store.execute_matchesOf hopen hchecked granularity, Except.map] at hquery
    have htables : store.database.tableRows (granularity :: others)
        = (store.database.matchesOf granularity).map (TableRow.mk granularity)
          ++ store.database.tableRows others := by
      rw [Database.tableRows, List.flatMap_cons, Database.tableRows]
    rw [htables, Parse.deliverTables_cons, hquery]
    simp only [dispatch, MatchCursor.feed]
    generalize hfeed : RowReader.feed ⟨store.path, granularity, width⟩ 0
      ((store.database.matchesOf granularity).map StoredMatch.fetch) = feed
    have hdelivered := delivered_deliver sinks granularity (some store.path) feed.failure 0
      feed.pairs state
    have hreading := reading_of_delivered hwidth hfeed.symm hdelivered
    generalize Dispatch.deliver (sinks granularity) granularity (some store.path) feed.failure 0
      feed.pairs state = delivery at hreading
    obtain ⟨events, next, pulled, exhausted, outcome⟩ := delivery
    rcases hreading with ⟨rfl, hreading⟩ | ⟨failure, rfl, hreading⟩
    · cases hreading with
      | completed hgood haccepts =>
        obtain ⟨failure, hrest, houtcome⟩ := ih hothers next
        refine ⟨failure, hrest.append hgood haccepts ?_, ?_⟩
        · rintro row hrow other hother heq
          obtain ⟨stored, -, rfl⟩ := List.mem_map.mp hrow
          have hmem := granularity_of_mem_tableRows hother
          rw [← heq] at hmem
          exact hfresh hmem
        · simp only [houtcome]
          cases failure <;> rfl
    · exact ⟨some failure, hreading.append_of_some, rfl⟩

/-! ### Stores that were not checked -/

/-- The ways in which the delivery of tables ends, whatever is known about the store: the sinks
accept some matches, and then all tables are done, a table cannot be queried or not be read to its
end, or a sink complains. -/
inductive DeliveryEnd (sinks : Granularity → Sink σ) (store : Store) (width : Int) (host : Host)
    (state : σ) : σ → Except Failure (List Nat) → Prop
  | completed {last : σ} {offers : List Offer} {counts : List Nat} :
      Accepts sinks state offers last →
      DeliveryEnd sinks store width host state last (.ok counts)
  | unqueried {last : σ} {offers : List Offer} {granularity : Granularity} {failure : Failure} :
      Accepts sinks state offers last →
      store.execute (.matchesOf granularity) host = .error failure →
      DeliveryEnd sinks store width host state last (.error failure)
  | unread {last : σ} {offers : List Offer} {granularity : Granularity} {rows : List FetchedRow}
      {failure : Failure} : Accepts sinks state offers last →
      store.execute (.matchesOf granularity) host = .ok rows →
      (RowReader.feed ⟨store.path, granularity, width⟩ 0 rows).failure = some failure →
      DeliveryEnd sinks store width host state last (.error failure)
  | refused {between last : σ} {offers : List Offer} {granularity : Granularity} {index : Nat}
      {pair : AddressPair} {complaint : Failure} : Accepts sinks state offers between →
      sinks granularity between pair = (last, some complaint) →
      DeliveryEnd sinks store width host state last
        (.error (Dispatch.refusal granularity index pair (some store.path) complaint))

section DeliveryEnd

variable {store : Store} {width : Int} {host : Host}

/-- What the sinks accept before makes no difference to how the delivery of tables ends. -/
lemma DeliveryEnd.prepend {state next last : σ} {offers : List Offer}
    {outcome : Except Failure (List Nat)} (haccepts : Accepts sinks state offers next)
    (h : DeliveryEnd sinks store width host next last outcome) (count : Nat) :
    DeliveryEnd sinks store width host state last (outcome.map (count :: ·)) := by
  cases h with
  | completed hrest => exact .completed (haccepts.append hrest)
  | unqueried hrest hquery => exact .unqueried (haccepts.append hrest) hquery
  | unread hrest hquery hfailure => exact .unread (haccepts.append hrest) hquery hfailure
  | refused hrest hcall => exact .refused (haccepts.append hrest) hcall

/-- The delivery of tables ends in one of these ways. -/
theorem deliveryEnd_deliverTables (sinks : Granularity → Sink σ) (store : Store) (width : Int)
    (host : Host) (granularities : List Granularity) (state : σ) :
    DeliveryEnd sinks store width host state
      (Parse.deliverTables store width sinks granularities state host).state
      (Parse.deliverTables store width sinks granularities state host).outcome := by
  induction granularities generalizing state with
  | nil => exact .completed (.nil state)
  | cons granularity others ih =>
    rw [Parse.deliverTables_cons, MatchCursor.query_outcome _ _ _ host]
    cases hrows : store.execute (.matchesOf granularity) host with
    | error failure => exact .unqueried (.nil state) hrows
    | ok rows =>
      simp only [Except.map, dispatch, MatchCursor.feed]
      generalize hfeed : RowReader.feed ⟨store.path, granularity, width⟩ 0 rows = feed
      have hdelivered := delivered_deliver sinks granularity (some store.path) feed.failure 0
        feed.pairs state
      generalize Dispatch.deliver (sinks granularity) granularity (some store.path) feed.failure 0
        feed.pairs state = delivery at hdelivered
      cases hdelivered with
      | completed _ _ haccepts => exact (ih _).prepend haccepts _
      | sourceFailed hfailure _ haccepts =>
        rw [← hfeed] at hfailure
        exact .unread haccepts hrows hfailure
      | refused _ _ _ haccepts hcall => exact .refused haccepts hcall

end DeliveryEnd
end BinaryDiff
