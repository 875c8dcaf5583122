import BinaryDiff.Proofs.Delivery.Delivered

/-!
# Wider addresses

A wider address width changes nothing about a parse but the row at which an address is too wide.  So
two parses that differ in their widths go along together until the one under the lesser width meets
such a row, if it does; the other may go on from there.  This is shown for a cell, a row, the feed
of a table, its delivery, the delivery of all tables and the parse, one after the other
(`parse_widens`).
-/

namespace BinaryDiff

variable {σ : Type}

/-- A failure that says of a stored integer that it is too wide an address for a width. -/
inductive TooWide (path : String) (width : Int) : Failure → Prop
  | intro {granularity : Granularity} {index : Nat} {column : String} {raw : Int} :
      toAddress raw width.toNat = none →
      TooWide path width (.diff (.schema path granularity.table
        s!"row {index}: {column} value {Hex.signed raw} exceeds address width"
        (some (.text s!"< 2**{width}")) (some (.text (Hex.signed raw)))))

lemma not_tooWide_rejected {path message : String} {width : Int} {granularity : Granularity}
    {pair : AddressPair} {index : Nat} {shown : Option String} {cause : Cause} :
    ¬ TooWide path width (.diff (.rejected granularity pair index message shown cause)) := by
  rintro ⟨⟩

/-- An outcome that is the same as another, unless it is a failure of a kind. -/
def SameUnless {α : Type} (kind : Failure → Prop) (outcome other : Except Failure α) : Prop :=
  outcome = other ∨ ∃ failure, outcome = .error failure ∧ kind failure

/-- What of a feed is left under a lesser width: all of it, or the matches before one with an
address that is too wide. -/
inductive FeedWidens (path : String) (width : Int) : Feed → Feed → Prop
  | same (feed : Feed) : FeedWidens path width feed feed
  | stopped {pairs more : List AddressPair} {failure : Failure} {after : Option Failure} :
      TooWide path width failure →
      FeedWidens path width ⟨pairs, some failure⟩ ⟨pairs ++ more, after⟩

/-- How a run under a width compares with one under a greater width: it ends in the same way, or it
stops at an address that is too wide, after calls that the other makes as well. -/
inductive RunWidens {α : Type} (path : String) (width : Int) :
    Record σ → Except Failure α → Record σ → Except Failure α → Prop
  | same (record : Record σ) (outcome : Except Failure α) :
      RunWidens path width record outcome record outcome
  | stopped {record other : Record σ} {failure : Failure} {outcome : Except Failure α} :
      record.calls <+: other.calls → TooWide path width failure →
      RunWidens path width record (.error failure) other outcome

/-! ### Rows -/

lemma SameUnless.bind {α β : Type} {kind : Failure → Prop} {outcome other : Except Failure α}
    {next following : α → Except Failure β} (h : SameUnless kind outcome other)
    (hnext : ∀ value, SameUnless kind (next value) (following value)) :
    SameUnless kind (outcome >>= next) (other >>= following) := by
  rcases h with rfl | ⟨failure, rfl, hfailure⟩
  · cases outcome with
    | error failure => exact .inl rfl
    | ok value => exact hnext value
  · exact .inr ⟨failure, rfl, hfailure⟩

/-- An address of a width is one of every greater width, and the same one. -/
lemma toAddress_mono {raw address : Int} {width wider : Nat} (hle : width ≤ wider)
    (h : toAddress raw width = some address) : toAddress raw wider = some address := by
  have hpow : (twoTo width : Int) ≤ (twoTo wider : Int) :=
    Int.ofNat_le.mpr (Nat.pow_le_pow_right (by omega) hle)
  simp only [toAddress, Option.ite_none_right_eq_some] at h ⊢
  exact ⟨by omega, h.2⟩

section Widths

variable {path : String} {granularity : Granularity} {width wider : Int}

lemma address_widens (hwidth : 0 ≤ width) (hle : width ≤ wider) (index : Nat) (column : String)
    (value : Value) :
    SameUnless (TooWide path width)
      (RowReader.address ⟨path, granularity, width⟩ index column value)
      (RowReader.address ⟨path, granularity, wider⟩ index column value) := by
  cases value with
  | integer raw =>
    simp only [RowReader.address, RowReader.widthChecked,
      if_neg (show ¬ width < 0 by omega), if_neg (show ¬ wider < 0 by omega)]
    cases haddress : toAddress raw width.toNat with
    | none => exact .inr ⟨_, rfl, .intro haddress⟩
    | some address =>
      rw [toAddress_mono (show width.toNat ≤ wider.toNat by omega) haddress]
      exact .inl rfl
  | null | real | text | blob => exact .inl rfl

lemma pair_widens (hwidth : 0 ≤ width) (hle : width ≤ wider) (index : Nat) (row : FetchedRow) :
    SameUnless (TooWide path width) (RowReader.pair ⟨path, granularity, width⟩ index row)
      (RowReader.pair ⟨path, granularity, wider⟩ index row) := by
  cases row with
  | error reason => exact .inl rfl
  | ok values =>
    refine (address_widens hwidth hle index "address1" _).bind fun primary => ?_
    exact (address_widens hwidth hle index "address2" _).bind fun secondary => .inl rfl

lemma FeedWidens.cons {feed other : Feed} (h : FeedWidens path width feed other)
    (pair : AddressPair) : FeedWidens path width (feed.cons pair) (other.cons pair) := by
  cases h with
  | same => exact .same _
  | stopped hwide => exact @FeedWidens.stopped path width (pair :: _) _ _ _ hwide

lemma feed_widens (hwidth : 0 ≤ width) (hle : width ≤ wider) (index : Nat)
    (rows : List FetchedRow) :
    FeedWidens path width (RowReader.feed ⟨path, granularity, width⟩ index rows)
      (RowReader.feed ⟨path, granularity, wider⟩ index rows) := by
  induction rows generalizing index with
  | nil => exact .same _
  | cons row rows ih =>
    rw [RowReader.feed, RowReader.feed]
    rcases @pair_widens path granularity width wider hwidth hle index row with
      hsame | ⟨failure, hfailure, hwide⟩
    · rw [hsame]
      cases RowReader.pair ⟨path, granularity, wider⟩ index row with
      | error failure => exact .same _
      | ok pair => exact (ih (index + 1)).cons pair
    · rw [hfailure]
      exact @FeedWidens.stopped path width [] _ _ _ hwide

/-! ### Calls that are on record stay there -/

lemma calls_prefix_deliver (sinks : Granularity → Sink σ) (granularity : Granularity)
    (shown : Option String) (failure : Option Failure) (count : Nat) (pairs : List AddressPair)
    (record : Record σ) :
    record.calls <+: (Dispatch.deliver (recording sinks granularity) granularity shown failure count
      pairs record).state.calls := by
  rw [calls_deliver]
  exact List.prefix_append _ _

lemma calls_prefix_deliverTables (store : Store) (width : Int) (sinks : Granularity → Sink σ)
    (granularities : List Granularity) (record : Record σ) :
    record.calls <+: (Parse.deliverTables store width (recording sinks) granularities
      record).state.calls := by
  induction granularities generalizing record with
  | nil => exact List.prefix_rfl
  | cons granularity others ih =>
    rw [Parse.deliverTables_cons]
    cases (MatchCursor.query store granularity width).outcome with
    | error failure => exact List.prefix_rfl
    | ok cursor =>
      have hcalls := calls_prefix_deliver sinks granularity (some store.path) cursor.feed.failure 0
        cursor.feed.pairs record
      simp only [dispatch]
      split
      · exact hcalls
      · exact hcalls.trans (ih _)

/-! ### Runs -/

lemma RunWidens.map {α β : Type} {record other : Record σ} {outcome last : Except Failure α}
    (h : RunWidens path width record outcome other last) (f : α → β) :
    RunWidens path width record (outcome.map f) other (last.map f) := by
  cases h with
  | same => exact .same _ _
  | stopped hcalls hwide => exact .stopped hcalls hwide

lemma deliver_widens (sinks : Granularity → Sink σ) (granularity : Granularity)
    (shown : Option String) (count : Nat) {feed other : Feed}
    (h : FeedWidens path width feed other) (record : Record σ) :
    let delivery := Dispatch.deliver (recording sinks granularity) granularity shown feed.failure
      count feed.pairs record
    let widened := Dispatch.deliver (recording sinks granularity) granularity shown other.failure
      count other.pairs record
    RunWidens path width delivery.state delivery.outcome widened.state widened.outcome := by
  cases h with
  | same => exact .same _ _
  | @stopped pairs more failure after hwide =>
    -- the sink may stop both before the matches of the lesser width are at their end
    induction pairs generalizing count record with
    | nil => exact .stopped (calls_prefix_deliver ..) hwide
    | cons pair pairs ih =>
      simp only [List.cons_append, Dispatch.deliver]
      obtain ⟨next, answer⟩ := recording sinks granularity record pair
      cases answer with
      | none => exact ih (count + 1) next
      | some complaint => exact .same _ _

lemma deliverTables_widens (hwidth : 0 ≤ width) (hle : width ≤ wider) (store : Store)
    (sinks : Granularity → Sink σ) (granularities : List Granularity) (record : Record σ) :
    let run := Parse.deliverTables store width (recording sinks) granularities record
    let widened := Parse.deliverTables store wider (recording sinks) granularities record
    RunWidens store.path width run.state run.outcome widened.state widened.outcome := by
  induction granularities generalizing record with
  | nil => exact .same _ _
  | cons granularity others ih =>
    simp only [Parse.deliverTables_cons, MatchCursor.query_outcome]
    cases store.execute (.matchesOf granularity) with
    | error failure => exact .same _ _
    | ok rows =>
      simp only [Except.map, dispatch, MatchCursor.feed]
      have hdelivery := deliver_widens sinks granularity (some store.path) 0
        (@feed_widens store.path granularity width wider hwidth hle 0 rows) record
      generalize Dispatch.deliver (recording sinks granularity) granularity (some store.path)
        (RowReader.feed ⟨store.path, granularity, width⟩ 0 rows).failure 0
        (RowReader.feed ⟨store.path, granularity, width⟩ 0 rows).pairs record = delivery
        at hdelivery ⊢
      generalize Dispatch.deliver (recording sinks granularity) granularity (some store.path)
        (RowReader.feed ⟨store.path, granularity, wider⟩ 0 rows).failure 0
        (RowReader.feed ⟨store.path, granularity, wider⟩ 0 rows).pairs record = widened
        at hdelivery ⊢
      obtain ⟨_, next, _, _, outcome⟩ := delivery
      obtain ⟨_, following, _, _, last⟩ := widened
      cases hdelivery with
      | same =>
        cases outcome with
        | error failure => exact .same _ _
        | ok count => exact (ih next).map _
      | stopped hcalls hwide =>
        cases last with
        | error failure => exact .stopped hcalls hwide
        | ok count => exact .stopped (hcalls.trans (calls_prefix_deliverTables ..)) hwide

lemma parse_widens (hwidth : 0 ≤ width) (hle : width ≤ wider) (around : Surroundings)
    (given : GivenPath) (wanted : Bool) (sinks : Granularity → Sink σ) (record : Record σ) :
    let report := parse around ⟨given, wanted, width⟩ (recording sinks) record
    let widened := parse around ⟨given, wanted, wider⟩ (recording sinks) record
    RunWidens given.shown width report.state report.outcome widened.state widened.outcome := by
  simp only [parse, Parse.run]
  cases hopened : (Store.openAt around given).outcome with
  | error failure => exact .same _ _
  | ok store =>
    simp only
    cases (Parse.prepare store wanted).outcome with
    | error failure => exact .same _ _
    | ok metadata =>
      have htables := deliverTables_widens hwidth hle store sinks Granularity.all record
      rw [(Store.of_openAt hopened).2] at htables
      simp only
      generalize Parse.deliverTables store width (recording sinks) Granularity.all record = run
        at htables ⊢
      generalize Parse.deliverTables store wider (recording sinks) Granularity.all record = widened
        at htables ⊢
      obtain ⟨_, next, _, outcome⟩ := run
      obtain ⟨_, following, _, last⟩ := widened
      cases htables with
      | same => cases outcome <;> exact .same _ _
      | stopped hcalls hwide => cases last <;> exact .stopped hcalls hwide

end Widths

/-- A parse is monotone in the address width: the calls that it makes are the first of those that it
makes under any greater width, with the same matches and answers.  If it succeeds, or fails for any
other reason than an address that is too wide, the greater width changes nothing: the calls, the
sinks and the outcome are the same. -/
theorem parse_mono_width (around : Surroundings) (given : GivenPath) (wanted : Bool)
    {width wider : Int} (hwidth : 0 ≤ width) (hle : width ≤ wider) (sinks : Granularity → Sink σ)
    (state : σ) :
    let report := fun width => parse around ⟨given, wanted, width⟩ sinks state
    let calls := fun width =>
      (parse around ⟨given, wanted, width⟩ (recording sinks) ⟨state, []⟩).state.calls
    calls width <+: calls wider ∧
      (∀ result, (report width).outcome = .ok result →
        (report wider).outcome = .ok result ∧ calls wider = calls width ∧
          (report wider).state = (report width).state) ∧
      ∀ failure, (report width).outcome = .error failure → ¬ TooWide given.shown width failure →
        (report wider).outcome = .error failure ∧ calls wider = calls width ∧
          (report wider).state = (report width).state := by
  intro report calls
  have hreport : ∀ width, report width
      = (parse around ⟨given, wanted, width⟩ (recording sinks) ⟨state, []⟩).mapState
          Record.state :=
    fun width => (parse_recording around ⟨given, wanted, width⟩ sinks ⟨state, []⟩).symm
  have hwidens := parse_widens hwidth hle around given wanted sinks ⟨state, []⟩
  simp only [hreport, calls]
  generalize parse around ⟨given, wanted, width⟩ (recording sinks) ⟨state, []⟩ = narrow at hwidens ⊢
  generalize parse around ⟨given, wanted, wider⟩ (recording sinks) ⟨state, []⟩ = wide at hwidens ⊢
  obtain ⟨_, record, _, _, outcome⟩ := narrow
  obtain ⟨_, other, _, _, last⟩ := wide
  cases hwidens with
  | same =>
    exact ⟨List.prefix_rfl, fun _ hresult => ⟨hresult, rfl, rfl⟩,
      fun _ hfailure _ => ⟨hfailure, rfl, rfl⟩⟩
  | stopped hcalls hwide =>
    refine ⟨hcalls, fun result hresult => ?_, fun failure hfailure hother => ?_⟩
    · cases hresult
    · cases hfailure
      exact absurd hwide hother

/-- In the sample the second function match needs 64 bits: with 32 bits it is not delivered, but a
complaint about the first match is the same. -/
theorem parse_mono_width_sample :
    let report := fun width => parse Sample.around ⟨.ofText "a.db", true, width⟩
      (Sample.refuseCall 0) 0
    let calls := fun width => (parse Sample.around ⟨.ofText "a.db", true, width⟩
      (recording (Sample.refuseCall 4)) ⟨0, []⟩).state.calls
    let failure : Failure := .diff (.rejected .function ⟨16, 32⟩ 0 "ValueError" (some "a.db")
      (.complaint (.raised "ValueError" "")))
    (0 : Int) ≤ 32 ∧ (32 : Int) ≤ 64 ∧ calls 32 = [.accepted ⟨.function, 16, 32⟩] ∧
      calls 32 <+: calls 64 ∧ (report 32).outcome = .error failure ∧
      ¬ TooWide "a.db" 32 failure ∧ (report 64).outcome = .error failure := by
  intro report calls failure
  have hprepared : Prepared Sample.around ⟨.ofText "a.db", true, 32⟩ Sample.store
      (some Sample.metadata) :=
    ⟨Sample.prepared.opened, Sample.prepared.checked, Sample.prepared.recorded⟩
  have hcalls : calls 32 = [.accepted ⟨.function, 16, 32⟩] := by
    refine (hprepared.calls_eq (by decide) (Sample.refuseCall 4) 0).trans ?_
    decide
  have hfailure : (report 32).outcome = .error failure :=
    (hprepared.parse_eq (Sample.refuseCall 0) 0).2.trans rfl
  have hother : ¬ TooWide "a.db" 32 failure := not_tooWide_rejected
  have hprefix := (parse_mono_width Sample.around (.ofText "a.db") true
    (show (0 : Int) ≤ 32 by decide) (show (32 : Int) ≤ 64 by decide) (Sample.refuseCall 4) 0).1
  have hwider := (parse_mono_width Sample.around (.ofText "a.db") true
    (show (0 : Int) ≤ 32 by decide) (show (32 : Int) ≤ 64 by decide) (Sample.refuseCall 0) 0).2.2
    failure hfailure hother
  exact ⟨by decide, by decide, hcalls, hprefix, hfailure, hother, hwider.1⟩

end BinaryDiff
