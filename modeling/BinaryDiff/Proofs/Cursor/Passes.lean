import BinaryDiff.Cursor.Session
import BinaryDiff.Proofs.Cursor.Rows

/-!
# The passes of cursors

A fetch by a cursor that was asked for its pass yields a match or ends the pass (`next_cases`), and
fetching all further matches ends it in the same ways (`drain_cases`).  The pass ends properly, with
its last row or with a failure of reading, and then the rows are given back.  Only a pass whose
store was closed while it held its rows is stranded: it ends with the failure of giving them back.
-/

namespace BinaryDiff

/-- The failures with which the pass of a cursor ends properly: those of reading, the use of a width
that no address can have, and an error of fetching a row that is none of the database library. -/
inductive PassFailure (cursor : MatchCursor) : Failure → Prop
  | read {failure : Failure} : ReadFailure cursor.reader.path failure → PassFailure cursor failure
  | negativeWidth : cursor.reader.width < 0 → PassFailure cursor .negativeWidth
  | foreign {error : ForeignError} : .error error ∈ cursor.pending → error.ofDatabase = false →
      PassFailure cursor (.foreign error)

lemma PassFailure.ne_databaseClosed {cursor : MatchCursor} {failure : Failure}
    (h : PassFailure cursor failure) : failure ≠ .databaseClosed := by
  rintro rfl
  rcases h with ⟨⟨⟩⟩

namespace MatchCursor

/-- A query starts a cursor with all rows, or fails as the query of the store does. -/
lemma query_outcome (store : Store) (granularity : Granularity) (width : Int)
    (host : Host := .plain) :
    (query store granularity width host).outcome
      = (store.execute (.matchesOf granularity) host).map fun rows =>
          ⟨⟨store.path, granularity, width⟩, rows, 0, true, .untouched⟩ := by
  simp only [query, Logged.outcome_bind, Logged.ofExcept]
  cases store.execute (.matchesOf granularity) host <;> rfl

/-- The ways in which a pass ends that was asked for, and what is left of its cursor then. -/
inductive Ends (storeOpen : Bool) (cursor : MatchCursor) : Step → MatchCursor → Prop
  /-- It had ended before. -/
  | again : cursor.phase = .over → Ends storeOpen cursor .finished cursor
  /-- There are no more matches. -/
  | finished {rest : MatchCursor} : cursor.phase ≠ .over →
      (cursor.held = true → storeOpen = true) → rest.reader = cursor.reader → rest.phase = .over →
      rest.held = false → Ends storeOpen cursor .finished rest
  /-- The next match cannot be read. -/
  | failed {rest : MatchCursor} {failure : Failure} : cursor.phase ≠ .over →
      (cursor.held = true → storeOpen = true) → PassFailure cursor failure →
      rest.reader = cursor.reader → rest.phase = .over → rest.held = false →
      Ends storeOpen cursor (.failed failure) rest
  /-- The store was closed before the rows were given back, which is impossible from then on. -/
  | stranded {rest : MatchCursor} : cursor.phase ≠ .over → cursor.held = true →
      storeOpen = false → rest.reader = cursor.reader → rest.phase = .over → rest.held = true →
      Ends storeOpen cursor (.failed .databaseClosed) rest

/-- A fetch that yields a match and leaves a row less. -/
structure Yields (storeOpen : Bool) (cursor rest : MatchCursor) : Prop where
  held : cursor.held = true
  isOpen : storeOpen = true
  before : cursor.phase ≠ .over
  reader : rest.reader = cursor.reader
  phase : rest.phase = .underWay
  holds : rest.held = true
  pending : ∃ row, cursor.pending = row :: rest.pending

lemma fetch_cases {cursor : MatchCursor} (hheld : cursor.held = true)
    (hphase : cursor.phase ≠ .over) :
    Ends true cursor cursor.fetch.1 cursor.fetch.2 ∨
      ∃ pair, cursor.fetch.1 = .pair pair ∧ Yields true cursor cursor.fetch.2 := by
  rw [fetch]
  cases hpending : cursor.pending with
  | nil => exact .inl (.finished hphase (fun _ => rfl) rfl rfl rfl)
  | cons row rows =>
    cases hpair : cursor.reader.pair cursor.rowsRead row with
    | error failure =>
      simp only [hpair]
      have hfailure : PassFailure cursor failure := by
        rcases RowReader.read_of_pair_eq_error hpair with
          hread | ⟨rfl, hwidth⟩ | ⟨error, rfl, hkind, rfl⟩
        · exact .read hread
        · exact .negativeWidth hwidth
        · refine .foreign ?_ hkind
          rw [hpending]
          exact List.mem_cons_self
      exact .inl (.failed hphase (fun _ => rfl) hfailure rfl rfl rfl)
    | ok pair =>
      simp only [hpair]
      exact .inr ⟨pair, rfl, hheld, rfl, hphase, rfl, rfl, hheld, row, hpending⟩

/-- Every fetch of a pass that was asked for yields a match or ends the pass. -/
theorem next_cases (storeOpen : Bool) {cursor : MatchCursor} (h : cursor.phase ≠ .untouched) :
    ∃ step rest, cursor.next storeOpen = some (step, rest) ∧
      (Ends storeOpen cursor step rest ∨
        ∃ pair, step = .pair pair ∧ Yields storeOpen cursor rest) := by
  by_cases hover : cursor.phase = .over
  · exact ⟨.finished, cursor, by rw [next, hover], .inl (.again hover)⟩
  have hnext : cursor.next storeOpen
      = if cursor.held then
          if storeOpen then some cursor.fetch
          else some (.failed .databaseClosed, { cursor with phase := .over })
        else if cursor.phase = .ready then some (.finished, cursor.finish)
        else some (.failed cursor.rowsGivenBack, cursor.finish) := by
    rw [next]
    cases hphase : cursor.phase with
    | untouched => exact absurd hphase h
    | ready | underWay => rfl
    | _ => exact absurd hphase hover
  rw [hnext]
  -- the rows decide: held in an open store, held in a closed one, or given back
  cases hheld : cursor.held with
  | true =>
    cases storeOpen with
    | true => exact ⟨_, _, rfl, fetch_cases hheld hover⟩
    | false => exact ⟨_, _, rfl, .inl (.stranded hover hheld rfl rfl rfl rfl)⟩
  | false =>
    have hopen : cursor.held = true → storeOpen = true := by simp [hheld]
    by_cases hready : cursor.phase = .ready
    · exact ⟨.finished, cursor.finish, by simp [hready],
        .inl (.finished hover hopen rfl rfl rfl)⟩
    · exact ⟨.failed cursor.rowsGivenBack, cursor.finish, by simp [hready],
        .inl (.failed hover hopen (.read (.unreadable _)) rfl rfl rfl)⟩

lemma Ends.phase {storeOpen : Bool} {cursor rest : MatchCursor} {step : Step}
    (h : Ends storeOpen cursor step rest) : rest.phase = .over := by
  cases h with
  | again hover => exact hover
  | finished _ _ _ hphase => exact hphase
  | failed _ _ _ _ hphase => exact hphase
  | stranded _ _ _ _ hphase => exact hphase

lemma Ends.reader {storeOpen : Bool} {cursor rest : MatchCursor} {step : Step}
    (h : Ends storeOpen cursor step rest) : rest.reader = cursor.reader := by
  cases h with
  | again => rfl
  | finished _ _ hreader => exact hreader
  | failed _ _ _ hreader => exact hreader
  | stranded _ _ _ hreader => exact hreader

lemma Yields.passFailure {storeOpen : Bool} {cursor between : MatchCursor} {failure : Failure}
    (hyields : Yields storeOpen cursor between) (h : PassFailure between failure) :
    PassFailure cursor failure := by
  cases h with
  | read hread =>
    rw [hyields.reader] at hread
    exact .read hread
  | negativeWidth hwidth =>
    rw [hyields.reader] at hwidth
    exact .negativeWidth hwidth
  | foreign hmem hkind =>
    obtain ⟨row, hpending⟩ := hyields.pending
    refine .foreign ?_ hkind
    rw [hpending]
    exact List.mem_cons_of_mem row hmem

/-- A pass ends after a match as it would have ended before it. -/
lemma Ends.of_yields {storeOpen : Bool} {cursor between rest : MatchCursor} {step : Step}
    (hyields : Yields storeOpen cursor between) (h : Ends storeOpen between step rest) :
    Ends storeOpen cursor step rest := by
  have hopen : cursor.held = true → storeOpen = true := fun _ => hyields.isOpen
  cases h with
  | again hover => exact absurd hover (by simp [hyields.phase])
  | finished _ _ hreader hphase hheld =>
    exact .finished hyields.before hopen (hreader.trans hyields.reader) hphase hheld
  | failed _ _ hfailure hreader hphase hheld =>
    exact .failed hyields.before hopen (hyields.passFailure hfailure)
      (hreader.trans hyields.reader) hphase hheld
  | stranded _ _ hclosed => exact absurd hyields.isOpen (by simp [hclosed])

/-- Fetching more often than there are rows left ends the pass. -/
theorem drain_cases (storeOpen : Bool) {limit : Nat} {cursor : MatchCursor}
    (h : cursor.phase ≠ .untouched) (hlimit : cursor.pending.length < limit) :
    ∃ pairs last rest, cursor.drain storeOpen limit = (pairs, last, rest) ∧
      Ends storeOpen cursor last rest := by
  -- each match leaves a row less, so the pass is over before the limit is reached
  induction limit generalizing cursor with
  | zero => omega
  | succ limit ih =>
    obtain ⟨step, between, hnext, hends | ⟨pair, rfl, hyields⟩⟩ := next_cases storeOpen h
    · refine ⟨[], step, between, ?_, hends⟩
      rw [drain, hnext]
      cases hends <;> rfl
    · obtain ⟨row, hpending⟩ := hyields.pending
      rw [hpending, List.length_cons] at hlimit
      have hphase : between.phase ≠ .untouched := by simp [hyields.phase]
      obtain ⟨pairs, last, rest, hdrain, hends⟩ := ih hphase (by omega)
      refine ⟨pair :: pairs, last, rest, ?_, hends.of_yields hyields⟩
      rw [drain, hnext]
      simp only [hdrain]

end MatchCursor
end BinaryDiff
