import BinaryDiff.Cursor.Session
import BinaryDiff.Proofs.Cursor.Passes

/-!
# Where a cursor stands in its table

A cursor stands between the rows that it has read and those that it has not.  `Fetches` lists what a
fetch can come to there: it takes the next row if the rows are held in an open store, and otherwise
it only reports how the pass is over.  A fetch of one match or of all of them moves the cursor past
the rows whose matches it brings, and past no others (`Stands.next`, `Stands.drain`).
-/

namespace BinaryDiff

namespace Step

/-- The matches that a fetch yields. -/
def pairs : Step → List AddressPair
  | .pair found => [found]
  | _ => []

/-- The end of the pass that a fetch reports, if it does. -/
def last? : Step → Option Step
  | .pair _ => none
  | last => some last

end Step

lemma Session.report_eq (step : Step) : Session.report step = .fetched step.pairs step.last? := by
  cases step <;> rfl

/-- Only a good row is read as a match, which is its own. -/
lemma RowReader.good_of_pair_eq_ok {reader : RowReader} {stored : StoredMatch} {index : Nat}
    {pair : AddressPair} (h : reader.pair index stored.fetch = .ok pair) :
    stored.Good reader.width.toNat ∧ pair = stored.pair := by
  rcases reader.pair_outcomes stored index with
    ⟨hgood, hpair⟩ | ⟨-, failure, hpair, -⟩ | ⟨-, hpair⟩
  · rw [hpair] at h
    exact ⟨hgood, (Except.ok.inj h).symm⟩
  · rw [hpair] at h
    cases h
  · rw [hpair] at h
    cases h

namespace MatchCursor

/-- A cursor stands between the rows that it has read, all of them good, and those that it has not.
Once its pass is over it does not matter any more what it has yet to fetch. -/
structure Stands (cursor : MatchCursor) (read unread : List StoredMatch) : Prop where
  rowsRead : cursor.rowsRead = read.length
  good : ∀ row ∈ read, row.Good cursor.reader.width.toNat
  pending : cursor.phase ≠ .over → cursor.pending = unread.map StoredMatch.fetch

/-- What a fetch comes to that takes its row from an open database, where some rows are unread. -/
inductive Takes (cursor : MatchCursor) : List StoredMatch → Step → MatchCursor → Prop
  /-- There is no row left. -/
  | finished : Takes cursor [] .finished cursor.finish
  /-- The next row is good. -/
  | pair {row : StoredMatch} {others : List StoredMatch} :
      row.Good cursor.reader.width.toNat →
      Takes cursor (row :: others) (.pair row.pair)
        { cursor with
          pending := others.map StoredMatch.fetch
          rowsRead := cursor.rowsRead + 1
          phase := .underWay }
  /-- The next row is complained about. -/
  | failed {row : StoredMatch} {others : List StoredMatch} {failure : Failure} :
      cursor.reader.pair cursor.rowsRead row.fetch = .error failure →
      Takes cursor (row :: others) (.failed failure)
        { cursor with pending := others.map StoredMatch.fetch, held := false, phase := .over }

/-- What a fetch comes to by a cursor before some unread rows. -/
inductive Fetches (storeOpen : Bool) (cursor : MatchCursor) (unread : List StoredMatch) :
    Step → MatchCursor → Prop
  /-- The pass had ended before. -/
  | again : cursor.phase = .over → Fetches storeOpen cursor unread .finished cursor
  /-- The rows are held in an open store. -/
  | taken {step : Step} {rest : MatchCursor} : cursor.phase ≠ .over → cursor.held = true →
      storeOpen = true → Takes cursor unread step rest → Fetches storeOpen cursor unread step rest
  /-- The rows are held in a store that was closed. -/
  | stranded : cursor.phase ≠ .over → cursor.held = true → storeOpen = false →
      Fetches storeOpen cursor unread (.failed .databaseClosed) { cursor with phase := .over }
  /-- The rows were given back before any was fetched. -/
  | unread : cursor.phase = .ready → cursor.held = false →
      Fetches storeOpen cursor unread .finished cursor.finish
  /-- The rows were given back during the pass. -/
  | givenBack : cursor.phase = .underWay → cursor.held = false →
      Fetches storeOpen cursor unread (.failed cursor.rowsGivenBack) cursor.finish

variable {cursor rest : MatchCursor} {read unread : List StoredMatch} {storeOpen : Bool}
  {step : Step}

lemma Stands.takes (h : cursor.Stands read unread) (hphase : cursor.phase ≠ .over) :
    Takes cursor unread cursor.fetch.1 cursor.fetch.2 := by
  have hpending := h.pending hphase
  rw [fetch, hpending]
  cases unread with
  | nil => exact .finished
  | cons row others =>
    rw [List.map_cons]
    cases hpair : cursor.reader.pair cursor.rowsRead row.fetch with
    | error failure =>
      simp only [hpair]
      exact .failed hpair
    | ok pair =>
      obtain ⟨hgood, rfl⟩ := RowReader.good_of_pair_eq_ok hpair
      simp only [hpair]
      exact .pair hgood

/-- Every fetch of a pass that was asked for comes to one of these. -/
theorem Stands.fetches (h : cursor.Stands read unread) (hstarted : cursor.phase ≠ .untouched)
    (storeOpen : Bool) :
    ∃ step rest, cursor.next storeOpen = some (step, rest) ∧
      Fetches storeOpen cursor unread step rest := by
  by_cases hover : cursor.phase = .over
  · exact ⟨.finished, cursor, by rw [next, hover], .again hover⟩
  have hphase : cursor.phase = .ready ∨ cursor.phase = .underWay := by
    cases hphase : cursor.phase with
    | untouched => exact absurd hphase hstarted
    | ready => exact .inl rfl
    | underWay => exact .inr rfl
    | _ => exact absurd hphase hover
  cases hheld : cursor.held with
  | true =>
    cases storeOpen with
    | true =>
      refine ⟨_, _, ?_, .taken hover hheld rfl (h.takes hover)⟩
      rcases hphase with hphase | hphase <;> simp [next, hphase, hheld]
    | false =>
      refine ⟨_, _, ?_, .stranded hover hheld rfl⟩
      rcases hphase with hphase | hphase <;> simp [next, hphase, hheld]
  | false =>
    rcases hphase with hphase | hphase
    · exact ⟨_, _, by simp [next, hphase, hheld], .unread hphase hheld⟩
    · exact ⟨_, _, by simp [next, hphase, hheld], .givenBack hphase hheld⟩

/-! ### Fetching one match or all of them -/

/-- What a cursor brings from the unread rows: the matches of some of them, which then are read, and
at the end of the pass the way in which it has ended. -/
structure Brings (cursor : MatchCursor) (read unread : List StoredMatch)
    (pairs : List AddressPair) (last : Option Step) (rest : MatchCursor) : Prop where
  reader : rest.reader = cursor.reader
  rows : ∃ more others, unread = more ++ others ∧ pairs = more.map StoredMatch.pair ∧
    rest.Stands (read ++ more) others
  phase : rest.phase = if last.isSome then .over else .underWay
  proper : ∀ step, last = some step → step = .finished ∨ ∃ failure, step = .failed failure
  /-- The end is reported after the last row, if nothing was held from the first, and again. -/
  finished : last = some .finished → cursor.phase = .over ∨
    rest.rowsRead = (read ++ unread).length ∨ cursor.phase = .ready ∧ cursor.held = false
  again : cursor.phase = .over → pairs = [] ∧ last = some .finished ∧ rest = cursor

/-- A cursor whose pass comes to an end brings nothing, and stands where it stood. -/
lemma Stands.ends (h : cursor.Stands read unread) (hbefore : cursor.phase ≠ .over)
    (hreader : rest.reader = cursor.reader) (hrows : rest.rowsRead = cursor.rowsRead)
    (hphase : rest.phase = .over) (hstep : step = .finished ∨ ∃ failure, step = .failed failure)
    (hfinished : step = .finished →
      unread = [] ∨ cursor.phase = .ready ∧ cursor.held = false) :
    Brings cursor read unread [] (some step) rest where
  reader := hreader
  rows := by
    refine ⟨[], unread, rfl, rfl, hrows.trans ?_, ?_, fun hnot => absurd hphase hnot⟩
    · rw [List.append_nil, h.rowsRead]
    · rw [List.append_nil, hreader]
      exact h.good
  phase := hphase
  proper other hother := by
    cases hother
    exact hstep
  finished hlast := by
    rcases hfinished (Option.some.inj hlast) with rfl | hunread
    · rw [List.append_nil, hrows]
      exact .inr (.inl h.rowsRead)
    · exact .inr (.inr hunread)
  again hover := absurd hover hbefore

/-- A fetch brings the match that it yields, or the end of the pass. -/
theorem Fetches.brings (h : cursor.Stands read unread)
    (hfetches : Fetches storeOpen cursor unread step rest) :
    Brings cursor read unread step.pairs step.last? rest := by
  cases hfetches with
  | again hover =>
    refine ⟨rfl, ⟨[], unread, rfl, rfl, ?_⟩, hover, ?_, fun _ => .inl hover,
      fun _ => ⟨rfl, rfl, rfl⟩⟩
    · rw [List.append_nil]
      exact h
    · rintro step hstep
      exact .inl (Option.some.inj hstep).symm
  | taken hover hheld hopen htakes =>
    cases htakes with
    | finished => exact h.ends hover rfl rfl rfl (.inl rfl) fun _ => .inl rfl
    | failed => exact h.ends hover rfl rfl rfl (.inr ⟨_, rfl⟩) (by simp)
    | @pair row others hgood =>
      refine ⟨rfl, ⟨[row], others, rfl, rfl, ?_, ?_, fun _ => rfl⟩, rfl, by simp [Step.last?],
        by simp [Step.last?], fun hphase => absurd hphase hover⟩
      · rw [List.length_append, List.length_singleton, ← h.rowsRead]
      · intro other hother
        rcases List.mem_append.mp hother with hmem | hmem
        · exact h.good other hmem
        · rw [List.mem_singleton.mp hmem]
          exact hgood
  | stranded hover => exact h.ends hover rfl rfl rfl (.inr ⟨_, rfl⟩) (by simp)
  | unread hready hheld =>
    have hover : cursor.phase ≠ .over := by simp [hready]
    exact h.ends hover rfl rfl rfl (.inl rfl) fun _ => .inr ⟨hready, hheld⟩
  | givenBack hunderWay =>
    have hover : cursor.phase ≠ .over := by simp [hunderWay]
    exact h.ends hover rfl rfl rfl (.inr ⟨_, rfl⟩) (by simp)

/-- What is brought after a match that was fetched is brought in addition to it. -/
lemma Brings.cons {between : MatchCursor} {row : StoredMatch} {pairs : List AddressPair}
    {last : Step} {others : List StoredMatch}
    (h : Brings between (read ++ [row]) others pairs (some last) rest)
    (hbefore : cursor.phase ≠ .over) (hreader : between.reader = cursor.reader)
    (hphase : between.phase = .underWay) :
    Brings cursor read (row :: others) (row.pair :: pairs) (some last) rest where
  reader := h.reader.trans hreader
  rows := by
    obtain ⟨more, left, rfl, rfl, hstands⟩ := h.rows
    refine ⟨row :: more, left, rfl, rfl, ?_⟩
    rw [List.append_assoc] at hstands
    exact hstands
  phase := h.phase
  proper := h.proper
  finished hlast := by
    rcases h.finished hlast with hover | hall | ⟨hready, -⟩
    · simp [hphase] at hover
    · rw [List.append_assoc] at hall
      exact .inr (.inl hall)
    · simp [hphase] at hready
  again hover := absurd hover hbefore

/-- Fetching more often than there are rows left brings all matches up to the end of the pass. -/
theorem Stands.drain {limit : Nat} (h : cursor.Stands read unread)
    (hstarted : cursor.phase ≠ .untouched) (storeOpen : Bool)
    (hlimit : cursor.pending.length < limit) :
    ∃ pairs last rest, cursor.drain storeOpen limit = (pairs, last, rest) ∧
      Brings cursor read unread pairs (some last) rest := by
  -- each match leaves a row less, so the end of the pass is met before the limit
  induction limit generalizing cursor read unread with
  | zero => omega
  | succ limit ih =>
    obtain ⟨step, rest, hnext, hfetches⟩ := h.fetches hstarted storeOpen
    have hbrings := hfetches.brings h
    cases step with
    | finished => exact ⟨[], .finished, rest, by rw [MatchCursor.drain, hnext], hbrings⟩
    | failed failure => exact ⟨[], .failed failure, rest, by rw [MatchCursor.drain, hnext], hbrings⟩
    | pair found =>
      cases hfetches with
      | taken hover hheld hopen htakes =>
        cases htakes with
        | @pair row others hgood =>
          have hpending := h.pending hover
          obtain ⟨more, left, hsplit, hmore, hstands⟩ := hbrings.rows
          obtain ⟨only, rfl, hpair⟩ := List.map_eq_singleton_iff.mp hmore.symm
          obtain ⟨rfl, rfl⟩ := List.cons.inj hsplit
          rw [hpending, List.map_cons, List.length_cons] at hlimit
          obtain ⟨pairs, last, final, hdrain, hrest⟩ :=
            ih hstands (by simp) (by simpa using hlimit)
          refine ⟨row.pair :: pairs, last, final, ?_, hrest.cons hover rfl rfl⟩
          rw [MatchCursor.drain, hnext]
          simp only [hdrain]

end MatchCursor
end BinaryDiff
