import BinaryDiff.Proofs.Cursor.Deliveries

/-!
# Where the failures of the database surface

Cursors are meant to keep the failures of the database to themselves: a fetch yields a match,
reports the end, or fails as a failure of reading, and closing always succeeds.  This is so as long
as no store is closed before its cursors.  Once it is, a pass under way fails with the failure of
giving the rows back, and so does every attempt to close a cursor that still holds them
(`Reaches.answers`).
-/

namespace BinaryDiff

namespace History

/-- Whether the store of a cursor was closed while its pass was under way and its rows were held. -/
def Severed (history : History) (place : Nat) : Prop :=
  ∃ store width, history.Queried place store width ∧ history.StoreClosed store ∧
    history.Iterated place ∧ ¬ history.Ended place ∧ ¬ history.Closed place

/-- Whether the store of a cursor was closed and its rows were not given back, be it that its pass
has not ended or that it was stranded. -/
def Locked (history : History) (place : Nat) : Prop :=
  ∃ store width, history.Queried place store width ∧ history.StoreClosed store ∧
    ¬ history.Closed place ∧ (history.Ended place → history.Stranded place)

end History

/-- The answers that a fetch is meant to have. -/
inductive Reply.ProperFetch : Reply → Prop
  | pair (pair : AddressPair) : ProperFetch (.fetched [pair] none)
  | finished : ProperFetch (.fetched [] (some .finished))
  | failed {path : String} {failure : Failure} : ReadFailure path failure →
      ProperFetch (.fetched [] (some (.failed failure)))

namespace Tracked

variable {session : Session} {history : History} {place : Nat} {entry : SessionCursor}

lemma storeOpen_eq_false_iff (h : Tracked session history)
    (hentry : session.cursors[place]? = some entry) :
    session.storeOpen entry.store = false ↔ history.StoreClosed entry.store := by
  have hstore := List.getElem?_eq_getElem (h.placed place entry hentry)
  rw [← h.storeClosed _ _ hstore, Session.storeOpen, hstore]

lemma severed_iff (h : Tracked session history) (hentry : session.cursors[place]? = some entry) :
    history.Severed place ↔ session.storeOpen entry.store = false ∧
      entry.cursor.phase ≠ .untouched ∧ entry.cursor.phase ≠ .over ∧ entry.cursor.held = true := by
  have hfollows := h.follows place entry hentry
  simp only [History.Severed, h.queried, h.storeOpen_eq_false_iff hentry, hfollows.iterated, ne_eq,
    hfollows.ended, hfollows.held]
  constructor
  · rintro ⟨store, width, ⟨found, hfound, rfl, -⟩, hclosed, hiterated, hended, hheld⟩
    rw [hentry] at hfound
    cases hfound
    exact ⟨hclosed, hiterated, hended, hheld, fun hover => absurd hover hended⟩
  · rintro ⟨hclosed, hiterated, hended, hheld, -⟩
    exact ⟨_, _, ⟨entry, hentry, rfl, rfl⟩, hclosed, hiterated, hended, hheld⟩

lemma locked_iff (h : Tracked session history) (hentry : session.cursors[place]? = some entry) :
    history.Locked place ↔
      session.storeOpen entry.store = false ∧ entry.cursor.held = true := by
  have hfollows := h.follows place entry hentry
  simp only [History.Locked, h.queried, h.storeOpen_eq_false_iff hentry, hfollows.held]
  constructor
  · rintro ⟨store, width, ⟨found, hfound, rfl, -⟩, hclosed, hheld⟩
    rw [hentry] at hfound
    cases hfound
    exact ⟨hclosed, hheld⟩
  · rintro ⟨hclosed, hheld⟩
    exact ⟨_, _, ⟨entry, hentry, rfl, rfl⟩, hclosed, hheld⟩

/-- Nothing is told of a cursor that does not exist. -/
lemma untold_of_none (h : Tracked session history) (hnone : session.cursors[place]? = none) :
    ¬ history.Iterated place ∧ ¬ history.Ended place ∧ ¬ history.Closed place := by
  have hfresh := h.noCursor place ⟨⟨"", .function, 0⟩, [], 0, true, .untouched⟩
    (List.getElem?_eq_none_iff.mp hnone) rfl rfl
  rw [← hfresh.iterated, ← hfresh.ended]
  exact ⟨by simp, by simp, (hfresh.held.mp rfl).1⟩

lemma not_queried_of_none (h : Tracked session history) (hnone : session.cursors[place]? = none)
    (store : Nat) (width : Int) : ¬ history.Queried place store width := by
  rw [h.queried]
  rintro ⟨entry, hentry, -⟩
  rw [hnone] at hentry
  cases hentry

/-- The answers to a fetch of rows that fail, if they do, with errors of the database library.
Without a pass there is none; a severed pass lets the failure of the database out; any other answer
is as it should be, but for a width that no address can have. -/
lemma next_answer (h : Tracked session history) (place : Nat)
    (hrows : ∀ entry, session.cursors[place]? = some entry → entry.cursor.phase ≠ .over →
      ∀ error : ForeignError, .error error ∈ entry.cursor.pending → error.ofDatabase = true) :
    (¬ history.Iterated place → (session.run (.next place)).2.2 = .absent) ∧
      (history.Severed place →
        (session.run (.next place)).2.2 = .fetched [] (some (.failed .databaseClosed))) ∧
      (history.Iterated place → ¬ history.Severed place →
        (session.run (.next place)).2.2.ProperFetch ∨
          (session.run (.next place)).2.2 = .fetched [] (some (.failed .negativeWidth)) ∧
            ∃ store width, history.Queried place store width ∧ width < 0) := by
  rw [Session.run, Session.onCursor]
  cases hentry : session.cursors[place]? with
  | none =>
    have hiterated := (h.untold_of_none hentry).1
    refine ⟨fun _ => rfl, ?_, fun hdone => absurd hdone hiterated⟩
    rintro ⟨store, width, -, -, hdone, -⟩
    exact absurd hdone hiterated
  | some entry =>
    rw [h.severed_iff hentry, ← (h.follows place entry hentry).iterated]
    by_cases hphase : entry.cursor.phase = .untouched
    · simp [MatchCursor.next, hphase]
    -- a pass that was asked for is severed exactly if the fetch strands it
    obtain ⟨step, rest, hnext, hends | ⟨pair, rfl, hyields⟩⟩ :=
      MatchCursor.next_cases (session.storeOpen entry.store) hphase
    · simp only [hnext]
      refine ⟨fun hnot => absurd hphase hnot, ?_, fun _ hsevered => ?_⟩
      · rintro ⟨hclosed, -, hover, hheld⟩
        cases hends with
        | again hphase => exact absurd hphase hover
        | finished _ hopen => simp [hopen hheld] at hclosed
        | failed _ hopen => simp [hopen hheld] at hclosed
        | stranded => rfl
      · cases hends with
        | again => exact .inl .finished
        | finished => exact .inl .finished
        | failed hover _ hfailure =>
          cases hfailure with
          | read hread => exact .inl (.failed hread)
          | negativeWidth hwidth =>
            exact .inr ⟨rfl, _, _, (h.queried _ _ _).mpr ⟨entry, hentry, rfl, rfl⟩, hwidth⟩
          | foreign hmem hkind => cases (hrows entry hentry hover _ hmem).symm.trans hkind
        | stranded hover hheld hclosed =>
          exact absurd ⟨hclosed, hphase, hover, hheld⟩ hsevered
    · simp only [hnext]
      refine ⟨fun hnot => absurd hphase hnot, ?_, fun _ _ => .inl (.pair pair)⟩
      rintro ⟨hclosed, -⟩
      simp [hyields.isOpen] at hclosed

/-- The answers to closing a cursor.  It succeeds unless the rows are locked. -/
lemma closeCursor_answer (h : Tracked session history) (place : Nat) :
    ((∀ store width, ¬ history.Queried place store width) →
        (session.run (.closeCursor place)).2.2 = .absent) ∧
      (history.Locked place →
        session.run (.closeCursor place) = ([], session, .failed .databaseClosed)) ∧
      ∀ store width, history.Queried place store width → ¬ history.Locked place →
        (session.run (.closeCursor place)).2.2 = .done := by
  rw [Session.run, Session.onCursor]
  cases hentry : session.cursors[place]? with
  | none =>
    have hnot := h.not_queried_of_none hentry
    refine ⟨fun _ => rfl, ?_, fun store width hqueried => absurd hqueried (hnot store width)⟩
    rintro ⟨store, width, hqueried, -⟩
    exact absurd hqueried (hnot store width)
  | some entry =>
    rw [h.locked_iff hentry]
    refine ⟨fun hnot => ?_, ?_, fun store width _ hlocked => ?_⟩
    · exact absurd ((h.queried _ _ _).mpr ⟨entry, hentry, rfl, rfl⟩) (hnot _ _)
    · rintro ⟨hclosed, hheld⟩
      simp [MatchCursor.close, hclosed, hheld]
    · cases hheld : entry.cursor.held with
      | false => simp [MatchCursor.close, hheld]
      | true =>
        have hopen : session.storeOpen entry.store = true := by simpa [hheld] using hlocked
        simp [MatchCursor.close, hheld, hopen]

/-- Closing a cursor again does nothing. -/
lemma closeCursor_again (h : Tracked session history) (hclosed : history.Closed place) :
    session.run (.closeCursor place) = ([], session, .done) := by
  rw [Session.run, Session.onCursor]
  cases hentry : session.cursors[place]? with
  | none => exact absurd hclosed (h.untold_of_none hentry).2.2
  | some entry =>
    have hheld : entry.cursor.held ≠ true :=
      fun hheld => ((h.follows place entry hentry).held.mp hheld).1 hclosed
    have hsame : session.setCursor place entry entry.cursor = session := by
      obtain ⟨hlt, rfl⟩ := List.getElem?_eq_some_iff.mp hentry
      rw [Session.setCursor, List.set_getElem_self hlt]
    simp only [MatchCursor.close, if_neg hheld, hsame]

/-- A store can be closed whenever it was opened. -/
lemma closeStore_answer (h : Tracked session history) (place : Nat) :
    (¬ history.Opened place → (session.run (.closeStore place)).2.2 = .absent) ∧
      (history.Opened place → (session.run (.closeStore place)).2.2 = .done) := by
  rw [← h.opened, Session.run]
  constructor
  · intro hnot
    rw [List.getElem?_eq_none (Nat.le_of_not_lt hnot)]
  · intro hlt
    rw [List.getElem?_eq_getElem hlt]

end Tracked

/-- What a cursor has yet to fetch are rows of its table, which fail, if they do, with errors of the
database library. -/
lemma Reaches.ofDatabase_of_pending {history : History} {session : Session}
    (h : Reaches history session) {place : Nat} {entry : SessionCursor}
    (hentry : session.cursors[place]? = some entry) (hphase : entry.cursor.phase ≠ .over)
    {error : ForeignError} (hmem : .error error ∈ entry.cursor.pending) :
    error.ofDatabase = true := by
  obtain ⟨granularity, hquery⟩ := (h.tracked.queried place _ _).mpr ⟨entry, hentry, rfl, rfl⟩
  obtain ⟨opened, found, hserves⟩ := h.accounts.serves hquery
  cases hentry.symm.trans hserves.placed
  obtain ⟨read, unread, -, -, hstands⟩ := hserves.accounts.stands
  rw [hstands.pending hphase] at hmem
  obtain ⟨stored, -, hfetch⟩ := List.mem_map.mp hmem
  exact StoredMatch.ofDatabase_of_fetch hfetch

/-- What stores and cursors answer, after whatever was asked of them before.  The failure of the
database comes out of a fetch exactly if the pass was severed, and out of closing a cursor exactly
if its rows are locked; it changes nothing then.  All other answers are as they are meant to be, and
closing a cursor again does nothing. -/
theorem Reaches.answers {history : History} {session : Session} (h : Reaches history session)
    (place : Nat) :
    let fetched := (session.run (.next place)).2.2
    let closed := (session.run (.closeCursor place)).2.2
    ((¬ history.Iterated place → fetched = .absent) ∧
        (history.Severed place → fetched = .fetched [] (some (.failed .databaseClosed))) ∧
        (history.Iterated place → ¬ history.Severed place → fetched.ProperFetch ∨
          fetched = .fetched [] (some (.failed .negativeWidth)) ∧
            ∃ store width, history.Queried place store width ∧ width < 0)) ∧
      (((∀ store width, ¬ history.Queried place store width) → closed = .absent) ∧
        (history.Locked place →
          session.run (.closeCursor place) = ([], session, .failed .databaseClosed)) ∧
        ∀ store width, history.Queried place store width → ¬ history.Locked place →
          closed = .done) ∧
      ((¬ history.Opened place → (session.run (.closeStore place)).2.2 = .absent) ∧
        (history.Opened place → (session.run (.closeStore place)).2.2 = .done)) ∧
      (history.Closed place → session.run (.closeCursor place) = ([], session, .done)) :=
  ⟨h.tracked.next_answer place fun _ hentry hphase _ => h.ofDatabase_of_pending hentry hphase,
    h.tracked.closeCursor_answer place,
    h.tracked.closeStore_answer place, h.tracked.closeCursor_again⟩

/-- A file system with a database of two function matches in the file `a.db`. -/
def Sample.twoMatches : Surroundings :=
  ⟨⟨[(["a.db"], .file (.database
    ⟨[⟨"function", ["address1", "address2"],
      [[.integer 1, .integer 2], [.integer 3, .integer 4]]⟩]⟩ false))]⟩, ⟨1, []⟩, ⟨1, []⟩, [], []⟩

/-- What is asked and answered when a store is closed before the first match is fetched. -/
def Sample.severing : History :=
  [(.closeStore 0, .done), (.iterate 0, .done), (.query 0 .function 64, .cursor 0),
    (.openStore Sample.twoMatches (.ofText "a.db"), .store 0)]

/-- A store that is closed before the first match is fetched severs the pass and locks the rows. -/
theorem Reaches.answers_sample :
    ∃ session, Reaches Sample.severing session ∧ Sample.severing.Severed 0 ∧
      Sample.severing.Locked 0 ∧
      (session.run (.next 0)).2.2 = .fetched [] (some (.failed .databaseClosed)) ∧
      session.run (.closeCursor 0) = ([], session, .failed .databaseClosed) := by
  have hreaches : Reaches Sample.severing _ :=
    (((Reaches.start.step (.openStore Sample.twoMatches (.ofText "a.db"))).step
      (.query 0 .function 64)).step (.iterate 0)).step (.closeStore 0)
  have hqueried : Sample.severing.Queried 0 0 64 := ⟨.function, by simp [Sample.severing]⟩
  have hstore : Sample.severing.StoreClosed 0 := by simp [History.StoreClosed, Sample.severing]
  have hiterated : Sample.severing.Iterated 0 := by simp [History.Iterated, Sample.severing]
  have hended : ¬ Sample.severing.Ended 0 := by
    simp [History.Ended, History.EndedBy, Sample.severing]
  have hclosed : ¬ Sample.severing.Closed 0 := by simp [History.Closed, Sample.severing]
  have hsevered : Sample.severing.Severed 0 :=
    ⟨0, 64, hqueried, hstore, hiterated, hended, hclosed⟩
  have hlocked : Sample.severing.Locked 0 :=
    ⟨0, 64, hqueried, hstore, hclosed, fun hdone => absurd hdone hended⟩
  exact ⟨_, hreaches, hsevered, hlocked, (hreaches.answers 0).1.2.1 hsevered,
    (hreaches.answers 0).2.1.2.1 hlocked⟩

/-- The failure of the database does come out: if a store is closed between two fetches, the second
of them fails with it, and so does closing the cursor instead. -/
theorem fetch_not_proper :
    let session := [.openStore Sample.twoMatches (.ofText "a.db"), .query 0 .function 64,
      .iterate 0, .next 0, .closeStore 0].foldl
        (fun session command => (Session.run session command).2.1) Session.empty
    (session.run (.next 0)).2.2 = .fetched [] (some (.failed .databaseClosed)) ∧
      ¬ (session.run (.next 0)).2.2.ProperFetch ∧
      (session.run (.closeCursor 0)).2.2 = .failed .databaseClosed := by
  intro session
  have hnext : (session.run (.next 0)).2.2 = .fetched [] (some (.failed .databaseClosed)) := rfl
  refine ⟨hnext, ?_, rfl⟩
  rw [hnext]
  rintro (_ | _ | ⟨⟨⟩⟩)

end BinaryDiff
