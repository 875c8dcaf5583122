import BinaryDiff.Proofs.Cursor.Containment
import BinaryDiff.Proofs.Cursor.Deliveries

/-!
# The protocol of cursors

A cursor is a single pass over the rows that its table had when it was queried.  `KeepsProtocol`
says what this means for a whole run, in which any number of other cursors may have been used in
between: what the cursor has delivered, that its pass is handed out once, when the pass may end, and
that nothing happens after it has ended.  Every cursor of every session that can be reached keeps to
it (`Reaches.cursor_protocol`).

The proof goes back from the session to the one that gave the answer in question: an initial part of
a history leads to a session too, whose cursors read their rows as they still do
(`Reaches.answered`).
-/

namespace BinaryDiff

/-! ### Sessions on the way -/

/-- Whether the cursors of a session are still there later, and read their rows as they did. -/
def Session.Keeps (before after : Session) : Prop :=
  ∀ (place : Nat) (entry : SessionCursor), before.cursors[place]? = some entry →
    ∃ kept, after.cursors[place]? = some kept ∧ kept.cursor.reader = entry.cursor.reader

namespace Session.Keeps

variable {before between after : Session}

lemma refl (session : Session) : session.Keeps session :=
  fun _ entry hentry => ⟨entry, hentry, rfl⟩

lemma trans (h : before.Keeps between) (h' : between.Keeps after) : before.Keeps after := by
  intro place entry hentry
  obtain ⟨middle, hmiddle, hreader⟩ := h place entry hentry
  obtain ⟨kept, hkept, hreader'⟩ := h' place middle hmiddle
  exact ⟨kept, hkept, hreader'.trans hreader⟩

lemma setCursor {place : Nat} {entry : SessionCursor} {cursor : MatchCursor}
    (hentry : before.cursors[place]? = some entry) (hreader : cursor.reader = entry.cursor.reader) :
    before.Keeps (before.setCursor place entry cursor) := by
  intro other found hfound
  by_cases heq : other = place
  · subst heq
    rw [hentry] at hfound
    cases hfound
    exact ⟨_, Session.getElem?_setCursor_self entry cursor hentry, hreader⟩
  · exact ⟨found, (Session.getElem?_setCursor_ne heq).trans hfound, rfl⟩

end Session.Keeps

lemma Effect.keeps {session after : Session} {command : Command} {reply : Reply}
    (h : Effect session command after reply) : session.Keeps after := by
  cases h with
  | refused | storeOpened | storeClosed => exact fun _ entry hentry => ⟨entry, hentry, rfl⟩
  | queried =>
    intro place entry hentry
    exact ⟨entry, getElem?_concat_eq_some.mpr (.inl hentry), rfl⟩
  | iterated hentry | cursorClosed hentry => exact .setCursor hentry rfl
  | yielded _ hentry _ hyields => exact .setCursor hentry hyields.reader
  | ended hentry _ hends | drained hentry _ hends => exact .setCursor hentry hends.reader

namespace Reaches

variable {session : Session} {later earlier : History} {command : Command} {reply : Reply}

lemma of_cons (h : Reaches ((command, reply) :: earlier) session) :
    ∃ before, Reaches earlier before ∧ reply = (before.run command).2.2 ∧
      session = (before.run command).2.1 := by
  cases h with
  | step command hbefore => exact ⟨_, hbefore, rfl, rfl⟩

/-- What came first in a history has led to a session on the way. -/
lemma before (h : Reaches (later ++ earlier) session) :
    ∃ before, Reaches earlier before ∧ before.Keeps session := by
  induction later generalizing session with
  | nil => exact ⟨session, h, .refl session⟩
  | cons latest later ih =>
    obtain ⟨between, hbetween, -, rfl⟩ := h.of_cons
    obtain ⟨before, hbefore, hkeeps⟩ := ih hbetween
    exact ⟨before, hbefore, hkeeps.trans (effect_run between latest.1).keeps⟩

/-- An answer that came after an initial part of a history was given by a session on the way, whose
history that part began. -/
lemma answered (h : Reaches (later ++ earlier) session) (hmem : (command, reply) ∈ later) :
    ∃ between before, Reaches (between ++ earlier) before ∧ before.Keeps session ∧
      reply = (before.run command).2.2 := by
  obtain ⟨last, between, rfl⟩ := List.append_of_mem hmem
  rw [List.append_assoc, List.cons_append] at h
  obtain ⟨after, hafter, hkeeps⟩ := h.before
  obtain ⟨before, hbefore, hreply, rfl⟩ := hafter.of_cons
  exact ⟨between, before, hbefore, (effect_run before command).keeps.trans hkeeps, hreply⟩

end Reaches

/-! ### After the pass was asked for, and after its end -/

namespace Tracked

variable {session : Session} {history : History} {place : Nat} {entry : SessionCursor}

lemma exists_cursor (h : Tracked session history) (hiterated : history.Iterated place) :
    ∃ entry, session.cursors[place]? = some entry ∧ entry.cursor.phase ≠ .untouched := by
  cases hentry : session.cursors[place]? with
  | none => exact absurd hiterated (h.untold_of_none hentry).1
  | some entry => exact ⟨entry, rfl, (h.follows place entry hentry).iterated.mpr hiterated⟩

lemma exists_over (h : Tracked session history) (hended : history.Ended place) :
    ∃ entry, session.cursors[place]? = some entry ∧ entry.cursor.phase = .over := by
  cases hentry : session.cursors[place]? with
  | none => exact absurd hended (h.untold_of_none hentry).2.1
  | some entry => exact ⟨entry, rfl, (h.follows place entry hentry).ended.mpr hended⟩

/-- A second pass is refused. -/
lemma iterate_again (h : Tracked session history) (hentry : session.cursors[place]? = some entry)
    (hiterated : history.Iterated place) :
    (session.run (.iterate place)).2.2
      = .failed (.alreadyConsumed entry.cursor.reader.granularity) := by
  have hphase := (h.follows place entry hentry).iterated.mpr hiterated
  rw [Session.run, Session.onCursor, hentry]
  simp only [MatchCursor.iterate, if_neg hphase]

/-- A fetch after the end reports the end. -/
lemma next_again (h : Tracked session history) (hended : history.Ended place) :
    (session.run (.next place)).2.2 = .fetched [] (some .finished) := by
  obtain ⟨entry, hentry, hover⟩ := h.exists_over hended
  rw [Session.run, Session.onCursor, hentry]
  simp only [MatchCursor.next, hover]
  rfl

/-- No command brings a match of a cursor whose pass has ended. -/
lemma pairs_of_ended (h : Tracked session history) (hended : history.Ended place)
    {command : Command} (hcommand : command.cursor? = some place) :
    (session.run command).2.2.pairs = [] := by
  obtain ⟨entry, hentry, hover⟩ := h.exists_over hended
  obtain ⟨rest, -, hhandles⟩ := handles_run session command hentry
  generalize (session.run command).2.2 = reply at hhandles
  cases hhandles with
  | apart hrefuses => exact (hrefuses hcommand).plain.pairs
  | iterated | closed => rfl
  | fetched _ hnext =>
    rw [MatchCursor.next, hover] at hnext
    cases hnext
    rfl
  | drained _ hdrain =>
    rw [MatchCursor.enough, MatchCursor.drain, MatchCursor.next, hover] at hdrain
    cases hdrain
    rfl

end Tracked

/-- Nothing is delivered by a cursor whose pass has ended. -/
theorem Reaches.delivered_of_ended {session : Session} {later earlier : History} {place : Nat}
    (h : Reaches (later ++ earlier) session) (hended : earlier.Ended place) :
    History.delivered (later ++ earlier) place = earlier.delivered place := by
  induction later generalizing session with
  | nil => rfl
  | cons latest later ih =>
    obtain ⟨command, reply⟩ := latest
    obtain ⟨before, hbefore, rfl, -⟩ := h.of_cons
    rw [List.cons_append, History.delivered, ih hbefore]
    split
    · rename_i hcommand
      rw [hbefore.tracked.pairs_of_ended (hended.append later) hcommand, List.append_nil]
    · rw [List.append_nil]

/-! ### The protocol -/

/-- What a fetch comes to that looks at the row of a given number. -/
inductive Reads (reader : RowReader) (rows : List StoredMatch) (index : Nat) : Step → Prop
  | finished : rows[index]? = none → Reads reader rows index .finished
  | pair {row : StoredMatch} : rows[index]? = some row → row.Good reader.width.toNat →
      Reads reader rows index (.pair row.pair)
  | failed {row : StoredMatch} {failure : Failure} : rows[index]? = some row →
      ¬ row.Good reader.width.toNat → Flawed reader index row failure →
      Reads reader rows index (.failed failure)
  | unmeasured {row : StoredMatch} : rows[index]? = some row → reader.width < 0 →
      Reads reader rows index (.failed .negativeWidth)

/-- What takes the first unread row looks at the row whose number is that of the rows read. -/
lemma MatchCursor.Stands.reads {cursor rest : MatchCursor} {read unread : List StoredMatch}
    {step : Step} (h : cursor.Stands read unread) (htakes : cursor.Takes unread step rest) :
    Reads cursor.reader (read ++ unread) cursor.rowsRead step := by
  have hrow : (read ++ unread)[cursor.rowsRead]? = unread[0]? := by
    rw [h.rowsRead, List.getElem?_append_right (Nat.le_refl _), Nat.sub_self]
  cases htakes with
  | finished => exact .finished (by rw [hrow]; rfl)
  | pair hgood => exact .pair (by rw [hrow]; rfl) hgood
  | @failed row others failure hpair =>
    have hfirst : (read ++ row :: others)[cursor.rowsRead]? = some row := hrow.trans rfl
    rcases cursor.reader.pair_outcomes row cursor.rowsRead with
      ⟨-, hgood⟩ | ⟨hbad, other, hother, hflawed⟩ | ⟨hnegative, hother⟩
    · rw [hgood] at hpair
      cases hpair
    · rw [hother] at hpair
      cases hpair
      exact .failed hfirst hbad hflawed
    · rw [hother] at hpair
      cases hpair
      exact .unmeasured hfirst hnegative

/-- What a history and the session that it has led to say of a cursor over the rows of a table, if
the cursor keeps to the protocol. -/
structure KeepsProtocol (session : Session) (history : History) (place store : Nat)
    (rows : List StoredMatch) (cursor : MatchCursor) : Prop where
  /-- It has delivered the matches of the first rows, one for each row that it counts. -/
  delivered : history.delivered place = (rows.take cursor.rowsRead).map StoredMatch.pair
  counted : (history.delivered place).length = cursor.rowsRead
  good : ∀ row ∈ rows.take cursor.rowsRead, row.Good cursor.reader.width.toNat
  /-- Its pass can be asked for, once, and no more whatever was done since then. -/
  first : ¬ history.Iterated place → (session.run (.iterate place)).2.2 = .done
  once : ∀ later earlier, history = later ++ earlier → History.Iterated earlier place →
    ∀ reply, (.iterate place, reply) ∈ later →
      reply = .failed (.alreadyConsumed cursor.reader.granularity)
  /-- The next row is looked at as long as the pass goes on and nothing was closed. -/
  next : history.Iterated place → ¬ history.Ended place → ¬ history.Closed place →
    ¬ history.StoreClosed store → ∃ step, Reads cursor.reader rows cursor.rowsRead step ∧
      (session.run (.next place)).2.2 = .fetched step.pairs step.last?
  /-- A pass that was cut short by closing the cursor fails instead of ending. -/
  cutShort : history.Closed place → history.Fetched place → ¬ history.Ended place →
    (session.run (.next place)).2.2 = .fetched [] (some (.failed
      (.diff (.unreadable cursor.reader.path "Cannot operate on a closed cursor."))))
  /-- Without a failure the pass ends after the last row, or before the first. -/
  ended : history.Ended place → ¬ history.Failed place →
    cursor.rowsRead = rows.length ∨ history.ClosedUnread place
  /-- After the end or a failure nothing is delivered, and every fetch reports the end. -/
  afterEnd : ∀ later earlier, history = later ++ earlier → History.Ended earlier place →
    history.delivered place = earlier.delivered place ∧
      ∀ reply, (.next place, reply) ∈ later → reply = .fetched [] (some .finished)

section Serves

variable {session : Session} {history : History} {place store : Nat} {granularity : Granularity}
  {width : Int} {opened : Store} {entry : SessionCursor}

/-- While the store of a cursor stays open, the cursor finds it open. -/
lemma Serves.storeOpen (h : Serves session history place store granularity width opened entry)
    (htracked : Tracked session history) (hopen : ¬ history.StoreClosed store) :
    opened.isOpen = true ∧ session.storeOpen entry.store = true := by
  have hisOpen : opened.isOpen = true := by
    rw [← Bool.not_eq_false, htracked.storeClosed store opened h.stored]
    exact hopen
  refine ⟨hisOpen, ?_⟩
  rw [Session.storeOpen, h.store_eq, h.stored]
  exact hisOpen

/-- A cursor that accounts for the history of its session keeps to the protocol. -/
theorem Serves.keepsProtocol (hreaches : Reaches history session)
    (h : Serves session history place store granularity width opened entry) :
    KeepsProtocol session history place store (opened.database.matchesOf granularity)
      entry.cursor := by
  have htracked := hreaches.tracked
  have hfollows := htracked.follows place entry h.placed
  obtain ⟨read, unread, hrows, hdelivered, hstands⟩ := h.accounts.stands
  have hread : (opened.database.matchesOf granularity).take entry.cursor.rowsRead = read := by
    rw [hrows, hstands.rowsRead, List.take_left]
  have hrun : ∀ {step rest}, entry.cursor.next (session.storeOpen entry.store) = some (step, rest) →
      (session.run (.next place)).2.2 = .fetched step.pairs step.last? := by
    intro step rest hnext
    rw [Session.run, Session.onCursor, h.placed]
    simp only [hnext, Session.report_eq]
  constructor
  · rw [hread, hdelivered]
  · rw [hdelivered, List.length_map, hstands.rowsRead]
  · rw [hread]
    exact hstands.good
  · intro hiterated
    have hphase : entry.cursor.phase = .untouched := by
      by_contra hstarted
      exact hiterated (hfollows.iterated.mp hstarted)
    rw [Session.run, Session.onCursor, h.placed]
    simp only [MatchCursor.iterate, if_pos hphase]
  · rintro later earlier rfl hiterated reply hmem
    obtain ⟨between, before, hbefore, hkeeps, rfl⟩ := hreaches.answered hmem
    have hagain := hiterated.append between
    obtain ⟨found, hfound, -⟩ := hbefore.tracked.exists_cursor hagain
    obtain ⟨kept, hkept, hreader⟩ := hkeeps place found hfound
    rw [h.placed] at hkept
    cases hkept
    rw [hbefore.tracked.iterate_again hfound hagain, hreader]
  · intro hiterated hended hclosed hopen
    have hover : entry.cursor.phase ≠ .over := fun hover => hended (hfollows.ended.mp hover)
    have hheld : entry.cursor.held = true :=
      hfollows.held.mpr ⟨hclosed, fun hdone => absurd hdone hended⟩
    obtain ⟨step, rest, hnext, hfetches⟩ := hstands.fetches (hfollows.iterated.mpr hiterated)
      (session.storeOpen entry.store)
    refine ⟨step, ?_, hrun hnext⟩
    rw [hrows]
    cases hfetches with
    | again hphase => exact absurd hphase hover
    | taken _ _ _ htakes => exact hstands.reads htakes
    | stranded _ _ hshut => simp [(h.storeOpen htracked hopen).2] at hshut
    | unread _ hgiven | givenBack _ hgiven => simp [hheld] at hgiven
  · intro hclosed hfetched hended
    have hover : entry.cursor.phase ≠ .over := fun hover => hended (hfollows.ended.mp hover)
    have hunderWay := (h.accounts.fetched hover).mpr hfetched
    have hheld : entry.cursor.held = false := by
      rw [← Bool.not_eq_true, hfollows.held]
      exact fun hholds => hholds.1 hclosed
    have hnext : entry.cursor.next (session.storeOpen entry.store)
        = some (.failed entry.cursor.rowsGivenBack, entry.cursor.finish) := by
      simp [MatchCursor.next, hunderWay, hheld]
    exact hrun hnext
  · intro hended hfailed
    rcases h.accounts.atEnd (hfollows.ended.mpr hended) with hall | hunread | hfailure
    · exact .inl hall
    · exact .inr hunread
    · exact absurd hfailure hfailed
  · rintro later earlier rfl hended
    refine ⟨hreaches.delivered_of_ended hended, fun reply hmem => ?_⟩
    obtain ⟨between, before, hbefore, -, rfl⟩ := hreaches.answered hmem
    exact hbefore.tracked.next_again (hended.append between)

end Serves

/-- Every cursor keeps to the protocol, whatever was done with it and with others, over the rows
that the table in its store has; and while the store stays open, every new query of the table starts
before the first row. -/
theorem Reaches.cursor_protocol {history : History} {session : Session}
    (h : Reaches history session)
    {place store : Nat} {granularity : Granularity} {width : Int}
    (hquery : (.query store granularity width, .cursor place) ∈ history) :
    ∃ opened entry, session.stores[store]? = some opened ∧
      session.cursors[place]? = some entry ∧ entry.store = store ∧
      entry.cursor.reader = ⟨opened.path, granularity, width⟩ ∧
      KeepsProtocol session history place store (opened.database.matchesOf granularity)
        entry.cursor ∧
      (¬ history.StoreClosed store → ∀ width,
        session.run (.query store granularity width)
          = ([MatchCursor.queried opened granularity],
              { session with
                cursors := session.cursors ++ [⟨store, .start opened granularity width⟩] },
              .cursor session.cursors.length)) := by
  obtain ⟨opened, entry, hserves⟩ := h.accounts.serves hquery
  refine ⟨opened, entry, hserves.stored, hserves.placed, hserves.store_eq, hserves.reader_eq,
    hserves.keepsProtocol h, fun hopen width => ?_⟩
  exact Session.run_query hserves.stored (hserves.storeOpen h.tracked hopen).1 hserves.known width

/-- What is asked and answered when two passes over one table are mixed: the first of them is cut
short by closing its cursor, the second runs to its end. -/
def Sample.interleaved : History :=
  [(.next 1, .fetched [] (some .finished)), (.next 1, .fetched [⟨3, 4⟩] none),
    (.iterate 0, .failed (.alreadyConsumed .function)), (.closeCursor 0, .done),
    (.next 1, .fetched [⟨1, 2⟩] none), (.next 0, .fetched [⟨1, 2⟩] none), (.iterate 1, .done),
    (.iterate 0, .done), (.query 0 .function 64, .cursor 1), (.query 0 .function 64, .cursor 0),
    (.openStore Sample.twoMatches (.ofText "a.db"), .store 0)]

/-- Two cursors over one table keep to the protocol side by side. -/
theorem Reaches.cursor_protocol_interleaved :
    ∃ session, Reaches Sample.interleaved session ∧
      (.query 0 .function 64, .cursor 0) ∈ Sample.interleaved ∧
      Sample.interleaved.delivered 0 = [⟨1, 2⟩] ∧
      Sample.interleaved.delivered 1 = [⟨1, 2⟩, ⟨3, 4⟩] ∧
      ∃ opened entry, session.stores[0]? = some opened ∧ session.cursors[0]? = some entry ∧
        KeepsProtocol session Sample.interleaved 0 0 (opened.database.matchesOf .function)
          entry.cursor := by
  have hopened : Reaches [(.openStore Sample.twoMatches (.ofText "a.db"), .store 0)] _ :=
    Reaches.start.step (.openStore Sample.twoMatches (.ofText "a.db"))
  have hreaches : Reaches Sample.interleaved _ :=
    (((((((((hopened.step (.query 0 .function 64)).step (.query 0 .function 64)).step
      (.iterate 0)).step (.iterate 1)).step (.next 0)).step (.next 1)).step
      (.closeCursor 0)).step (.iterate 0)).step (.next 1)).step (.next 1)
  have hquery : (.query 0 .function 64, .cursor 0) ∈ Sample.interleaved := by
    simp [Sample.interleaved]
  obtain ⟨opened, entry, hstored, hplaced, -, -, hkeeps, -⟩ := hreaches.cursor_protocol hquery
  exact ⟨_, hreaches, hquery, rfl, rfl, opened, entry, hstored, hplaced, hkeeps⟩

end BinaryDiff
