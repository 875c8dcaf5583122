import BinaryDiff.Proofs.Cursor.Position
import BinaryDiff.Proofs.Cursor.Sessions

/-!
# What the history of a session tells about deliveries

The history of a session holds every match that a cursor has delivered.  A cursor accounts for the
history if it stands after the rows of these matches, and if its pass, once it is over, has come to
the last row, has failed, or had lost its rows before the first was fetched.  Every command keeps
all cursors so, whichever of them it is about (`Reaches.accounts`): a command about another cursor
changes neither the cursor nor what the history tells about it.
-/

namespace BinaryDiff

namespace Reply

/-- The matches in an answer. -/
def pairs : Reply → List AddressPair
  | .fetched pairs _ => pairs
  | _ => []

/-- Whether an answer comes of no fetch. -/
def Plain (reply : Reply) : Prop :=
  ∀ pairs last, reply ≠ .fetched pairs last

lemma Plain.pairs {reply : Reply} (h : reply.Plain) : reply.pairs = [] := by
  cases reply with
  | fetched pairs last => exact absurd rfl (h pairs last)
  | _ => rfl

lemma plain_done : Plain .done := by
  simp [Plain]

lemma Refuses.plain {reply : Reply} (h : reply.Refuses) : reply.Plain := by
  cases h <;> simp [Plain]

end Reply

namespace History

/-- The matches that a cursor has delivered, the first of them in front. -/
def delivered : History → Nat → List AddressPair
  | [], _ => []
  | (command, reply) :: earlier, place =>
    delivered earlier place ++ if command.cursor? = some place then reply.pairs else []

/-- Whether a cursor was fetched from. -/
def Fetched (history : History) (place : Nat) : Prop :=
  ∃ pairs last, (.next place, .fetched pairs last) ∈ history ∨
    (.drain place, .fetched pairs last) ∈ history

/-- Whether the pass of a cursor has failed. -/
def Failed (history : History) (place : Nat) : Prop :=
  ∃ failure, history.EndedBy place (.failed failure)

/-- Whether a cursor was closed before anything was fetched from it. -/
def ClosedUnread (history : History) (place : Nat) : Prop :=
  ∃ later earlier, history = later ++ (.closeCursor place, .done) :: earlier ∧
    ¬ Fetched earlier place

variable {history earlier : History} {command : Command} {reply : Reply} {place : Nat}

lemma Fetched.append (h : earlier.Fetched place) (later : History) :
    Fetched (later ++ earlier) place := by
  obtain ⟨pairs, last, hnext | hdrain⟩ := h
  · exact ⟨pairs, last, .inl (List.mem_append_right later hnext)⟩
  · exact ⟨pairs, last, .inr (List.mem_append_right later hdrain)⟩

lemma EndedBy.append {last : Step} (h : earlier.EndedBy place last) (later : History) :
    EndedBy (later ++ earlier) place last := by
  rcases h with hnext | ⟨pairs, hdrain⟩
  · exact .inl (List.mem_append_right later hnext)
  · exact .inr ⟨pairs, List.mem_append_right later hdrain⟩

lemma Ended.append (h : earlier.Ended place) (later : History) :
    Ended (later ++ earlier) place := by
  obtain ⟨last, hlast⟩ := h
  exact ⟨last, hlast.append later⟩

lemma Failed.append (h : earlier.Failed place) (later : History) :
    Failed (later ++ earlier) place := by
  obtain ⟨failure, hfailure⟩ := h
  exact ⟨failure, hfailure.append later⟩

lemma Iterated.append (h : earlier.Iterated place) (later : History) :
    Iterated (later ++ earlier) place :=
  List.mem_append_right later h

lemma ClosedUnread.append (h : earlier.ClosedUnread place) (later : History) :
    ClosedUnread (later ++ earlier) place := by
  obtain ⟨between, before, rfl, hbefore⟩ := h
  exact ⟨later ++ between, before, (List.append_assoc ..).symm, hbefore⟩

lemma closedUnread_of_closed (hclosed : history.Closed place) (hfetched : ¬ history.Fetched place) :
    history.ClosedUnread place := by
  obtain ⟨later, before, rfl⟩ := List.append_of_mem hclosed
  refine ⟨later, before, rfl, fun hbefore => hfetched ?_⟩
  exact (hbefore.append [(.closeCursor place, .done)]).append later

/-- Nothing is delivered by a command about another cursor, nor by an answer that comes of no
fetch. -/
lemma delivered_frame (hplain : command.cursor? = some place → reply.Plain) :
    delivered ((command, reply) :: history) place = history.delivered place := by
  rw [delivered]
  split
  · rename_i hplace
    rw [(hplain hplace).pairs, List.append_nil]
  · rw [List.append_nil]

lemma fetched_frame (hplain : command.cursor? = some place → reply.Plain) :
    Fetched ((command, reply) :: history) place ↔ history.Fetched place := by
  constructor
  · rintro ⟨pairs, last, hmem | hmem⟩ <;> rcases List.mem_cons.mp hmem with heq | hmem
    · cases heq
      exact absurd rfl (hplain rfl pairs last)
    · exact ⟨pairs, last, .inl hmem⟩
    · cases heq
      exact absurd rfl (hplain rfl pairs last)
    · exact ⟨pairs, last, .inr hmem⟩
  · exact fun h => h.append [(command, reply)]

end History

/-! ### One cursor -/

/-- A cursor accounts for the history of the cursor at a place of a session, given the rows of its
table. -/
structure AccountsFor (history : History) (place : Nat) (rows : List StoredMatch)
    (cursor : MatchCursor) : Prop where
  /-- The matches that were delivered are those of the rows that it has read. -/
  stands : ∃ read unread, rows = read ++ unread ∧
    history.delivered place = read.map StoredMatch.pair ∧ cursor.Stands read unread
  fetched : cursor.phase ≠ .over → (cursor.phase = .underWay ↔ history.Fetched place)
  atEnd : cursor.phase = .over →
    cursor.rowsRead = rows.length ∨ history.ClosedUnread place ∨ history.Failed place

namespace AccountsFor

variable {history : History} {place : Nat} {rows : List StoredMatch} {cursor rest : MatchCursor}
  {command : Command} {reply : Reply}

/-- A new cursor accounts for a history that tells nothing about it. -/
lemma start (hdelivered : history.delivered place = []) (hfetched : ¬ history.Fetched place)
    (hpending : cursor.pending = rows.map StoredMatch.fetch) (hrows : cursor.rowsRead = 0)
    (hphase : cursor.phase = .untouched) : AccountsFor history place rows cursor where
  stands := ⟨[], rows, rfl, hdelivered, hrows, by simp, fun _ => hpending⟩
  fetched _ := by simp [hphase, hfetched]
  atEnd hover := by simp [hphase] at hover

/-- What is no fetch from a cursor leaves it where it stands. -/
lemma unmoved (h : AccountsFor history place rows cursor)
    (hplain : command.cursor? = some place → reply.Plain) (hreader : rest.reader = cursor.reader)
    (hrows : rest.rowsRead = cursor.rowsRead) (hpending : rest.pending = cursor.pending)
    (hover : rest.phase = .over ↔ cursor.phase = .over)
    (hunderWay : rest.phase = .underWay ↔ cursor.phase = .underWay) :
    AccountsFor ((command, reply) :: history) place rows rest where
  stands := by
    obtain ⟨read, unread, hsplit, hdelivered, hstands⟩ := h.stands
    refine ⟨read, unread, hsplit, ?_, hrows.trans hstands.rowsRead, ?_, ?_⟩
    · rw [History.delivered_frame hplain, hdelivered]
    · rw [hreader]
      exact hstands.good
    · rw [hpending, ne_eq, hover]
      exact hstands.pending
  fetched hphase := by
    rw [ne_eq, hover] at hphase
    rw [hunderWay, History.fetched_frame hplain, h.fetched hphase]
  atEnd hphase := by
    rw [hrows]
    rcases h.atEnd (hover.mp hphase) with hall | hunread | hfailed
    · exact .inl hall
    · exact .inr (.inl (hunread.append [_]))
    · exact .inr (.inr (hfailed.append [_]))

lemma frame (h : AccountsFor history place rows cursor)
    (hplain : command.cursor? = some place → reply.Plain) :
    AccountsFor ((command, reply) :: history) place rows cursor :=
  h.unmoved hplain rfl rfl rfl Iff.rfl Iff.rfl

/-- A fetch of one match or of all moves the cursor past the rows whose matches it delivers. -/
lemma fetch (h : AccountsFor history place rows cursor) (hfollows : Follows history place cursor)
    {pairs : List AddressPair} {last : Option Step}
    (hbrings : ∀ read unread, cursor.Stands read unread →
      cursor.Brings read unread pairs last rest)
    (hcommand : command = .next place ∨ command = .drain place)
    (htold : ∀ step, last = some step →
      History.EndedBy ((command, .fetched pairs last) :: history) place step) :
    AccountsFor ((command, .fetched pairs last) :: history) place rows rest := by
  obtain ⟨read, unread, rfl, hdelivered, hstands⟩ := h.stands
  have hrest := hbrings read unread hstands
  have hplace : command.cursor? = some place := by
    rcases hcommand with rfl | rfl <;> rfl
  constructor
  · obtain ⟨more, others, rfl, rfl, hmore⟩ := hrest.rows
    refine ⟨read ++ more, others, (List.append_assoc ..).symm, ?_, hmore⟩
    rw [History.delivered, if_pos hplace, hdelivered, Reply.pairs, List.map_append]
  · intro hphase
    have hnow : History.Fetched ((command, .fetched pairs last) :: history) place := by
      rcases hcommand with rfl | rfl
      · exact ⟨pairs, last, .inl List.mem_cons_self⟩
      · exact ⟨pairs, last, .inr List.mem_cons_self⟩
    rw [hrest.phase] at hphase ⊢
    cases last with
    | none => exact iff_of_true rfl hnow
    | some step => exact absurd rfl hphase
  · intro hphase
    rw [hrest.phase] at hphase
    cases last with
    | none => cases hphase
    | some step =>
      rcases hrest.proper step rfl with rfl | ⟨failure, rfl⟩
      · -- the end: it was met before, after the last row, or without any
        rcases hrest.finished rfl with hover | hall | ⟨hready, hheld⟩
        · obtain ⟨-, -, rfl⟩ := hrest.again hover
          rcases h.atEnd hover with hall | hunread | hfailed
          · exact .inl hall
          · exact .inr (.inl (hunread.append [_]))
          · exact .inr (.inr (hfailed.append [_]))
        · exact .inl hall
        · have hnot : ¬ history.Ended place := by simp [← hfollows.ended, hready]
          have hclosed : history.Closed place := by
            by_contra hopen
            have hholds := hfollows.held.mpr ⟨hopen, fun hended => absurd hended hnot⟩
            simp [hheld] at hholds
          have hfetched : ¬ history.Fetched place := by
            rw [← h.fetched (by simp [hready]), hready]
            simp
          exact .inr (.inl ((History.closedUnread_of_closed hclosed hfetched).append [_]))
      · exact .inr (.inr ⟨failure, htold _ rfl⟩)

end AccountsFor

/-! ### What a command does to a cursor and to a store -/

/-- What a command does to the cursor at a place, if its store is open or not, and what it is
answered. -/
inductive Handles (storeOpen : Bool) (place : Nat) (cursor : MatchCursor) :
    Command → Reply → MatchCursor → Prop
  /-- Nothing, because it is about something else or was refused. -/
  | apart {command : Command} {reply : Reply} :
      (command.cursor? = some place → reply.Refuses) →
      Handles storeOpen place cursor command reply cursor
  | iterated : cursor.phase = .untouched →
      Handles storeOpen place cursor (.iterate place) .done { cursor with phase := .ready }
  | fetched {step : Step} {rest : MatchCursor} : cursor.phase ≠ .untouched →
      cursor.next storeOpen = some (step, rest) →
      Handles storeOpen place cursor (.next place) (.fetched step.pairs step.last?) rest
  | drained {pairs : List AddressPair} {last : Step} {rest : MatchCursor} :
      cursor.phase ≠ .untouched → cursor.drain storeOpen cursor.enough = (pairs, last, rest) →
      Handles storeOpen place cursor (.drain place) (.fetched pairs (some last)) rest
  | closed : Handles storeOpen place cursor (.closeCursor place) .done { cursor with held := false }

section Effect

variable {session after : Session} {command : Command} {reply : Reply} {place : Nat}
  {entry : SessionCursor}

/-- A command leaves the cursors alone that it is not about. -/
lemma Effect.cursor_frame (h : Effect session command after reply)
    (hentry : session.cursors[place]? = some entry) (hother : command.cursor? ≠ some place) :
    after.cursors[place]? = some entry := by
  cases h with
  | refused | storeOpened | storeClosed => exact hentry
  | queried => exact getElem?_concat_eq_some.mpr (.inl hentry)
  | iterated | yielded | ended | drained | cursorClosed =>
    rw [Session.getElem?_setCursor_ne]
    · exact hentry
    · rintro rfl
      exact hother rfl

/-- A store keeps its path and its contents; at most it is closed. -/
lemma Effect.store_frame (h : Effect session command after reply) {store : Store}
    (hstore : session.stores[place]? = some store) :
    ∃ isOpen, after.stores[place]? = some { store with isOpen := isOpen } := by
  cases h with
  | refused | queried => exact ⟨store.isOpen, hstore⟩
  | storeOpened => exact ⟨store.isOpen, getElem?_concat_eq_some.mpr (.inl hstore)⟩
  | @storeClosed other found hfound =>
    by_cases heq : place = other
    · subst heq
      rw [hfound] at hstore
      cases hstore
      have hlt : place < session.stores.length := (List.getElem?_eq_some_iff.mp hfound).1
      exact ⟨false, List.getElem?_set_self hlt⟩
    · exact ⟨store.isOpen, (List.getElem?_set_ne (Ne.symm heq)).trans hstore⟩
  | iterated | yielded | ended | drained | cursorClosed => exact ⟨store.isOpen, hstore⟩

lemma Effect.length_cursors_le (h : Effect session command after reply) :
    session.cursors.length ≤ after.cursors.length := by
  cases h with
  | refused | storeOpened | storeClosed => exact Nat.le_refl _
  | queried => simp
  | iterated | yielded | ended | drained | cursorClosed => simp

/-- A command handles the cursor at every place in one of these ways. -/
theorem handles_run (session : Session) (command : Command)
    (hentry : session.cursors[place]? = some entry) :
    ∃ rest, (session.run command).2.1.cursors[place]? = some { entry with cursor := rest } ∧
      Handles (session.storeOpen entry.store) place entry.cursor command
        (session.run command).2.2 rest := by
  by_cases hplace : command.cursor? = some place
  · have hset : ∀ cursor, (session.setCursor place entry cursor).cursors[place]?
        = some { entry with cursor := cursor } :=
      fun cursor => Session.getElem?_setCursor_self entry cursor hentry
    cases command with
    | openStore | closeStore | query => cases hplace
    | iterate other =>
      cases hplace
      rw [Session.run, Session.onCursor, hentry]
      simp only [MatchCursor.iterate]
      by_cases hphase : entry.cursor.phase = .untouched
      · simp only [if_pos hphase]
        exact ⟨_, hset _, .iterated hphase⟩
      · simp only [if_neg hphase]
        exact ⟨entry.cursor, hentry, .apart fun _ => .failed _⟩
    | next other =>
      cases hplace
      rw [Session.run, Session.onCursor, hentry]
      by_cases hphase : entry.cursor.phase = .untouched
      · simp only [MatchCursor.next, hphase]
        exact ⟨entry.cursor, hentry, .apart fun _ => .absent⟩
      · obtain ⟨step, rest, hnext, -⟩ :=
          MatchCursor.next_cases (session.storeOpen entry.store) hphase
        simp only [hnext, Session.report_eq]
        exact ⟨rest, hset rest, .fetched hphase hnext⟩
    | drain other =>
      cases hplace
      rw [Session.run, Session.onCursor, hentry]
      by_cases hphase : entry.cursor.phase = .untouched
      · simp only [if_pos hphase]
        exact ⟨entry.cursor, hentry, .apart fun _ => .absent⟩
      · obtain ⟨pairs, last, rest, hdrain, -⟩ :=
          MatchCursor.drain_cases (session.storeOpen entry.store) hphase (Nat.lt_succ_self _)
        simp only [if_neg hphase, MatchCursor.enough, hdrain]
        exact ⟨rest, hset rest, .drained hphase hdrain⟩
    | closeCursor other =>
      cases hplace
      rw [Session.run, Session.onCursor, hentry]
      cases hclose : entry.cursor.close (session.storeOpen entry.store) with
      | error failure =>
        simp only [hclose]
        exact ⟨entry.cursor, hentry, .apart fun _ => .failed failure⟩
      | ok rest =>
        simp only [hclose]
        rw [MatchCursor.close_eq_ok hclose]
        exact ⟨_, hset _, .closed⟩
  · exact ⟨entry.cursor, (effect_run session command).cursor_frame hentry hplace,
      .apart fun hsame => absurd hsame hplace⟩

end Effect

/-! ### Sessions that account for their histories -/

/-- The cursor that a new query starts. -/
def MatchCursor.start (store : Store) (granularity : Granularity) (width : Int) : MatchCursor :=
  ⟨⟨store.path, granularity, width⟩,
    (store.database.matchesOf granularity).map StoredMatch.fetch, 0, true, .untouched⟩

/-- A query of an open store that can be prepared adds a cursor before the first row. -/
lemma Session.run_query {session : Session} {place : Nat} {store : Store}
    (hstore : session.stores[place]? = some store) (hopen : store.isOpen = true)
    {granularity : Granularity}
    (hknown : store.database.Knows granularity.table Schema.matchColumns) (width : Int) :
    session.run (.query place granularity width)
      = ([MatchCursor.queried store granularity],
          { session with
            cursors := session.cursors ++ [⟨place, .start store granularity width⟩] },
          .cursor session.cursors.length) := by
  have hrows := (Store.execute_matchesOf_eq_ok_iff hopen).mpr ⟨hknown, rfl⟩
  have hquery : MatchCursor.query store granularity width
      = ⟨[MatchCursor.queried store granularity], .ok (.start store granularity width)⟩ := by
    rw [MatchCursor.query, hrows]
    rfl
  rw [Session.run, hstore]
  simp only [hquery]

/-- A query that is answered by a new cursor was made of an open store, and could be prepared. -/
lemma Session.of_run_query {session : Session} {place other : Nat} {granularity : Granularity}
    {width : Int} (h : (session.run (.query place granularity width)).2.2 = .cursor other) :
    ∃ store, session.stores[place]? = some store ∧ store.isOpen = true ∧
      store.database.Knows granularity.table Schema.matchColumns ∧
      other = session.cursors.length := by
  rw [Session.run] at h
  cases hstore : session.stores[place]? with
  | none =>
    rw [hstore] at h
    cases h
  | some store =>
    have hquery := MatchCursor.query_outcome store granularity width
    cases hrows : store.execute (.matchesOf granularity) with
    | error failure =>
      simp only [hstore, hquery, hrows, Except.map] at h
      cases h
    | ok rows =>
      simp only [hstore, hquery, hrows, Except.map] at h
      cases h
      have hopen : store.isOpen = true := by
        by_contra hclosed
        rw [Store.execute, if_neg hclosed] at hrows
        cases hrows
      exact ⟨store, rfl, hopen, ((Store.execute_matchesOf_eq_ok_iff hopen).mp hrows).1, rfl⟩

/-- The cursor at a place came of a query, and accounts for the history as a cursor over the rows
that the store had when it was queried. -/
structure Serves (session : Session) (history : History) (place store : Nat)
    (granularity : Granularity) (width : Int) (opened : Store) (entry : SessionCursor) : Prop where
  stored : session.stores[store]? = some opened
  placed : session.cursors[place]? = some entry
  store_eq : entry.store = store
  reader_eq : entry.cursor.reader = ⟨opened.path, granularity, width⟩
  known : opened.database.Knows granularity.table Schema.matchColumns
  accounts : AccountsFor history place (opened.database.matchesOf granularity) entry.cursor

/-- The cursors of a session account for its history. -/
structure Accounts (session : Session) (history : History) : Prop where
  /-- Nothing is told about a cursor that is yet to be made. -/
  fresh : ∀ place, session.cursors.length ≤ place →
    history.delivered place = [] ∧ ¬ history.Fetched place
  serves : ∀ {place store : Nat} {granularity : Granularity} {width : Int},
    (.query store granularity width, .cursor place) ∈ history →
      ∃ opened entry, Serves session history place store granularity width opened entry

namespace Accounts

variable {session : Session} {history : History}

lemma empty : Accounts .empty [] where
  fresh place _ := ⟨rfl, by simp [History.Fetched]⟩
  serves h := by cases h

/-- However a command handles a cursor, it goes on accounting for the history. -/
lemma handled {place : Nat} {rows : List StoredMatch} {cursor rest : MatchCursor}
    {command : Command} {reply : Reply} {storeOpen : Bool}
    (h : AccountsFor history place rows cursor) (hfollows : Follows history place cursor)
    (hhandles : Handles storeOpen place cursor command reply rest) :
    rest.reader = cursor.reader ∧
      AccountsFor ((command, reply) :: history) place rows rest := by
  cases hhandles with
  | apart hsilent => exact ⟨rfl, h.frame fun hplace => (hsilent hplace).plain⟩
  | iterated hphase =>
    exact ⟨rfl, h.unmoved (fun _ => Reply.plain_done) rfl rfl rfl (by simp [hphase])
      (by simp [hphase])⟩
  | closed => exact ⟨rfl, h.unmoved (fun _ => Reply.plain_done) rfl rfl rfl Iff.rfl Iff.rfl⟩
  | @fetched step rest hstarted hnext =>
    have hbrings : ∀ read unread, cursor.Stands read unread →
        cursor.Brings read unread step.pairs step.last? rest := by
      intro read unread hstands
      obtain ⟨other, after, hother, hfetches⟩ := hstands.fetches hstarted storeOpen
      rw [hnext] at hother
      cases hother
      exact hfetches.brings hstands
    obtain ⟨read, unread, -, -, hstands⟩ := h.stands
    refine ⟨(hbrings read unread hstands).reader, h.fetch hfollows hbrings (.inl rfl) ?_⟩
    intro last hlast
    cases step with
    | pair => cases hlast
    | finished | failed =>
      cases hlast
      exact .inl List.mem_cons_self
  | @drained pairs last rest hstarted hdrain =>
    have hbrings : ∀ read unread, cursor.Stands read unread →
        cursor.Brings read unread pairs (some last) rest := by
      intro read unread hstands
      obtain ⟨found, final, after, hother, hall⟩ :=
        hstands.drain hstarted storeOpen (Nat.lt_succ_self _)
      rw [MatchCursor.enough, hother] at hdrain
      cases hdrain
      exact hall
    obtain ⟨read, unread, -, -, hstands⟩ := h.stands
    refine ⟨(hbrings read unread hstands).reader, h.fetch hfollows hbrings (.inr rfl) ?_⟩
    intro step hstep
    cases hstep
    exact .inr ⟨pairs, List.mem_cons_self⟩

/-- What a command does keeps the cursors accounting for the history. -/
theorem step (h : Accounts session history) (htracked : Tracked session history)
    (command : Command) :
    Accounts (session.run command).2.1 ((command, (session.run command).2.2) :: history) := by
  have heffect := effect_run session command
  constructor
  · intro place hplace
    have hbefore : session.cursors.length ≤ place := heffect.length_cursors_le.trans hplace
    have hplain : command.cursor? = some place → (session.run command).2.2.Plain := by
      intro hcommand
      have habsent : (session.run command).2.2 = .absent := by
        have hnone : session.cursors[place]? = none := List.getElem?_eq_none hbefore
        cases command with
        | openStore | closeStore | query => cases hcommand
        | iterate | next | drain | closeCursor =>
          cases hcommand
          rw [Session.run, Session.onCursor, hnone]
      rw [habsent]
      exact Reply.Refuses.absent.plain
    rw [History.delivered_frame hplain, History.fetched_frame hplain]
    exact h.fresh place hbefore
  · intro place store granularity width hmem
    rcases List.mem_cons.mp hmem with heq | hmem
    · -- the cursor is new: nothing was told about it, and it stands before the first row
      obtain ⟨rfl, hreply⟩ := Prod.mk.inj heq
      obtain ⟨opened, hstore, hopen, hknown, rfl⟩ := Session.of_run_query hreply.symm
      obtain ⟨hdelivered, hfetched⟩ := h.fresh _ (Nat.le_refl _)
      rw [Session.run_query hstore hopen hknown width]
      refine ⟨opened, ⟨store, .start opened granularity width⟩, hstore, ?_, rfl, rfl, hknown, ?_⟩
      · exact getElem?_concat_eq_some.mpr (.inr ⟨rfl, rfl⟩)
      · refine (AccountsFor.start hdelivered hfetched rfl rfl rfl).frame fun hplace => ?_
        cases hplace
    · obtain ⟨opened, entry, hserves⟩ := h.serves hmem
      obtain ⟨isOpen, hstored⟩ := heffect.store_frame hserves.stored
      obtain ⟨rest, hplaced, hhandles⟩ := handles_run session command hserves.placed
      obtain ⟨hreader, haccounts⟩ :=
        handled hserves.accounts (htracked.follows place entry hserves.placed) hhandles
      exact ⟨_, _, hstored, hplaced, hserves.store_eq, hreader.trans hserves.reader_eq,
        hserves.known, haccounts⟩

end Accounts

/-- The cursors of every session that can be reached account for its history. -/
theorem Reaches.accounts {history : History} {session : Session} (h : Reaches history session) :
    Accounts session history := by
  induction h with
  | start => exact .empty
  | step command hbefore ih => exact ih.step hbefore.tracked command

end BinaryDiff
