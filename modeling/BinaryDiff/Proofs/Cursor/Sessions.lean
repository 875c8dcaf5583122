import BinaryDiff.Proofs.Cursor.History

/-!
# Sessions and their histories

`Effect` lists what a single command can do to a session.  Each of its cases keeps the session in
step with its history, so every session that can be reached from the empty one is in step with its
own (`Reaches.tracked`), and its history tells what the next answer will be.
-/

namespace BinaryDiff

/-- What stands at a place of a list with one more item. -/
lemma getElem?_concat_eq_some {α : Type} {items : List α} {item found : α} {place : Nat} :
    (items ++ [item])[place]? = some found ↔
      items[place]? = some found ∨ place = items.length ∧ item = found := by
  rcases Nat.lt_trichotomy place items.length with hlt | rfl | hgt
  · rw [List.getElem?_append_left hlt, or_iff_left]
    omega
  · simp
  · rw [List.getElem?_eq_none (by simp; omega), List.getElem?_eq_none (by omega)]
    simp
    omega

namespace Session

variable {session : Session} {place : Nat} {entry : SessionCursor} {cursor : MatchCursor}

@[simp] lemma stores_setCursor :
    (session.setCursor place entry cursor).stores = session.stores := rfl

@[simp] lemma length_setCursor :
    (session.setCursor place entry cursor).cursors.length = session.cursors.length := by
  simp [setCursor]

lemma getElem?_setCursor_self (entry : SessionCursor) (cursor : MatchCursor)
    {old : SessionCursor} (h : session.cursors[place]? = some old) :
    (session.setCursor place entry cursor).cursors[place]?
      = some { entry with cursor := cursor } := by
  have hlt : place < session.cursors.length := (List.getElem?_eq_some_iff.mp h).1
  simp [setCursor, hlt]

lemma getElem?_setCursor_ne {other : Nat} (h : other ≠ place) :
    (session.setCursor place entry cursor).cursors[other]? = session.cursors[other]? :=
  List.getElem?_set_ne h.symm

end Session

/-! ### The effect of a command -/

/-- What a command does to a session, and what it is answered. -/
inductive Effect (session : Session) : Command → Session → Reply → Prop
  | refused {command : Command} {reply : Reply} : reply.Refuses →
      Effect session command session reply
  | storeOpened {around : Surroundings} {given : GivenPath} {store : Store} : store.isOpen = true →
      Effect session (.openStore around given)
        { session with stores := session.stores ++ [store] } (.store session.stores.length)
  | storeClosed {place : Nat} {store : Store} : session.stores[place]? = some store →
      Effect session (.closeStore place)
        { session with stores := session.stores.set place { store with isOpen := false } } .done
  | queried {place : Nat} {store : Store} {granularity : Granularity} {width : Int}
      {cursor : MatchCursor} : session.stores[place]? = some store → cursor.reader.width = width →
      cursor.phase = .untouched → cursor.held = true →
      Effect session (.query place granularity width)
        { session with cursors := session.cursors ++ [⟨place, cursor⟩] }
        (.cursor session.cursors.length)
  | iterated {place : Nat} {entry : SessionCursor} : session.cursors[place]? = some entry →
      entry.cursor.phase = .untouched →
      Effect session (.iterate place)
        (session.setCursor place entry { entry.cursor with phase := .ready }) .done
  | yielded {place : Nat} {entry : SessionCursor} {rest : MatchCursor} (pair : AddressPair) :
      session.cursors[place]? = some entry → entry.cursor.phase ≠ .untouched →
      entry.cursor.Yields (session.storeOpen entry.store) rest →
      Effect session (.next place) (session.setCursor place entry rest) (.fetched [pair] none)
  | ended {place : Nat} {entry : SessionCursor} {last : Step} {rest : MatchCursor} :
      session.cursors[place]? = some entry → entry.cursor.phase ≠ .untouched →
      entry.cursor.Ends (session.storeOpen entry.store) last rest →
      Effect session (.next place) (session.setCursor place entry rest) (.fetched [] (some last))
  | drained {place : Nat} {entry : SessionCursor} {pairs : List AddressPair} {last : Step}
      {rest : MatchCursor} :
      session.cursors[place]? = some entry → entry.cursor.phase ≠ .untouched →
      entry.cursor.Ends (session.storeOpen entry.store) last rest →
      Effect session (.drain place) (session.setCursor place entry rest)
        (.fetched pairs (some last))
  | cursorClosed {place : Nat} {entry : SessionCursor} : session.cursors[place]? = some entry →
      Effect session (.closeCursor place)
        (session.setCursor place entry { entry.cursor with held := false }) .done

lemma Store.close_eq (store : Store) : store.close.2 = { store with isOpen := false } := by
  obtain ⟨path, database, isOpen⟩ := store
  cases isOpen <;> rfl

lemma MatchCursor.close_eq_ok {storeOpen : Bool} {cursor rest : MatchCursor}
    (h : cursor.close storeOpen = .ok rest) : rest = { cursor with held := false } := by
  obtain ⟨reader, pending, rowsRead, held, phase⟩ := cursor
  cases held <;> cases storeOpen <;> cases h <;> rfl

/-- A command has one of these effects. -/
theorem effect_run (session : Session) (command : Command) :
    Effect session command (session.run command).2.1 (session.run command).2.2 := by
  cases command with
  | openStore around given =>
    rw [Session.run]
    cases hopening : (Store.openAt around given).outcome with
    | error failure => exact .refused (.failed failure)
    | ok store => exact .storeOpened (Store.of_openAt hopening).1
  | closeStore place =>
    rw [Session.run]
    cases hstore : session.stores[place]? with
    | none => exact .refused .absent
    | some store =>
      have hclose := store.close_eq
      simp only [hclose]
      exact .storeClosed hstore
  | query place granularity width =>
    rw [Session.run]
    cases hstore : session.stores[place]? with
    | none => exact .refused .absent
    | some store =>
      have hquery := MatchCursor.query_outcome store granularity width
      cases hrows : store.execute (.matchesOf granularity) with
      | error failure =>
        simp only [hquery, hrows, Except.map]
        exact .refused (.failed failure)
      | ok rows =>
        simp only [hquery, hrows, Except.map]
        exact .queried hstore rfl rfl rfl
  | iterate place =>
    rw [Session.run, Session.onCursor]
    cases hentry : session.cursors[place]? with
    | none => exact .refused .absent
    | some entry =>
      simp only [MatchCursor.iterate]
      by_cases hphase : entry.cursor.phase = .untouched
      · simp only [if_pos hphase]
        exact .iterated hentry hphase
      · simp only [if_neg hphase]
        exact .refused (.failed _)
  | next place =>
    rw [Session.run, Session.onCursor]
    cases hentry : session.cursors[place]? with
    | none => exact .refused .absent
    | some entry =>
      by_cases hphase : entry.cursor.phase = .untouched
      · simp only [MatchCursor.next, hphase]
        exact .refused .absent
      · obtain ⟨step, rest, hnext, hends | ⟨pair, rfl, hyields⟩⟩ :=
          MatchCursor.next_cases (session.storeOpen entry.store) hphase
        · simp only [hnext]
          have hreport : Session.report step = .fetched [] (some step) := by
            cases hends <;> rfl
          rw [hreport]
          exact .ended hentry hphase hends
        · simp only [hnext]
          exact .yielded pair hentry hphase hyields
  | drain place =>
    rw [Session.run, Session.onCursor]
    cases hentry : session.cursors[place]? with
    | none => exact .refused .absent
    | some entry =>
      by_cases hphase : entry.cursor.phase = .untouched
      · simp only [if_pos hphase]
        exact .refused .absent
      · obtain ⟨pairs, last, rest, hdrain, hends⟩ :=
          MatchCursor.drain_cases (session.storeOpen entry.store) hphase (Nat.lt_succ_self _)
        simp only [if_neg hphase, MatchCursor.enough, hdrain]
        exact .drained hentry hphase hends
  | closeCursor place =>
    rw [Session.run, Session.onCursor]
    cases hentry : session.cursors[place]? with
    | none => exact .refused .absent
    | some entry =>
      cases hclose : entry.cursor.close (session.storeOpen entry.store) with
      | error failure =>
        simp only [hclose]
        exact .refused (.failed failure)
      | ok rest =>
        simp only [hclose]
        rw [MatchCursor.close_eq_ok hclose]
        exact .cursorClosed hentry

/-! ### Sessions in step with their histories -/

/-- A session is in step with a history: it has the stores and cursors that the history tells of,
and they are as the history tells. -/
structure Tracked (session : Session) (history : History) : Prop where
  opened : ∀ place : Nat, place < session.stores.length ↔ history.Opened place
  storeClosed : ∀ (place : Nat) (store : Store), session.stores[place]? = some store →
    (store.isOpen = false ↔ history.StoreClosed place)
  /-- Nothing is told of stores that are yet to be opened. -/
  noStore : ∀ place : Nat, session.stores.length ≤ place → ¬ history.StoreClosed place
  queried : ∀ (place store : Nat) (width : Int), history.Queried place store width ↔
    ∃ entry : SessionCursor, session.cursors[place]? = some entry ∧ entry.store = store ∧
      entry.cursor.reader.width = width
  placed : ∀ (place : Nat) (entry : SessionCursor), session.cursors[place]? = some entry →
    entry.store < session.stores.length
  follows : ∀ (place : Nat) (entry : SessionCursor), session.cursors[place]? = some entry →
    Follows history place entry.cursor
  /-- A cursor that is yet to be made can be taken to be as new. -/
  noCursor : ∀ (place : Nat) (cursor : MatchCursor), session.cursors.length ≤ place →
    cursor.phase = .untouched → cursor.held = true → Follows history place cursor

lemma History.stores_frame (history : History) {command : Command} {reply : Reply}
    (hquiet : command.cursor? = none → reply.Refuses) :
    (∀ place, Opened ((command, reply) :: history) place ↔ history.Opened place) ∧
      (∀ place, StoreClosed ((command, reply) :: history) place ↔ history.StoreClosed place) ∧
      ∀ place store width, Queried ((command, reply) :: history) place store width ↔
        history.Queried place store width := by
  refine ⟨fun place => ?_, fun place => ?_, fun place store width => ?_⟩
  · rw [opened_cons, or_iff_right]
    rintro ⟨⟨around, given, rfl⟩, rfl⟩
    cases hquiet rfl
  · rw [storeClosed_cons, or_iff_right]
    rintro ⟨rfl, rfl⟩
    cases hquiet rfl
  · rw [queried_cons, or_iff_right]
    rintro ⟨⟨granularity, rfl⟩, rfl⟩
    cases hquiet rfl

namespace Tracked

variable {session : Session} {history : History}

lemma empty : Tracked .empty [] where
  opened := by simp [Session.empty, History.Opened]
  storeClosed := by simp [Session.empty]
  noStore := by simp [History.StoreClosed]
  queried := by simp [Session.empty, History.Queried]
  placed := by simp [Session.empty]
  follows := by simp [Session.empty]
  noCursor := by
    intro place cursor _ hphase hheld
    constructor <;> simp [History.Iterated, History.Ended, History.EndedBy, History.Closed, hphase,
      hheld]

lemma refused (h : Tracked session history) {command : Command} {reply : Reply}
    (hreply : reply.Refuses) : Tracked session ((command, reply) :: history) := by
  obtain ⟨hopened, hclosed, hqueried⟩ :=
    history.stores_frame (show command.cursor? = none → reply.Refuses from fun _ => hreply)
  constructor
  · simpa only [hopened] using h.opened
  · simpa only [hclosed] using h.storeClosed
  · simpa only [hclosed] using h.noStore
  · simpa only [hqueried] using h.queried
  · exact h.placed
  · exact fun place entry hentry => (h.follows place entry hentry).frame fun _ => hreply
  · exact fun place cursor hplace hphase hheld =>
      (h.noCursor place cursor hplace hphase hheld).frame fun _ => hreply

/-- A command about one cursor leaves the session in step if it does so with the cursor. -/
lemma setCursor (h : Tracked session history) {command : Command} {reply : Reply} {place : Nat}
    {entry : SessionCursor} {cursor : MatchCursor} (hcommand : command.cursor? = some place)
    (hentry : session.cursors[place]? = some entry) (hreader : cursor.reader = entry.cursor.reader)
    (hfollows : Follows ((command, reply) :: history) place cursor) :
    Tracked (session.setCursor place entry cursor) ((command, reply) :: history) := by
  have hself := Session.getElem?_setCursor_self entry cursor hentry
  have hother : ∀ {other}, other ≠ place → command.cursor? = some other → reply.Refuses := by
    intro other hne hsame
    rw [hcommand] at hsame
    exact absurd (Option.some.inj hsame).symm hne
  have hquiet : command.cursor? = none → reply.Refuses := by simp [hcommand]
  obtain ⟨hopened, hclosed, hqueried⟩ := history.stores_frame hquiet
  constructor
  · simpa only [hopened, Session.stores_setCursor] using h.opened
  · simpa only [hclosed, Session.stores_setCursor] using h.storeClosed
  · simpa only [hclosed, Session.stores_setCursor] using h.noStore
  · intro other store width
    rw [hqueried, h.queried]
    by_cases heq : other = place
    · rw [heq, hself, hentry]
      simp [hreader]
    · rw [Session.getElem?_setCursor_ne heq]
  · intro other found hfound
    by_cases heq : other = place
    · rw [heq, hself] at hfound
      cases hfound
      exact h.placed place entry hentry
    · rw [Session.getElem?_setCursor_ne heq] at hfound
      exact h.placed other found hfound
  · intro other found hfound
    by_cases heq : other = place
    · rw [heq, hself] at hfound
      cases hfound
      rw [heq]
      exact hfollows
    · rw [Session.getElem?_setCursor_ne heq] at hfound
      exact (h.follows other found hfound).frame (hother heq)
  · intro other found hplace hphase hheld
    have hlt : place < session.cursors.length := (List.getElem?_eq_some_iff.mp hentry).1
    rw [Session.length_setCursor] at hplace
    exact (h.noCursor other found hplace hphase hheld).frame (hother (by omega))

lemma storeOpened (h : Tracked session history) {store : Store} (hopen : store.isOpen = true)
    (around : Surroundings) (given : GivenPath) :
    Tracked { session with stores := session.stores ++ [store] }
      ((.openStore around given, .store session.stores.length) :: history) := by
  have hsilent : ∀ {place : Nat}, (Command.openStore around given).cursor? = some place →
      (Reply.store session.stores.length).Refuses := by simp [Command.cursor?]
  constructor
  · intro place
    rw [History.opened_cons, ← h.opened, List.length_append, List.length_singleton]
    simp
    omega
  · intro place found hfound
    rw [History.storeClosed_cons, or_iff_right (by simp)]
    rcases getElem?_concat_eq_some.mp hfound with hold | ⟨rfl, rfl⟩
    · exact h.storeClosed place found hold
    · simp [hopen, h.noStore _ (Nat.le_refl _)]
  · intro place hplace
    rw [History.storeClosed_cons, or_iff_right (by simp)]
    rw [List.length_append, List.length_singleton] at hplace
    exact h.noStore place (by omega)
  · intro place other width
    rw [History.queried_cons, or_iff_right (by simp)]
    exact h.queried place other width
  · intro place entry hentry
    rw [List.length_append, List.length_singleton]
    exact Nat.lt_succ_of_lt (h.placed place entry hentry)
  · exact fun place entry hentry => (h.follows place entry hentry).frame hsilent
  · exact fun place cursor hplace hphase hheld =>
      (h.noCursor place cursor hplace hphase hheld).frame hsilent

lemma closeStore (h : Tracked session history) {place : Nat} {store : Store}
    (hstore : session.stores[place]? = some store) :
    Tracked { session with stores := session.stores.set place { store with isOpen := false } }
      ((.closeStore place, .done) :: history) := by
  have hlt : place < session.stores.length := (List.getElem?_eq_some_iff.mp hstore).1
  have hsilent : ∀ {other : Nat}, (Command.closeStore place).cursor? = some other →
      Reply.done.Refuses := by simp [Command.cursor?]
  constructor
  · intro other
    rw [History.opened_cons, or_iff_right (by simp), List.length_set]
    exact h.opened other
  · intro other found hfound
    rw [History.storeClosed_cons]
    by_cases heq : other = place
    · rw [heq, List.getElem?_set_self hlt] at hfound
      cases hfound
      simp [heq]
    · rw [List.getElem?_set_ne (Ne.symm heq)] at hfound
      rw [h.storeClosed other found hfound, or_iff_right]
      rintro ⟨hsame, -⟩
      exact heq (Command.closeStore.inj hsame).symm
  · intro other hother
    rw [List.length_set] at hother
    rw [History.storeClosed_cons, or_iff_right]
    · exact h.noStore other hother
    · rintro ⟨hsame, -⟩
      have heq := Command.closeStore.inj hsame
      omega
  · intro other found width
    rw [History.queried_cons, or_iff_right (by simp)]
    exact h.queried other found width
  · intro other entry hentry
    rw [List.length_set]
    exact h.placed other entry hentry
  · exact fun other entry hentry => (h.follows other entry hentry).frame hsilent
  · exact fun other cursor hother hphase hheld =>
      (h.noCursor other cursor hother hphase hheld).frame hsilent

lemma query (h : Tracked session history) {place : Nat} {store : Store}
    (hstore : session.stores[place]? = some store) {cursor : MatchCursor}
    (hphase : cursor.phase = .untouched) (hheld : cursor.held = true)
    (granularity : Granularity) :
    Tracked { session with cursors := session.cursors ++ [⟨place, cursor⟩] }
      ((.query place granularity cursor.reader.width, .cursor session.cursors.length)
        :: history) := by
  have hsilent : ∀ {other : Nat},
      (Command.query place granularity cursor.reader.width).cursor? = some other →
        (Reply.cursor session.cursors.length).Refuses := by simp [Command.cursor?]
  constructor
  · intro other
    rw [History.opened_cons, or_iff_right (by simp)]
    exact h.opened other
  · intro other found hfound
    rw [History.storeClosed_cons, or_iff_right (by simp)]
    exact h.storeClosed other found hfound
  · intro other hother
    rw [History.storeClosed_cons, or_iff_right (by simp)]
    exact h.noStore other hother
  · intro other found width
    rw [History.queried_cons, h.queried]
    simp only [getElem?_concat_eq_some]
    constructor
    · rintro (⟨⟨label, hcommand⟩, hreply⟩ | ⟨entry, hentry, hsame⟩)
      · cases hcommand
        cases hreply
        exact ⟨_, .inr ⟨rfl, rfl⟩, rfl, rfl⟩
      · exact ⟨entry, .inl hentry, hsame⟩
    · rintro ⟨entry, hentry | ⟨rfl, rfl⟩, hsame⟩
      · exact .inr ⟨entry, hentry, hsame⟩
      · obtain ⟨rfl, rfl⟩ := hsame
        exact .inl ⟨⟨granularity, rfl⟩, rfl⟩
  · intro other entry hentry
    rcases getElem?_concat_eq_some.mp hentry with hold | ⟨-, rfl⟩
    · exact h.placed other entry hold
    · exact (List.getElem?_eq_some_iff.mp hstore).1
  · intro other entry hentry
    rcases getElem?_concat_eq_some.mp hentry with hold | ⟨rfl, rfl⟩
    · exact (h.follows other entry hold).frame hsilent
    · exact (h.noCursor _ cursor (Nat.le_refl _) hphase hheld).frame hsilent
  · intro other found hother hphase hheld
    rw [List.length_append, List.length_singleton] at hother
    exact (h.noCursor other found (by omega) hphase hheld).frame hsilent

/-- What a command does keeps the session in step with its history. -/
theorem step (h : Tracked session history) {command : Command} {after : Session} {reply : Reply}
    (heffect : Effect session command after reply) :
    Tracked after ((command, reply) :: history) := by
  cases heffect with
  | refused hreply => exact h.refused hreply
  | storeOpened hopen => exact h.storeOpened hopen _ _
  | storeClosed hstore => exact h.closeStore hstore
  | queried hstore hwidth hphase hheld =>
    subst hwidth
    exact h.query hstore hphase hheld _
  | iterated hentry hphase =>
    exact h.setCursor rfl hentry rfl ((h.follows _ _ hentry).iterate hphase)
  | yielded pair hentry hphase hyields =>
    exact h.setCursor rfl hentry hyields.reader
      ((h.follows _ _ hentry).yielded hphase hyields pair)
  | ended hentry hphase hends =>
    exact h.setCursor rfl hentry hends.reader
      ((h.follows _ _ hentry).ends hphase hends (.inl ⟨rfl, rfl⟩))
  | drained hentry hphase hends =>
    exact h.setCursor rfl hentry hends.reader
      ((h.follows _ _ hentry).ends hphase hends (.inr ⟨rfl, _, rfl⟩))
  | cursorClosed hentry => exact h.setCursor rfl hentry rfl (h.follows _ _ hentry).close

end Tracked

/-- The sessions that commands lead to from the empty one, with their histories. -/
inductive Reaches : History → Session → Prop
  | start : Reaches [] .empty
  | step {history : History} {session : Session} (command : Command) : Reaches history session →
      Reaches ((command, (session.run command).2.2) :: history) (session.run command).2.1

/-- Every session that can be reached is in step with its history. -/
theorem Reaches.tracked {history : History} {session : Session} (h : Reaches history session) :
    Tracked session history := by
  induction h with
  | start => exact .empty
  | @step history session command _ ih => exact ih.step (effect_run session command)

end BinaryDiff
