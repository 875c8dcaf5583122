import BinaryDiff.Proofs.Cursor.Passes

/-!
# What the history of a session tells about a cursor

The history of a session is what was asked of it and what it answered.  It tells whether the pass of
a cursor was asked for, whether and how it has ended, and whether the cursor was closed.  A cursor
that follows the history is as far as the history says and holds its rows exactly as long as it
says; every way in which a cursor is used keeps it so.
-/

namespace BinaryDiff

/-- What was asked of a session and what it answered, the latest first. -/
abbrev History := List (Command × Reply)

namespace History

variable {history : History} {command : Command} {reply : Reply} {place : Nat}

/-- Whether a store was opened at a place. -/
def Opened (history : History) (place : Nat) : Prop :=
  ∃ around given, (.openStore around given, .store place) ∈ history

/-- Whether a store was closed. -/
def StoreClosed (history : History) (place : Nat) : Prop :=
  (.closeStore place, .done) ∈ history

/-- Whether a cursor came of a query on a store under a width. -/
def Queried (history : History) (place store : Nat) (width : Int) : Prop :=
  ∃ granularity, (.query store granularity width, .cursor place) ∈ history

/-- Whether a cursor was asked for its pass. -/
def Iterated (history : History) (place : Nat) : Prop :=
  (.iterate place, .done) ∈ history

/-- Whether a cursor was closed. -/
def Closed (history : History) (place : Nat) : Prop :=
  (.closeCursor place, .done) ∈ history

/-- Whether a fetch of one match or of all matches met the end of a cursor's pass in some way. -/
def EndedBy (history : History) (place : Nat) (last : Step) : Prop :=
  (.next place, .fetched [] (some last)) ∈ history ∨
    ∃ pairs, (.drain place, .fetched pairs (some last)) ∈ history

/-- Whether the pass of a cursor has ended. -/
def Ended (history : History) (place : Nat) : Prop :=
  ∃ last, history.EndedBy place last

/-- Whether the pass of a cursor ended because its rows could not be given back. -/
def Stranded (history : History) (place : Nat) : Prop :=
  history.EndedBy place (.failed .databaseClosed)

lemma Stranded.ended (h : history.Stranded place) : history.Ended place :=
  ⟨_, h⟩

/-! ### One more answer -/

lemma storeClosed_cons : StoreClosed ((command, reply) :: history) place ↔
    (command = .closeStore place ∧ reply = .done) ∨ history.StoreClosed place := by
  simp only [StoreClosed, List.mem_cons, Prod.mk.injEq, eq_comm]

lemma iterated_cons : Iterated ((command, reply) :: history) place ↔
    (command = .iterate place ∧ reply = .done) ∨ history.Iterated place := by
  simp only [Iterated, List.mem_cons, Prod.mk.injEq, eq_comm]

lemma closed_cons : Closed ((command, reply) :: history) place ↔
    (command = .closeCursor place ∧ reply = .done) ∨ history.Closed place := by
  simp only [Closed, List.mem_cons, Prod.mk.injEq, eq_comm]

lemma endedBy_cons {last : Step} : EndedBy ((command, reply) :: history) place last ↔
    (command = .next place ∧ reply = .fetched [] (some last)) ∨
      (command = .drain place ∧ ∃ pairs, reply = .fetched pairs (some last)) ∨
        history.EndedBy place last := by
  simp only [EndedBy, List.mem_cons, Prod.mk.injEq, exists_or, exists_and_left]
  tauto

lemma opened_cons : Opened ((command, reply) :: history) place ↔
    ((∃ around given, command = .openStore around given) ∧ reply = .store place) ∨
      history.Opened place := by
  simp only [Opened, List.mem_cons, Prod.mk.injEq, exists_or, exists_and_right, eq_comm]

lemma queried_cons {store : Nat} {width : Int} :
    Queried ((command, reply) :: history) place store width ↔
      ((∃ granularity, command = .query store granularity width) ∧ reply = .cursor place) ∨
        history.Queried place store width := by
  simp only [Queried, List.mem_cons, Prod.mk.injEq, exists_or, exists_and_right, eq_comm]

end History

/-- The place of the cursor that a command is about. -/
def Command.cursor? : Command → Option Nat
  | iterate place | next place | drain place | closeCursor place => some place
  | _ => none

/-- Whether an answer says that nothing was done. -/
inductive Reply.Refuses : Reply → Prop
  | absent : Refuses .absent
  | failed (failure : Failure) : Refuses (.failed failure)

/-! ### One cursor -/

/-- A cursor is in step with what the history tells about the cursor at a place. -/
structure Follows (history : History) (place : Nat) (cursor : MatchCursor) : Prop where
  iterated : cursor.phase ≠ .untouched ↔ history.Iterated place
  ended : cursor.phase = .over ↔ history.Ended place
  /-- The rows are held until they are given back, when the cursor is closed or its pass ends. -/
  held : cursor.held = true ↔
    ¬ history.Closed place ∧ (history.Ended place → history.Stranded place)

namespace Follows

variable {history : History} {place : Nat} {cursor : MatchCursor} {command : Command}
  {reply : Reply}

/-- Nothing is told about a cursor by a command about another one, nor by an answer that nothing was
done. -/
lemma frame (h : Follows history place cursor)
    (hsilent : command.cursor? = some place → reply.Refuses) :
    Follows ((command, reply) :: history) place cursor := by
  have hiterated : History.Iterated ((command, reply) :: history) place ↔
      history.Iterated place := by
    rw [History.iterated_cons, or_iff_right]
    rintro ⟨rfl, rfl⟩
    cases hsilent rfl
  have hclosed : History.Closed ((command, reply) :: history) place ↔ history.Closed place := by
    rw [History.closed_cons, or_iff_right]
    rintro ⟨rfl, rfl⟩
    cases hsilent rfl
  have hended : ∀ last, History.EndedBy ((command, reply) :: history) place last ↔
      history.EndedBy place last := by
    intro last
    rw [History.endedBy_cons]
    constructor
    · rintro (⟨rfl, rfl⟩ | ⟨rfl, pairs, rfl⟩ | hlast)
      · cases hsilent rfl
      · cases hsilent rfl
      · exact hlast
    · exact fun hlast => .inr (.inr hlast)
  constructor
  · rw [hiterated, h.iterated]
  · simp only [History.Ended, hended, h.ended]
  · simp only [History.Ended, History.Stranded, hended, hclosed, h.held]

lemma iterate (h : Follows history place cursor) (hphase : cursor.phase = .untouched) :
    Follows ((.iterate place, .done) :: history) place { cursor with phase := .ready } := by
  have hended : ¬ history.Ended place := by simp [← h.ended, hphase]
  rw [History.Ended] at hended
  constructor
  · simp [History.iterated_cons]
  · simp [History.Ended, History.endedBy_cons, hended]
  · simp [History.Ended, History.Stranded, History.endedBy_cons, History.closed_cons, hended,
      h.held]

lemma yielded (h : Follows history place cursor) (hstarted : cursor.phase ≠ .untouched)
    {storeOpen : Bool} {rest : MatchCursor} (hyields : cursor.Yields storeOpen rest)
    (pair : AddressPair) :
    Follows ((.next place, .fetched [pair] none) :: history) place rest := by
  have hended : ¬ history.Ended place := fun hended => hyields.before (h.ended.mpr hended)
  have hclosed : ¬ history.Closed place := (h.held.mp hyields.held).1
  rw [History.Ended] at hended
  constructor
  · simp [History.iterated_cons, hyields.phase, h.iterated.mp hstarted]
  · simp [History.Ended, History.endedBy_cons, hyields.phase, hended]
  · simp [History.Ended, History.endedBy_cons, History.closed_cons, hyields.holds, hended, hclosed]

/-- A fetch that ends the pass leaves the rows held exactly if it is stranded. -/
lemma ends (h : Follows history place cursor) (hstarted : cursor.phase ≠ .untouched)
    {storeOpen : Bool} {last : Step} {rest : MatchCursor} (hends : cursor.Ends storeOpen last rest)
    (htold : (command = .next place ∧ reply = .fetched [] (some last)) ∨
      (command = .drain place ∧ ∃ pairs, reply = .fetched pairs (some last))) :
    Follows ((command, reply) :: history) place rest := by
  have hiterated : History.Iterated ((command, reply) :: history) place := by
    rw [History.iterated_cons]
    exact .inr (h.iterated.mp hstarted)
  have hclosed : History.Closed ((command, reply) :: history) place ↔ history.Closed place := by
    rw [History.closed_cons, or_iff_right]
    rcases htold with ⟨rfl, rfl⟩ | ⟨rfl, pairs, rfl⟩ <;> simp
  have hended : ∀ other, History.EndedBy ((command, reply) :: history) place other ↔
      other = last ∨ history.EndedBy place other := by
    intro other
    rw [History.endedBy_cons]
    rcases htold with ⟨rfl, rfl⟩ | ⟨rfl, pairs, rfl⟩ <;> simp [eq_comm]
  have hnow : History.Ended ((command, reply) :: history) place :=
    ⟨last, (hended last).mpr (.inl rfl)⟩
  have hstranded : History.Stranded ((command, reply) :: history) place ↔
      last = .failed .databaseClosed ∨ history.Stranded place := by
    rw [History.Stranded, hended, eq_comm, History.Stranded]
  -- a pass that is not over has not been stranded before, so only this fetch can have done so
  have hfresh : cursor.phase ≠ .over → ¬ history.Stranded place :=
    fun hphase hbefore => hphase (h.ended.mpr hbefore.ended)
  refine ⟨?_, ?_, ?_⟩
  · simp [hends.phase, hiterated]
  · simp [hends.phase, hnow]
  · rw [hclosed, hstranded]
    cases hends with
    | again hover =>
      have hbefore := h.ended.mp hover
      simp [h.held, hbefore, hnow]
    | finished hphase _ _ _ hheld => simp [hheld, hnow, hfresh hphase]
    | failed hphase _ hfailure _ _ hheld =>
      simp [hheld, hnow, hfresh hphase, hfailure.ne_databaseClosed]
    | stranded _ hbefore _ _ _ hheld => simp [hheld, (h.held.mp hbefore).1]

lemma close (h : Follows history place cursor) :
    Follows ((.closeCursor place, .done) :: history) place { cursor with held := false } := by
  constructor
  · simp [History.iterated_cons, h.iterated]
  · simp [History.Ended, History.endedBy_cons, h.ended]
  · simp [History.closed_cons]

end Follows
end BinaryDiff
