import BinaryDiff.Proofs.Delivery.Reading

/-!
# Deliveries fetch one match at a time

A delivery is defined on the feed of a cursor, which has all of its matches.  What it does is also
what comes of fetching each match only after the one before it was accepted: `pulls_dispatch` says
that the two agree, and that a delivery leaves its cursor as these fetches do.
-/

namespace BinaryDiff

variable {σ : Type} {sink : Sink σ} {granularity : Granularity} {path : Option String}

/-- A delivery that fetches its matches from a cursor, when some were delivered before; the cursor
is left as the last fetch leaves it. -/
inductive Pulls (sink : Sink σ) (granularity : Granularity) (path : Option String) :
    Nat → MatchCursor → σ → Delivery σ → MatchCursor → Prop
  | completed {count : Nat} {cursor rest : MatchCursor} {state : σ} :
      cursor.next true = some (.finished, rest) →
      Pulls sink granularity path count cursor state
        ⟨[Dispatch.completed granularity count], state, count, true, .ok count⟩ rest
  | sourceFailed {count : Nat} {cursor rest : MatchCursor} {state : σ} {reason : Failure} :
      cursor.next true = some (.failed reason, rest) →
      Pulls sink granularity path count cursor state
        ⟨[], state, count, true, .error reason⟩ rest
  | refused {count : Nat} {cursor rest : MatchCursor} {state last : σ} {pair : AddressPair}
      {complaint : Failure} : cursor.next true = some (.pair pair, rest) →
      sink state pair = (last, some complaint) →
      Pulls sink granularity path count cursor state
        ⟨Dispatch.refusalEvents granularity count pair complaint, last, count + 1, false,
          .error (Dispatch.refusal granularity count pair path complaint)⟩ rest
  | accepted {count : Nat} {cursor next rest : MatchCursor} {state between : σ}
      {pair : AddressPair} {delivery : Delivery σ} :
      cursor.next true = some (.pair pair, next) → sink state pair = (between, none) →
      Pulls sink granularity path (count + 1) next between delivery rest →
      Pulls sink granularity path count cursor state delivery rest

namespace MatchCursor

/-- A cursor whose next fetch takes a row from the database, or finds that there is none left. -/
structure Ready (cursor : MatchCursor) : Prop where
  held : cursor.held = true
  phase : cursor.phase = .ready ∨ cursor.phase = .underWay

lemma Ready.next_eq {cursor : MatchCursor} (h : cursor.Ready) :
    cursor.next true = some cursor.fetch := by
  rcases h.phase with hphase | hphase <;> simp [next, hphase, h.held]

/-- The number of fetches for which a delivery has asked is that of the steps of its cursor. -/
lemma advance_succ {cursor rest : MatchCursor} {step : Step}
    (h : cursor.next true = some (step, rest)) (count : Nat) :
    cursor.advance (count + 1) = rest.advance count := by
  rw [advance, h]

end MatchCursor

/-- Delivering the feed of a cursor does what fetching from it one match at a time does, and asks
for as many matches. -/
theorem pulls_deliver (sink : Sink σ) (granularity : Granularity) (path : Option String)
    {cursor : MatchCursor} (hready : cursor.Ready) (count : Nat) (state : σ) :
    ∃ fetches,
      (Dispatch.deliver sink granularity path cursor.feed.failure count cursor.feed.pairs
        state).fetches = count + fetches ∧
      Pulls sink granularity path count cursor state
        (Dispatch.deliver sink granularity path cursor.feed.failure count cursor.feed.pairs state)
        (cursor.advance fetches) := by
  obtain ⟨reader, pending, rowsRead, held, phase⟩ := cursor
  -- the feed and the fetches look at the same first row, and both go on with the others
  induction pending generalizing rowsRead phase count state with
  | nil =>
    have hnext := hready.next_eq
    refine ⟨1, rfl, ?_⟩
    rw [MatchCursor.advance_succ hnext]
    exact .completed hnext
  | cons row rows ih =>
    have hnext := hready.next_eq
    cases hpair : reader.pair rowsRead row with
    | error reason =>
      have hfeed : (MatchCursor.mk reader (row :: rows) rowsRead held phase).feed
          = ⟨[], some reason⟩ := by
        rw [MatchCursor.feed, RowReader.feed, hpair]
      simp only [MatchCursor.fetch, hpair] at hnext
      rw [hfeed]
      refine ⟨1, rfl, ?_⟩
      rw [MatchCursor.advance_succ hnext]
      exact .sourceFailed hnext
    | ok pair =>
      have hfeed : (MatchCursor.mk reader (row :: rows) rowsRead held phase).feed
          = (MatchCursor.mk reader rows (rowsRead + 1) held .underWay).feed.cons pair := by
        rw [MatchCursor.feed, RowReader.feed, hpair]
        rfl
      simp only [MatchCursor.fetch, hpair] at hnext
      rw [hfeed, Feed.cons]
      cases hcall : sink state pair with
      | mk next answer =>
        cases answer with
        | none =>
          rw [Dispatch.deliver, hcall]
          have hrest : (MatchCursor.mk reader rows (rowsRead + 1) held .underWay).Ready :=
            ⟨hready.held, .inr rfl⟩
          obtain ⟨fetches, hfetches, hpulls⟩ := ih (count + 1) next _ _ hrest
          refine ⟨fetches + 1, by rw [hfetches]; omega, ?_⟩
          rw [MatchCursor.advance_succ hnext]
          exact .accepted hnext hcall hpulls
        | some complaint =>
          rw [Dispatch.deliver_of_refused hcall]
          refine ⟨1, rfl, ?_⟩
          rw [MatchCursor.advance_succ hnext]
          exact .refused hnext hcall

/-- A delivery from a fresh cursor fetches one match at a time, and the cursor that a parse closes
then is the one that is left by these fetches. -/
theorem pulls_dispatch (sink : Sink σ) (granularity : Granularity) (path : Option String)
    {cursor : MatchCursor} (hheld : cursor.held = true) (state : σ) :
    Pulls sink granularity path 0 { cursor with phase := .ready } state
      (dispatch sink granularity path cursor.feed state)
      (Parse.fetched cursor (dispatch sink granularity path cursor.feed state).fetches) := by
  have hready : ({ cursor with phase := .ready } : MatchCursor).Ready := ⟨hheld, .inl rfl⟩
  obtain ⟨fetches, hfetches, hpulls⟩ := pulls_deliver sink granularity path hready 0 state
  change (dispatch sink granularity path cursor.feed state).fetches = 0 + fetches at hfetches
  rw [hfetches, Nat.zero_add]
  exact hpulls

end BinaryDiff
