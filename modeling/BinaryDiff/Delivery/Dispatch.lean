import BinaryDiff.Cursor.Decode
import BinaryDiff.Delivery.Sink
import BinaryDiff.Log.Event

/-! # Dispatch

Matches are handed to a sink one at a time and in order, each of them taken from its source only
after the sink has accepted the one before. The first complaint stops the delivery and becomes a
failure that names the match; a request to stop altogether passes through as it is, the failure to
find words for a complaint takes the place of the complaint, and a failure of the source is left as
it is. -/

namespace BinaryDiff

/-- What a delivery comes to. -/
structure Delivery (σ : Type) where
  events : List LogEvent
  /-- The state of the sink. -/
  state : σ
  /-- The number of matches taken from the source. -/
  pulled : Nat
  /-- Whether the source was asked for more than the matches it has. -/
  exhausted : Bool
  /-- The number of matches delivered, or the failure. -/
  outcome : Except Failure Nat

/-- The number of times that the source was asked for a match. -/
def Delivery.fetches {σ : Type} (delivery : Delivery σ) : Nat :=
  delivery.pulled + if delivery.exhausted then 1 else 0

namespace Dispatch

/-- The name of the logger. -/
def logger : String := "vxsig.diff.dispatch"

/-- The event of a completed delivery. -/
def completed (granularity : Granularity) (count : Nat) : LogEvent :=
  ⟨logger, .debug, "matches_dispatched",
    [("granularity", .granularity granularity), ("count", .number count)]⟩

/-- The event of a rejected match. -/
def aborted (granularity : Granularity) (index : Nat) (pair : AddressPair) (failure : Failure) :
    LogEvent :=
  ⟨logger, .warning, "dispatch_aborted",
    [("granularity", .granularity granularity), ("index", .number index), ("match", .pair pair),
     ("error", .text failure.text)]⟩

/-- The failure that a rejected match becomes. -/
def rejection (granularity : Granularity) (index : Nat) (pair : AddressPair) (path : Option String)
    (failure : Failure) : Failure :=
  .diff (.rejected granularity pair index failure.say path (.complaint failure))

/-- Delivers the matches of a feed, when `count` matches were delivered before them. -/
def deliver {σ : Type} (sink : Sink σ) (granularity : Granularity) (path : Option String)
    (failure : Option Failure) (count : Nat) : List AddressPair → σ → Delivery σ
  | [], state =>
    match failure with
    | some failure => ⟨[], state, count, true, .error failure⟩
    | none => ⟨[completed granularity count], state, count, true, .ok count⟩
  | pair :: pairs, state =>
    match sink state pair with
    | (state, none) => deliver sink granularity path failure (count + 1) pairs state
    | (state, some complaint) =>
      match complaint.escape? with
      | some failure => ⟨[], state, count + 1, false, .error failure⟩
      | none => ⟨[aborted granularity count pair complaint], state, count + 1, false,
          .error (rejection granularity count pair path complaint)⟩

end Dispatch

/-- Delivers the matches of a feed to a sink. -/
def dispatch {σ : Type} (sink : Sink σ) (granularity : Granularity) (path : Option String)
    (feed : Feed) (state : σ) : Delivery σ :=
  Dispatch.deliver sink granularity path feed.failure 0 feed.pairs state

end BinaryDiff
