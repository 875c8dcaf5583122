import BinaryDiff.Failure

/-! # Sinks

A sink receives one match at a time and may reject it. In general it is any state machine: given
its state and a match it moves to a new state and either accepts or complains. The two sinks that
come with the reader are a counter and a collector with an optional limit. -/

namespace BinaryDiff

/-- A sink with states in `σ`: the state after a match, and the complaint if it was rejected. -/
abbrev Sink (σ : Type) := σ → AddressPair → σ × Option Failure

/-- A collector of matches in the order of their delivery. -/
structure Collector where
  /-- The greatest number of matches that are kept. -/
  limit : Option Int
  kept : List AddressPair
deriving DecidableEq, Repr

namespace Collector

/-- An empty collector; its limit must not be negative. -/
def make (limit : Option Int) : Except Failure Collector :=
  match limit with
  | some bound => if bound < 0 then .error (.negativeLimit bound) else .ok ⟨limit, []⟩
  | none => .ok ⟨none, []⟩

/-- Whether the collector holds as many matches as it may. -/
def full (collector : Collector) : Bool :=
  match collector.limit with
  | some bound => bound ≤ collector.kept.length
  | none => false

/-- Receives a match: a full collector rejects it and stays as it is. -/
def accept : Sink Collector := fun collector pair =>
  if collector.full then (collector, some (.sinkFull (collector.limit.getD 0)))
  else ({ collector with kept := collector.kept ++ [pair] }, none)

end Collector

/-- Receives a match by counting it. -/
def countMatch : Sink Nat := fun count _ => (count + 1, none)

/-- How something that should receive matches was handed over. -/
inductive Handover
  /-- As an object that accepts matches. -/
  | object
  /-- As a plain function. -/
  | function
  /-- As something else, of the named type. -/
  | neither (typeName : String)
deriving DecidableEq, Repr

namespace Handover

/-- Makes a sink of what was handed over, and tells whether a function had to be wrapped for it. -/
def asSink : Handover → Except Failure Bool
  | object => .ok false
  | function => .ok true
  | neither typeName => .error (.notASink typeName)

end Handover
end BinaryDiff
