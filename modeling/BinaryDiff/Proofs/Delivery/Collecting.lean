import BinaryDiff.Proofs.Delivery.Calls
import Mathlib.Data.List.TakeDrop

/-!
# What a collector has kept

A collector may be used in any order: single matches are handed to it and whole sources are
dispatched to it, at any granularity.  What it holds afterwards does not depend on how the matches
came, for it has kept the first of them, as many as its limit allows (`foldl_after`).  A dispatch
counts its matches from zero whatever was kept before, so it stops at the match for which the
collector has no room, counted without those that were held before (`dispatch_of_exceeds`).
`keepsFirst_foldl_after` puts this together for every history of a collector.
-/

namespace BinaryDiff.Collector

/-- One use of a collector. -/
inductive Use
  /-- A match is handed to it. -/
  | accept (pair : AddressPair)
  /-- The matches of a source are dispatched to it. -/
  | dispatch (granularity : Granularity) (path : Option String) (source : Feed)
deriving DecidableEq, Repr

namespace Use

/-- The matches that a use has for the collector. -/
def pairs : Use → List AddressPair
  | accept pair => [pair]
  | dispatch _ _ source => source.pairs

/-- The matches that a use offers to the collector: a dispatch offers those that it takes from its
source. -/
def offered (collector : Collector) : Use → List AddressPair
  | accept pair => [pair]
  | dispatch granularity path source =>
    source.pairs.take
      (BinaryDiff.dispatch Collector.accept granularity path source collector).pulled

end Use

/-- The collector after a use of it. -/
def after (collector : Collector) : Use → Collector
  | .accept pair => (collector.accept pair).1
  | .dispatch granularity path source =>
    (dispatch accept granularity path source collector).state

/-- The matches offered to a collector in the course of its uses, in the order of offering. -/
def offeredIn : Collector → List Use → List AddressPair
  | _, [] => []
  | collector, use :: uses => use.offered collector ++ offeredIn (collector.after use) uses

/-- The first matches of a list, as many as a limit allows. -/
def firstOf : Option Nat → List AddressPair → List AddressPair
  | none, pairs => pairs
  | some bound, pairs => pairs.take bound

/-- A limit allows so many matches. -/
def Allows : Option Nat → Nat → Prop
  | none, _ => True
  | some bound, count => count ≤ bound

/-- The collector with a limit that holds some matches. -/
def holding (limit : Option Nat) (kept : List AddressPair) : Collector :=
  ⟨limit.map Int.ofNat, kept⟩

variable {limit : Option Nat} {kept : List AddressPair} {granularity : Granularity}
  {path : Option String}

/-! ### Limits -/

lemma firstOf_of_allows {pairs : List AddressPair} (h : Allows limit pairs.length) :
    firstOf limit pairs = pairs := by
  cases limit with
  | none => rfl
  | some bound => exact List.take_of_length_le h

lemma allows_length_firstOf (limit : Option Nat) (pairs : List AddressPair) :
    Allows limit (firstOf limit pairs).length := by
  cases limit with
  | none => exact trivial
  | some bound => exact List.length_take_le bound pairs

lemma firstOf_firstOf_append (limit : Option Nat) (pairs others : List AddressPair) :
    firstOf limit (firstOf limit pairs ++ others) = firstOf limit (pairs ++ others) := by
  cases limit with
  | none => rfl
  | some bound =>
    have hroom : bound - min bound pairs.length = bound - pairs.length := by omega
    rw [firstOf, firstOf, firstOf, List.take_append, List.take_append, List.take_take,
      Nat.min_self, List.length_take, hroom]

/-- Either a limit allows more than so many matches, or it is their number. -/
lemma Allows.succ_or_eq {count : Nat} (h : Allows limit count) :
    Allows limit (count + 1) ∨ limit = some count := by
  cases limit with
  | none => exact .inl trivial
  | some bound =>
    have hle : count ≤ bound := h
    obtain heq | hlt := Nat.eq_or_lt_of_le hle
    · exact .inr (congrArg some heq.symm)
    · exact .inl hlt

lemma Allows.mono {count more : Nat} (h : Allows limit more) (hle : count ≤ more) :
    Allows limit count := by
  cases limit with
  | none => exact trivial
  | some bound => exact Nat.le_trans hle h

lemma Allows.ne_some {count : Nat} (h : Allows limit (count + 1)) : limit ≠ some count := by
  rintro rfl
  exact Nat.not_succ_le_self count h

/-! ### One use -/

lemma full_holding (h : Allows limit kept.length) :
    (holding limit kept).full = decide (limit = some kept.length) := by
  cases limit with
  | none => rfl
  | some bound =>
    have hle : kept.length ≤ bound := h
    simp only [full, holding, Option.map_some, Int.ofNat_eq_natCast, Int.ofNat_le,
      Option.some.injEq, decide_eq_decide]
    omega

lemma accept_of_room (h : Allows limit (kept.length + 1)) (pair : AddressPair) :
    (holding limit kept).accept pair = (holding limit (kept ++ [pair]), none) := by
  have hroom : (holding limit kept).full = false := by
    rw [full_holding (h.mono (Nat.le_succ _))]
    exact decide_eq_false h.ne_some
  rw [accept, hroom]
  rfl

lemma accept_of_full (pair : AddressPair) :
    (holding (some kept.length) kept).accept pair
      = (holding (some kept.length) kept, some (.sinkFull kept.length)) := by
  have hfull : (holding (some kept.length) kept).full = true := by
    rw [full_holding (Nat.le_refl _)]
    exact decide_eq_true rfl
  rw [accept, hfull]
  rfl

lemma say_sinkFull (limit : Int) :
    (Failure.sinkFull limit).say = s!"collected {limit} matches" := by
  have htext : (Failure.sinkFull limit).text = "collected " ++ toString limit ++ " matches" := rfl
  have hsay : ("collected " ++ toString limit ++ " matches").isEmpty = false := by
    simp [String.isEmpty_eq_false_iff]
  rw [Failure.say, htext, if_neg (by rw [hsay]; exact Bool.false_ne_true)]
  rfl

/-- A collector takes all matches for which it has room. -/
lemma accepts_of_allows {pairs : List AddressPair} (h : Allows limit (kept ++ pairs).length)
    (granularity : Granularity) :
    Accepts (fun _ => accept) (holding limit kept) (pairs.map (Offer.mk granularity))
      (holding limit (kept ++ pairs)) := by
  induction pairs generalizing kept with
  | nil =>
    rw [List.append_nil]
    exact .nil _
  | cons pair pairs ih =>
    have hroom : Allows limit (kept.length + 1) := h.mono (by simp)
    rw [List.append_cons] at h ⊢
    exact .cons (accept_of_room hroom pair) (ih h)

lemma dispatch_of_allows {source : Feed} (h : Allows limit (kept ++ source.pairs).length) :
    dispatch accept granularity path source (holding limit kept)
      = Dispatch.deliver accept granularity path source.failure source.pairs.length []
          (holding limit (kept ++ source.pairs)) := by
  have haccepts := (accepts_of_allows h granularity).deliver_append path source.failure 0 []
  rwa [List.append_nil, Nat.zero_add] at haccepts

/-- A dispatch stops at the first match for which the collector has no room. -/
lemma dispatch_of_exceeds (before : List AddressPair) (pair : AddressPair)
    (others : List AddressPair) (failure : Option Failure) :
    dispatch accept granularity path ⟨before ++ pair :: others, failure⟩
        (holding (some (kept ++ before).length) kept)
      = ⟨[Dispatch.aborted granularity before.length pair (.sinkFull (kept ++ before).length)],
          holding (some (kept ++ before).length) (kept ++ before), before.length + 1, false,
          .error (Dispatch.rejection granularity before.length pair path
            (.sinkFull (kept ++ before).length))⟩ := by
  have hroom : Allows (some (kept ++ before).length) (kept ++ before).length := Nat.le_refl _
  have haccepts := (accepts_of_allows hroom granularity).deliver_append path failure 0
    (pair :: others)
  refine haccepts.trans ?_
  rw [Nat.zero_add, Dispatch.deliver, accept_of_full]
  rfl

/-- A collector has room for the matches of a list, or they begin with as many as it has room
for. -/
lemma Allows.all_or_split (h : Allows limit kept.length) (pairs : List AddressPair) :
    Allows limit (kept ++ pairs).length ∨
      ∃ before pair others, pairs = before ++ pair :: others ∧
        limit = some (kept ++ before).length := by
  induction pairs generalizing kept with
  | nil =>
    rw [List.append_nil]
    exact .inl h
  | cons pair pairs ih =>
    obtain hroom | hfull := h.succ_or_eq
    · have hnext : Allows limit (kept ++ [pair]).length := by rwa [List.length_append]
      obtain hall | ⟨before, refused, others, rfl, hlimit⟩ := ih hnext
      · rw [List.append_cons]
        exact .inl hall
      · rw [← List.append_cons] at hlimit
        exact .inr ⟨pair :: before, refused, others, rfl, hlimit⟩
    · exact .inr ⟨[], pair, pairs, rfl, by rwa [List.append_nil]⟩

/-- The state that a use of a collector leaves, and which of its matches were offered. -/
lemma after_holding (h : Allows limit kept.length) (use : Use) :
    (holding limit kept).after use = holding limit (firstOf limit (kept ++ use.pairs)) ∧
      firstOf limit (kept ++ use.offered (holding limit kept))
        = firstOf limit (kept ++ use.pairs) := by
  cases use with
  | accept pair =>
    refine ⟨?_, rfl⟩
    obtain hroom | rfl := h.succ_or_eq
    · rw [after, accept_of_room hroom, Use.pairs, firstOf_of_allows]
      rwa [List.length_append]
    · rw [after, accept_of_full, firstOf, List.take_left]
  | dispatch granularity path source =>
    obtain ⟨pairs, failure⟩ := source
    obtain hall | ⟨before, pair, others, rfl, rfl⟩ := h.all_or_split pairs
    · -- all of the matches are offered and kept, also if the source fails after them
      rw [after, Use.offered, Use.pairs, firstOf_of_allows hall, dispatch_of_allows hall]
      cases failure <;>
        exact ⟨rfl, by rw [Dispatch.deliver, List.take_length, firstOf_of_allows hall]⟩
    · have hoffered : (before ++ pair :: others).take (before.length + 1) = before ++ [pair] := by
        rw [List.append_cons]
        exact List.take_left' (by simp)
      rw [after, Use.offered, Use.pairs, dispatch_of_exceeds, hoffered, firstOf, firstOf,
        ← List.append_assoc, ← List.append_assoc, List.take_left, List.take_left]
      exact ⟨rfl, rfl⟩

/-! ### All uses -/

/-- What a collector holds after some uses does not depend on how its matches came. -/
lemma foldl_after (h : Allows limit kept.length) (uses : List Use) :
    uses.foldl after (holding limit kept)
        = holding limit (firstOf limit (kept ++ uses.flatMap Use.pairs)) ∧
      firstOf limit (kept ++ offeredIn (holding limit kept) uses)
        = firstOf limit (kept ++ uses.flatMap Use.pairs) := by
  induction uses generalizing kept with
  | nil =>
    rw [List.foldl_nil, offeredIn, List.flatMap_nil, List.append_nil, firstOf_of_allows h]
    exact ⟨rfl, rfl⟩
  | cons use uses ih =>
    obtain ⟨hafter, hoffered⟩ := after_holding h use
    obtain ⟨hheld, hlater⟩ := ih (allows_length_firstOf limit (kept ++ use.pairs))
    rw [firstOf_firstOf_append, List.append_assoc] at hheld
    refine ⟨?_, ?_⟩
    · rw [List.foldl_cons, hafter, hheld, List.flatMap_cons]
    · -- what was offered first may be cut off to what is kept of it, and this is all that is kept
      rw [offeredIn, hafter, ← List.append_assoc, ← firstOf_firstOf_append, hoffered, hlater,
        firstOf_firstOf_append, List.append_assoc, List.flatMap_cons]

/-- A full collector stays as it is, whatever it is used for. -/
lemma foldl_after_full (uses : List Use) :
    uses.foldl after (holding (some kept.length) kept) = holding (some kept.length) kept := by
  have hfull : Allows (some kept.length) kept.length := Nat.le_refl _
  rw [(foldl_after hfull uses).1, firstOf, List.take_left]

/-! ### What comes of it -/

/-- A collector with a limit has kept the first of the matches that were offered to it, and goes on
to do so. -/
structure KeepsFirst (limit : Option Nat) (offered : List AddressPair) (held : Collector) :
    Prop where
  kept_eq : held.kept = firstOf limit offered
  length_le : ∀ bound, limit = some bound → held.kept.length ≤ bound
  full_eq : held.full = decide (limit = some held.kept.length)
  /-- With room for one more, the next match is kept. -/
  accepted : limit ≠ some held.kept.length → ∀ pair,
    held.accept pair = ({ held with kept := held.kept ++ [pair] }, none)
  /-- Without room, every match is refused from then on, and changes nothing. -/
  refused : limit = some held.kept.length → ∀ (later : List Use) pair,
    (later.foldl after held).accept pair = (held, some (.sinkFull held.kept.length))
  /-- A dispatch delivers all of its matches if there is room for them. -/
  delivered : ∀ granularity path (pairs : List AddressPair),
    (∀ bound, limit = some bound → held.kept.length + pairs.length ≤ bound) →
    dispatch accept granularity path ⟨pairs, none⟩ held
      = ⟨[Dispatch.completed granularity pairs.length],
          { held with kept := held.kept ++ pairs }, pairs.length, true, .ok pairs.length⟩
  /-- Else it fails at the first match for which there is no room, and takes no further match from
  its source. -/
  stopped : ∀ granularity path (pairs : List AddressPair) bound, limit = some bound →
    bound < held.kept.length + pairs.length →
    let index := bound - held.kept.length
    ∃ pair, pairs[index]? = some pair ∧
      dispatch accept granularity path ⟨pairs, none⟩ held
        = ⟨[Dispatch.aborted granularity index pair (.sinkFull bound)],
            { held with kept := held.kept ++ pairs.take index }, index + 1, false,
            .error (.diff (.rejected granularity pair index s!"collected {bound} matches" path
              (.complaint (.sinkFull bound))))⟩

lemma keepsFirst_holding (limit : Option Nat) (offered : List AddressPair) :
    KeepsFirst limit offered (holding limit (firstOf limit offered)) := by
  have h := allows_length_firstOf limit offered
  generalize hkept : firstOf limit offered = kept at h
  refine ⟨hkept.symm, ?_, full_holding h, ?_, ?_, ?_, ?_⟩
  · rintro bound rfl
    exact h
  · intro hne pair
    exact accept_of_room (h.succ_or_eq.resolve_right hne) pair
  · intro hfull later pair
    have hlimit : limit = some kept.length := hfull
    rw [hlimit, foldl_after_full, accept_of_full]
    rfl
  · intro granularity path pairs hfits
    have hall : Allows limit (kept ++ pairs).length := by
      rw [List.length_append]
      cases limit with
      | none => exact trivial
      | some bound => exact hfits bound rfl
    exact dispatch_of_allows hall
  · intro granularity path pairs bound hlimit hexceeds index
    obtain hall | ⟨before, pair, others, rfl, hsplit⟩ := h.all_or_split pairs
    · -- there would be room for all of the matches
      have hle : (kept ++ pairs).length ≤ bound := by rwa [hlimit] at hall
      have hgt : bound < kept.length + pairs.length := hexceeds
      rw [List.length_append] at hle
      omega
    · have hbound : bound = (kept ++ before).length := Option.some.inj (hlimit.symm.trans hsplit)
      have hindex : index = before.length := by
        change bound - kept.length = before.length
        rw [hbound, List.length_append, Nat.add_sub_cancel_left]
      refine ⟨pair, ?_, ?_⟩
      · rw [hindex, List.getElem?_append_right (Nat.le_refl _), Nat.sub_self]
        rfl
      · rw [hindex, hsplit, dispatch_of_exceeds, Dispatch.rejection, say_sinkFull, List.take_left,
          hbound]
        rfl

/-- A collector that is made with a limit has kept the first of the matches offered to it, as many
as the limit allows, after any uses of it.  It would be the same if each dispatch had offered all
of its matches. -/
theorem keepsFirst_foldl_after (limit : Option Nat) (uses : List Use) :
    ∃ start, make (limit.map Int.ofNat) = .ok start ∧
      KeepsFirst limit (offeredIn start uses) (uses.foldl after start) ∧
      KeepsFirst limit (uses.flatMap Use.pairs) (uses.foldl after start) := by
  have hmake : make (limit.map Int.ofNat) = .ok (holding limit []) := by
    cases limit <;> rfl
  have hempty : Allows limit ([] : List AddressPair).length := by
    cases limit with
    | none => exact trivial
    | some bound => exact Nat.zero_le bound
  obtain ⟨hheld, hoffered⟩ := foldl_after hempty uses
  simp only [List.nil_append] at hheld hoffered
  refine ⟨holding limit [], hmake, ?_, ?_⟩
  · rw [hheld, ← hoffered]
    exact keepsFirst_holding limit _
  · rw [hheld]
    exact keepsFirst_holding limit _

example : ([Use.accept ⟨1, 1⟩, .dispatch .function none ⟨[⟨2, 2⟩, ⟨3, 3⟩, ⟨4, 4⟩], none⟩,
    .accept ⟨5, 5⟩].foldl after (holding (some 2) [])).kept = [⟨1, 1⟩, ⟨2, 2⟩] := by decide

end BinaryDiff.Collector
