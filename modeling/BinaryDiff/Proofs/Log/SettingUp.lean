import BinaryDiff.Log.Root
import Mathlib.Tactic.Common

/-!
# Setting the log up

However often the log is set up, it has one handler afterwards, the one that was asked for last.
Its rank is that of the level whose standard name the upper case of the configured text is, and that
of `INFO` for any other text, with two exceptions: the upper case may be the name of a constant of
the logging facility that is no level, and then the request is refused and the rank stays what it
was (`LogRoot.answerAll_each`).
-/

namespace BinaryDiff

/-! ### Levels -/

/-- The rank of the level with a standard name. -/
def standardRank : String → Option Nat
  | "CRITICAL" => some LogLevel.critical.rank
  | "FATAL" => some LogLevel.critical.rank
  | "ERROR" => some LogLevel.error.rank
  | "WARN" => some LogLevel.warning.rank
  | "WARNING" => some LogLevel.warning.rank
  | "INFO" => some LogLevel.info.rank
  | "DEBUG" => some LogLevel.debug.rank
  | "NOTSET" => some 0
  | _ => none

/-- The text that is compared with the names of levels. -/
def LogSettings.levelName (settings : LogSettings) : String :=
  String.ofList (upper settings.level.toList)

lemma find?_levelRanks (name : String) :
    (levelRanks.find? (·.1 == name)).map Prod.snd = standardRank name := by
  unfold standardRank
  split
  case h_9 =>
    -- the name differs from all of the table
    have hnone : levelRanks.find? (·.1 == name) = none := by
      simp only [levelRanks, List.find?_eq_none, List.forall_mem_cons, beq_iff_eq,
        @eq_comm _ _ name, List.not_mem_nil, false_implies, implies_true, and_true]
      and_intros <;> assumption
    rw [hnone, Option.map_none]
  all_goals rfl

lemma threshold_debug : threshold "DEBUG" = .ok LogLevel.debug.rank := by decide +kernel

lemma threshold_of_mistaken {level : String}
    (h : String.ofList (upper level.toList) ∈ ["BASIC_FORMAT", "_STYLES"]) :
    ∃ failure, threshold level = .error failure ∧ failure.name ∈ ["ValueError", "TypeError"] := by
  rw [threshold]
  generalize String.ofList (upper level.toList) = name at h
  simp only [List.mem_cons, List.not_mem_nil, or_false] at h
  rcases h with rfl | rfl
  · refine ⟨_, rfl, ?_⟩
    decide
  · refine ⟨_, rfl, ?_⟩
    decide

lemma threshold_of_not_mistaken {level : String}
    (h : String.ofList (upper level.toList) ∉ ["BASIC_FORMAT", "_STYLES"]) :
    threshold level
      = .ok ((standardRank (String.ofList (upper level.toList))).getD LogLevel.info.rank) := by
  rw [threshold, ← find?_levelRanks]
  generalize String.ofList (upper level.toList) = name at h ⊢
  have hconstant : mistakenConstants.find? (·.1 == name) = none := by
    simp only [List.mem_cons, List.not_mem_nil, or_false, not_or] at h
    simp [mistakenConstants, @eq_comm _ _ name, h]
  rw [hconstant]
  cases levelRanks.find? (·.1 == name) <;> rfl

/-! ### One request -/

namespace LogRequest

/-- Whether the configured level is taken for a constant that is none. -/
def Refused (request : LogRequest) : Prop :=
  request.verbose = false ∧ request.settings.levelName ∈ ["BASIC_FORMAT", "_STYLES"]

instance (request : LogRequest) : Decidable request.Refused :=
  inferInstanceAs (Decidable (_ ∧ _))

/-- The rank that a request asks for. -/
def rank (request : LogRequest) : Nat :=
  if request.verbose then LogLevel.debug.rank
  else (standardRank request.settings.levelName).getD LogLevel.info.rank

variable {request : LogRequest}

lemma threshold_of_refused (h : request.Refused) :
    ∃ failure, threshold (request.settings.levelFor request.verbose) = .error failure ∧
      failure.name ∈ ["ValueError", "TypeError"] := by
  obtain ⟨hverbose, hname⟩ := h
  rw [LogSettings.levelFor, hverbose]
  exact threshold_of_mistaken hname

lemma threshold_of_not_refused (h : ¬ request.Refused) :
    threshold (request.settings.levelFor request.verbose) = .ok request.rank := by
  rw [LogSettings.levelFor, rank]
  cases hverbose : request.verbose with
  | true => exact threshold_debug
  | false => exact threshold_of_not_mistaken fun hname => h ⟨hverbose, hname⟩

end LogRequest

namespace LogRoot

variable {request : LogRequest}

/-- A request that is refused leaves its handler, but not its rank. -/
lemma answer_of_refused (root : LogRoot) (h : request.Refused) :
    ∃ failure, root.answer request
        = (⟨[.own request.settings.json], root.threshold⟩, some failure) ∧
      failure.name ∈ ["ValueError", "TypeError"] := by
  obtain ⟨failure, hthreshold, hname⟩ := LogRequest.threshold_of_refused h
  refine ⟨failure, ?_, hname⟩
  rw [answer, setUp, setLevel, hthreshold]
  rfl

/-- Any other request is met, whatever the root was like. -/
lemma answer_of_not_refused (root : LogRoot) (h : ¬ request.Refused) :
    root.answer request = (⟨[.own request.settings.json], request.rank⟩, none) := by
  rw [answer, setUp, setLevel, LogRequest.threshold_of_not_refused h]
  rfl

/-! ### Many requests -/

lemma answerAll_cons (root : LogRoot) (request : LogRequest) (requests : List LogRequest) :
    root.answerAll (request :: requests)
      = (((root.answer request).1.answerAll requests).1,
          (root.answer request).2 :: ((root.answer request).1.answerAll requests).2) :=
  rfl

lemma answerAll_append (root : LogRoot) (before after : List LogRequest) :
    root.answerAll (before ++ after)
      = (((root.answerAll before).1.answerAll after).1,
          (root.answerAll before).2 ++ ((root.answerAll before).1.answerAll after).2) := by
  induction before generalizing root with
  | nil => rfl
  | cons request before ih =>
    rw [List.cons_append, answerAll_cons, answerAll_cons, ih]
    rfl

/-- After a request the root is as the answer to it left it. -/
lemma answerAll_concat (root : LogRoot) (before : List LogRequest) (request : LogRequest) :
    (root.answerAll (before ++ [request])).1 = ((root.answerAll before).1.answer request).1 := by
  rw [answerAll_append, answerAll_cons]
  rfl

/-- A request is complained about exactly if it is refused. -/
lemma forall₂_complaints (root : LogRoot) (requests : List LogRequest) :
    List.Forall₂ (fun request complaint =>
      if request.Refused then
        ∃ failure, complaint = some failure ∧ failure.name ∈ ["ValueError", "TypeError"]
      else complaint = none) requests (root.answerAll requests).2 := by
  induction requests generalizing root with
  | nil => exact .nil
  | cons request requests ih =>
    rw [answerAll_cons]
    refine .cons ?_ (ih _)
    split
    · obtain ⟨failure, hanswer, hname⟩ := answer_of_refused root ‹_›
      exact ⟨failure, by rw [hanswer], hname⟩
    · rw [answer_of_not_refused root ‹_›]

/-- What the program keeps of a set-up is the rank and the handler of the root after it. -/
lemma make_eq (root : LogRoot) (level : String) (json : Bool) :
    LogSetup.make level json = match root.setUp level json with
      | (next, none) => .ok ⟨next.threshold, json, next.handlers.length⟩
      | (_, some failure) => .error failure := by
  rw [LogSetup.make, setUp, setLevel]
  cases BinaryDiff.threshold level <;> rfl

/-- Whatever the log was like before and whatever has been asked for, every request but those whose
level is taken for a constant is met without complaint.  After each request, refused or not, the log
has one handler, which writes in the form that was asked for last; its rank is the one that was
asked for, and after a refused request the one from before.  The program goes on with the same rank
and number of handlers. -/
theorem answerAll_each (root : LogRoot) (requests : List LogRequest) :
    List.Forall₂ (fun request complaint =>
      if request.Refused then
        ∃ failure, complaint = some failure ∧ failure.name ∈ ["ValueError", "TypeError"]
      else complaint = none) requests (root.answerAll requests).2 ∧
    ∀ before request after, requests = before ++ request :: after →
      let earlier := (root.answerAll before).1
      let later := (root.answerAll (before ++ [request])).1
      later.handlers = [.own request.settings.json] ∧
        later.threshold = (if request.Refused then earlier.threshold else request.rank) ∧
        (¬ request.Refused →
          LogSetup.make (request.settings.levelFor request.verbose) request.settings.json
            = .ok ⟨later.threshold, request.settings.json, later.handlers.length⟩) := by
  refine ⟨forall₂_complaints root requests, fun before request after _ => ?_⟩
  intro earlier later
  have hlater : later = (earlier.answer request).1 := answerAll_concat root before request
  by_cases hrefused : request.Refused
  · obtain ⟨failure, hanswer, -⟩ := answer_of_refused earlier hrefused
    rw [hlater, hanswer, if_pos hrefused]
    exact ⟨rfl, rfl, fun hnot => absurd hrefused hnot⟩
  · have hanswer := answer_of_not_refused earlier hrefused
    rw [hlater, make_eq earlier, ← answer, hanswer, if_neg hrefused]
    exact ⟨rfl, rfl, fun _ => rfl⟩

/-- A log that somebody else has set up is set up for warnings, then for the name of a constant, and
then for everything. -/
theorem answerAll_each_sample :
    let root : LogRoot := ⟨[.foreign "console"], 0⟩
    let warnings : LogRequest := ⟨⟨"Warn", true⟩, false⟩
    let constant : LogRequest := ⟨⟨"_styles", false⟩, false⟩
    let everything : LogRequest := ⟨⟨"_styles", true⟩, true⟩
    [warnings, constant, everything] = [warnings] ++ constant :: [everything] ∧
      ¬ warnings.Refused ∧ constant.Refused ∧ ¬ everything.Refused ∧
      (root.answerAll [warnings, constant]).1.handlers = [.own false] ∧
      (root.answerAll [warnings, constant]).1.threshold = 30 ∧
      (root.answerAll [warnings, constant, everything]).1.handlers = [.own true] ∧
      (root.answerAll [warnings, constant, everything]).1.threshold = 10 := by
  intro root warnings constant everything
  have hwarnings : ¬ warnings.Refused := by decide +kernel
  have hconstant : constant.Refused := by decide +kernel
  have heverything : ¬ everything.Refused := by decide +kernel
  obtain ⟨-, hsteps⟩ := answerAll_each root [warnings, constant, everything]
  obtain ⟨-, hfirst, -⟩ := hsteps [] warnings [constant, everything] rfl
  obtain ⟨hsecond, hkept, -⟩ := hsteps [warnings] constant [everything] rfl
  obtain ⟨hthird, hlast, -⟩ := hsteps [warnings, constant] everything [] rfl
  simp only [List.nil_append, List.cons_append] at hfirst hsecond hkept hthird hlast
  rw [if_neg hwarnings] at hfirst
  rw [if_pos hconstant] at hkept
  rw [if_neg heverything] at hlast
  have hrank : warnings.rank = 30 := by decide +kernel
  exact ⟨rfl, hwarnings, hconstant, heverything, hsecond, hkept.trans (hfirst.trans hrank), hthird,
    hlast⟩

/-- A level that is no level's name is refused, where `INFO` would do, if it is that of a
constant. -/
theorem answer_refuses_constant :
    LogRoot.answer ⟨⟨"basic_format", false⟩, false⟩ ⟨[], 30⟩
      = (⟨[.own false], 30⟩,
          some (.raised "ValueError" "Unknown level: '%(levelname)s:%(name)s:%(message)s'")) := by
  decide +kernel

end LogRoot

end BinaryDiff
