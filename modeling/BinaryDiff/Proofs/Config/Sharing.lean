import BinaryDiff.Config.Context
import BinaryDiff.Proofs.Files.Replacing
import Mathlib.Data.List.Induction
import Mathlib.Tactic.Common

/-!
# The configuration is loaded once

What is held after any history of actions can be told from the history alone (`Context.Holds`): it
is the configuration that was put in last, or else the first that could be loaded since it was last
forgotten, and nothing as long as neither happened.  So a question that finds nothing loads by the
files and variables of its moment (`Context.Moment`), and once it succeeds every later question has
the same answer, until the configuration is put in or forgotten (`Context.ensure_loads_once`).
-/

namespace BinaryDiff

/-- Setting a variable changes its value and no other. -/
lemma Surroundings.environmentValue_setVariable (around : Surroundings)
    (name value other : String) :
    (around.setVariable name value).environmentValue other
      = if name = other then some value else around.environmentValue other := by
  rw [environmentValue, setVariable]
  by_cases hname : name = other
  · simp [hname]
  · simp [hname, find?_filter_key (Ne.symm hname), environmentValue]

lemma Except.eq_ok_of_toOption {ε α : Type} {outcome : Except ε α} {value : α}
    (h : outcome.toOption = some value) : outcome = .ok value := by
  cases outcome with
  | error failure => cases h
  | ok other => exact congrArg Except.ok (Option.some.inj h)

namespace Context

/-! ### Histories -/

/-- The surroundings and the context after some actions. -/
def run (around : Surroundings) (context : Context) : List Action → Surroundings × Context
  | [] => (around, context)
  | action :: actions =>
    let (around, context, _) := context.act around action
    run around context actions

/-- The answers to the questions among some actions. -/
def answers (around : Surroundings) (context : Context) :
    List Action → List (Except ConfigFailure Settings)
  | [] => []
  | action :: actions =>
    let (around, context, answer) := context.act around action
    answer.toList ++ answers around context actions

namespace Action

/-- What an action makes of the surroundings. -/
def moved (around : Surroundings) : Action → Surroundings
  | replaceFiles files => { around with files := files }
  | setVariable name value => around.setVariable name value
  | preset _ | forget | ensure => around

/-- The files that an action puts in the place of all others. -/
def files? : Action → Option FileTree
  | replaceFiles files => some files
  | _ => none

/-- The value that an action gives to a variable. -/
def value? (name : String) : Action → Option String
  | setVariable other value => if other = name then some value else none
  | _ => none

/-- Whether an action neither puts a configuration in nor forgets it. -/
def Steady : Action → Prop
  | preset _ | forget => False
  | replaceFiles _ | setVariable .. | ensure => True

end Action

/-- The surroundings after some actions, which do not depend on the context. -/
def moment (around : Surroundings) (actions : List Action) : Surroundings :=
  actions.foldl Action.moved around

/-- Surroundings with the files that some actions put there last, and each variable with the value
that they gave it last. -/
structure Moment (around : Surroundings) (actions : List Action) (now : Surroundings) : Prop where
  files : now.files = (actions.reverse.findSome? Action.files?).getD around.files
  values : ∀ name, now.environmentValue name
    = (actions.reverse.findSome? (Action.value? name)).or (around.environmentValue name)
  places : now.workingDirectory = around.workingDirectory ∧
    now.homeDirectory = around.homeDirectory ∧ now.accounts = around.accounts

/-- Whether a history is at its start or right after the configuration was forgotten. -/
def Bare (before : List Action) : Prop :=
  before = [] ∨ ∃ earlier, before = earlier ++ [.forget]

/-- Whether, after some actions, others neither put a configuration in nor forget it, and at none of
their questions there is one to be loaded. -/
structure Fruitless (around : Surroundings) (before tries : List Action) : Prop where
  steady : ∀ action ∈ tries, action.Steady
  fails : ∀ earlier later, tries = earlier ++ .ensure :: later →
    ∃ failure, loadConfig (moment around (before ++ earlier)) none = .error failure

/-- The configuration that is held after a history that began with none. -/
inductive Holds (around : Surroundings) : List Action → Option Settings → Prop
  /-- There was none to be loaded since it was forgotten. -/
  | nothing {before tries : List Action} : Bare before → Fruitless around before tries →
      Holds around (before ++ tries) none
  /-- It is the first that could be loaded since then. -/
  | loaded {before tries since : List Action} {settings : Settings} : Bare before →
      Fruitless around before tries →
      loadConfig (moment around (before ++ tries)) none = .ok settings →
      (∀ action ∈ since, action.Steady) →
      Holds around (before ++ tries ++ .ensure :: since) (some settings)
  /-- It is the one that was put in last. -/
  | preset {before since : List Action} {settings : Settings} :
      (∀ action ∈ since, action.Steady) →
      Holds around (before ++ .preset settings :: since) (some settings)

/-! ### Steps -/

section

variable {around : Surroundings} {context : Context} {actions : List Action}

lemma act_fst (around : Surroundings) (context : Context) (action : Action) :
    (context.act around action).1 = action.moved around := by
  cases action <;> rfl

lemma act_ensure_of_some {settings : Settings} (h : context.settings = some settings)
    (around : Surroundings) :
    context.act around .ensure = (around, context, some (.ok settings)) := by
  simp only [act, ensure, h]

/-- A question that finds nothing is answered by loading, and keeps what it loads. -/
lemma act_ensure_of_none (h : context.settings = none) (around : Surroundings) :
    context.act around .ensure
      = (around, ⟨(loadConfig around none).toOption⟩, some (loadConfig around none)) := by
  obtain ⟨settings⟩ := context
  cases h
  simp only [act, ensure]
  cases loadConfig around none <;> rfl

/-- What is held is kept by every action but two. -/
lemma act_of_steady {action : Action} (hsteady : action.Steady) {settings : Settings}
    (h : context.settings = some settings) (around : Surroundings) :
    (context.act around action).2.1 = context ∧
      ∀ answer ∈ (context.act around action).2.2, answer = .ok settings := by
  cases action with
  | preset | forget => exact hsteady.elim
  | replaceFiles | setVariable => exact ⟨rfl, by simp [act]⟩
  | ensure => simp [act_ensure_of_some h]

/-! ### Runs -/

lemma run_append (around : Surroundings) (context : Context) (actions others : List Action) :
    run around context (actions ++ others)
      = run (run around context actions).1 (run around context actions).2 others := by
  induction actions generalizing around context with
  | nil => rfl
  | cons action actions ih => exact ih _ _

lemma run_fst (around : Surroundings) (context : Context) (actions : List Action) :
    (run around context actions).1 = moment around actions := by
  induction actions generalizing around context with
  | nil => rfl
  | cons action actions ih =>
    rw [run, ih, act_fst]
    rfl

lemma moment_concat (around : Surroundings) (actions : List Action) (action : Action) :
    moment around (actions ++ [action]) = action.moved (moment around actions) := by
  rw [moment, List.foldl_append]
  rfl

lemma run_concat_snd (around : Surroundings) (context : Context) (actions : List Action)
    (action : Action) :
    (run around context (actions ++ [action])).2
      = ((run around context actions).2.act (moment around actions) action).2.1 := by
  rw [run_append, ← run_fst around context]
  rfl

/-- The last files and values are those of the moment. -/
lemma moment_spec (around : Surroundings) (actions : List Action) :
    Moment around actions (moment around actions) := by
  induction actions using List.reverseRecOn with
  | nil => exact ⟨rfl, fun _ => rfl, rfl, rfl, rfl⟩
  | append_singleton actions action ih =>
    obtain ⟨hfiles, hvalues, hplaces⟩ := ih
    have hlast : (actions ++ [action]).reverse = action :: actions.reverse := by simp
    rw [moment_concat]
    cases action with
    | replaceFiles files =>
      refine ⟨?_, fun name => ?_, hplaces⟩ <;> rw [hlast, List.findSome?_cons]
      · rfl
      · exact hvalues name
    | setVariable name value =>
      refine ⟨?_, fun other => ?_, hplaces⟩ <;> rw [hlast, List.findSome?_cons]
      · exact hfiles
      · rw [Action.moved, Surroundings.environmentValue_setVariable, Action.value?, hvalues other]
        split <;> rfl
    | preset | forget | ensure =>
      refine ⟨?_, fun name => ?_, hplaces⟩ <;> rw [hlast, List.findSome?_cons]
      · exact hfiles
      · exact hvalues name

/-! ### What is held -/

/-- What is held is kept as long as it is neither replaced nor forgotten, and answers every
question, whatever happens around it. -/
lemma run_of_some {settings : Settings} (h : context.settings = some settings)
    (hsteady : ∀ action ∈ actions, action.Steady) (around : Surroundings) :
    (run around context actions).2 = context ∧
      ∀ answer ∈ answers around context actions, answer = .ok settings := by
  induction actions generalizing around with
  | nil => exact ⟨rfl, by simp [answers]⟩
  | cons action actions ih =>
    obtain ⟨hfirst, hrest⟩ := List.forall_mem_cons.mp hsteady
    obtain ⟨hkept, hanswer⟩ := act_of_steady hfirst h around
    rw [run, answers]
    simp only [hkept, List.mem_append, Option.mem_toList]
    obtain ⟨hrun, hanswers⟩ := ih hrest (context.act around action).1
    refine ⟨hrun, fun answer hmem => ?_⟩
    rcases hmem with hmem | hmem
    · exact hanswer answer hmem
    · exact hanswers answer hmem

/-- As long as none can be loaded, none is held. -/
lemma settings_of_fruitless {before tries : List Action} (h : Fruitless around before tries)
    (hnone : (run around context before).2.settings = none) :
    (run around context (before ++ tries)).2.settings = none := by
  induction tries using List.reverseRecOn with
  | nil => simpa using hnone
  | append_singleton tries action ih =>
    have htries : Fruitless around before tries := by
      refine ⟨fun other hother => h.steady other (by simp [hother]), ?_⟩
      rintro earlier later rfl
      exact h.fails earlier (later ++ [action]) (by simp)
    have hheld := ih htries
    have hsteady := h.steady action (by simp)
    rw [← List.append_assoc, run_concat_snd]
    cases action with
    | preset | forget => exact hsteady.elim
    | replaceFiles | setVariable => exact hheld
    | ensure =>
      obtain ⟨failure, hfailure⟩ := h.fails tries [] rfl
      rw [act_ensure_of_none hheld, hfailure]
      rfl

lemma settings_of_bare {before : List Action} (h : Bare before) :
    (run around .empty before).2.settings = none := by
  rcases h with rfl | ⟨earlier, rfl⟩
  · rfl
  · rw [run_concat_snd]
    rfl

/-- A history determines what is held after it. -/
lemma Holds.settings_run {held : Option Settings} (h : Holds around actions held) :
    (run around .empty actions).2.settings = held := by
  cases h with
  | nothing hbare htries => exact settings_of_fruitless htries (settings_of_bare hbare)
  | @loaded before tries since settings hbare htries hload hsteady =>
    have hnone := settings_of_fruitless htries (settings_of_bare hbare)
    have hheld : (run around .empty (before ++ tries ++ [.ensure])).2.settings = some settings := by
      rw [run_concat_snd, act_ensure_of_none hnone, hload]
      rfl
    rw [List.append_cons, run_append, (run_of_some hheld hsteady _).1, hheld]
  | @preset before since settings hsteady =>
    have hheld : (run around .empty (before ++ [.preset settings])).2.settings = some settings := by
      rw [run_concat_snd]
      rfl
    rw [List.append_cons, run_append, (run_of_some hheld hsteady _).1, hheld]

lemma Fruitless.concat {before tries : List Action} (h : Fruitless around before tries)
    {action : Action} (hsteady : action.Steady)
    (hfails : action = .ensure →
      ∃ failure, loadConfig (moment around (before ++ tries)) none = .error failure) :
    Fruitless around before (tries ++ [action]) := by
  refine ⟨?_, fun earlier later hsplit => ?_⟩
  · rw [List.forall_mem_append]
    exact ⟨h.steady, by simpa using hsteady⟩
  · -- the question is the new action, or lies before it
    rcases List.eq_nil_or_concat later with rfl | ⟨later, last, rfl⟩
    · obtain ⟨rfl, hlast⟩ := List.append_inj' hsplit rfl
      exact hfails (List.singleton_inj.mp hlast)
    · have hsplit : tries ++ [action] = earlier ++ .ensure :: later ++ [last] := by
        simpa using hsplit
      obtain ⟨rfl, -⟩ := List.append_inj' hsplit rfl
      exact h.fails earlier later rfl

/-- A steady action other than a question leaves things as they are, and so does a question to which
there is an answer already. -/
lemma Holds.concat {held : Option Settings} (h : Holds around actions held) {action : Action}
    (hsteady : action.Steady) (hquestion : action = .ensure → held.isSome) :
    Holds around (actions ++ [action]) held := by
  have hsince : ∀ {since : List Action}, (∀ action ∈ since, action.Steady) →
      ∀ other ∈ since ++ [action], other.Steady := by
    intro since hsince
    rw [List.forall_mem_append]
    exact ⟨hsince, by simpa using hsteady⟩
  cases h with
  | nothing hbare htries =>
    rw [List.append_assoc]
    exact .nothing hbare (htries.concat hsteady fun h => absurd (hquestion h) (by simp))
  | loaded hbare htries hload hafter =>
    rw [List.append_assoc, List.cons_append]
    exact .loaded hbare htries hload (hsince hafter)
  | preset hafter =>
    rw [List.append_assoc, List.cons_append]
    exact .preset (hsince hafter)

/-- Some configuration, or none, is held after every history. -/
lemma exists_holds (around : Surroundings) (actions : List Action) :
    ∃ held, Holds around actions held := by
  induction actions using List.reverseRecOn with
  | nil => exact ⟨none, .nothing (.inl rfl) ⟨by simp, by simp⟩⟩
  | append_singleton actions action ih =>
    obtain ⟨held, hheld⟩ := ih
    cases action with
    | replaceFiles files => exact ⟨held, hheld.concat trivial nofun⟩
    | setVariable name value => exact ⟨held, hheld.concat trivial nofun⟩
    | preset settings => exact ⟨some settings, @Holds.preset around actions [] settings (by simp)⟩
    | forget =>
      refine ⟨none, ?_⟩
      rw [← List.append_nil (actions ++ _)]
      exact .nothing (.inr ⟨actions, rfl⟩) ⟨by simp, by simp⟩
    | ensure =>
      cases hheld with
      | @nothing before tries hbare htries =>
        cases hload : loadConfig (moment around (before ++ tries)) none with
        | error failure =>
          refine ⟨none, ?_⟩
          rw [List.append_assoc]
          exact .nothing hbare (htries.concat trivial fun _ => ⟨failure, hload⟩)
        | ok settings =>
          exact ⟨some settings, @Holds.loaded around before tries [] settings hbare htries hload
            (by simp)⟩
      | loaded hbare htries hload hsteady =>
        exact ⟨_, (Holds.loaded hbare htries hload hsteady).concat trivial fun _ => rfl⟩
      | preset hsteady => exact ⟨_, (Holds.preset hsteady).concat trivial fun _ => rfl⟩

lemma settings_run_iff {held : Option Settings} :
    (run around .empty actions).2.settings = held ↔ Holds around actions held := by
  refine ⟨?_, Holds.settings_run⟩
  rintro rfl
  obtain ⟨held, hheld⟩ := exists_holds around actions
  rwa [hheld.settings_run]

/-- Between two actions that put a configuration in or forget it, all questions that succeed have
the same answer: what was held at first, or else the first answer. -/
lemma answers_agree {settings : Settings} (hsteady : ∀ action ∈ actions, action.Steady)
    (h : .ok settings ∈ answers around context actions) :
    context.settings.or ((answers around context actions).findSome? Except.toOption)
      = some settings := by
  cases hheld : context.settings with
  | some held =>
    have hanswer := (run_of_some hheld hsteady around).2 _ h
    cases hanswer
    rfl
  | none =>
    -- by induction up to the first question that succeeds
    induction actions generalizing around context with
    | nil => simp [answers] at h
    | cons action actions ih =>
      obtain ⟨hfirst, hrest⟩ := List.forall_mem_cons.mp hsteady
      cases action with
      | preset | forget => exact hfirst.elim
      | replaceFiles | setVariable => exact ih hrest h hheld
      | ensure =>
        rw [answers, act_ensure_of_none hheld] at h ⊢
        cases hload : loadConfig around none with
        | error failure =>
          simp only [hload, Option.toList_some, List.singleton_append, List.mem_cons,
            reduceCtorEq, false_or] at h ⊢
          exact ih hrest h rfl
        | ok first =>
          simp only [hload, Option.toList_some, List.singleton_append, List.mem_cons,
            Except.ok.injEq] at h ⊢
          rcases h with rfl | h
          · rfl
          · have hheld : (⟨some first⟩ : Context).settings = some first := rfl
            have hanswer := (run_of_some hheld hrest around).2 _ h
            cases hanswer
            rfl

end

/-! ### Loading once -/

/-- A shared configuration that began with none, after any actions.  The files and variables are
those that were put there last, and what is held is told by the history.  If a configuration is
held it is the answer, whatever has become of the surroundings; if none is, the answer is what
loading gives at the moment, which is kept if it is a configuration and leaves nothing if it is a
failure.  So all questions that succeed before the next configuration is put in or forgotten agree:
their answer is what is held now or else the first answer. -/
theorem ensure_loads_once (around : Surroundings) (actions : List Action) :
    let now := (run around .empty actions).1
    let context := (run around .empty actions).2
    Moment around actions now ∧
      (∀ held, context.settings = held ↔ Holds around actions held) ∧
      (∀ settings, context.settings = some settings → ∀ elsewhere : Surroundings,
        context.act elsewhere .ensure = (elsewhere, context, some (.ok settings))) ∧
      (context.settings = none → context.act now .ensure
        = (now, ⟨(loadConfig now none).toOption⟩, some (loadConfig now none))) ∧
      ∀ later, (∀ action ∈ later, action.Steady) →
        ∀ settings, .ok settings ∈ answers now context later →
          context.settings.or ((answers now context later).findSome? Except.toOption)
            = some settings := by
  intro now context
  refine ⟨?_, fun held => settings_run_iff, fun settings h => act_ensure_of_some h,
    fun h => act_ensure_of_none h now, fun later hsteady settings h => answers_agree hsteady h⟩
  rw [show now = moment around actions from run_fst around .empty actions]
  exact moment_spec around actions

namespace Sample

/-- Surroundings with a configuration file in the working directory. -/
def around (text : String) : Surroundings :=
  ⟨⟨[(["vxsig.yaml"], .file (.bytes text.toUTF8.data.toList))]⟩, ⟨1, []⟩, ⟨1, ["home"]⟩, [], []⟩

/-- The default settings with another address width. -/
def settings (width : Int) : Settings :=
  ⟨⟨width, ReaderSettings.default.timeout⟩, .default⟩

/-- A question to a file that is no YAML, which is then repaired. -/
def repair : List Action :=
  [.ensure, .replaceFiles (around "reader: \x7baddress_width: 32\x7d").files]

/-- Two questions, between which the file is replaced again and a variable is set that leads to
another one. -/
def change : List Action :=
  [.ensure, .replaceFiles (around "reader: \x7baddress_width: 16\x7d").files,
    .setVariable "VXSIG_CONFIG" "none.yaml", .ensure]

end Sample

/-- In the sample the first question fails, and those after the repair have the answer that the file
gave at the first of them. -/
theorem ensure_loads_once_sample :
    let now := (run (Sample.around "[") .empty Sample.repair).1
    let context := (run (Sample.around "[") .empty Sample.repair).2
    context.settings = none ∧ (loadConfig now none).toOption = some (Sample.settings 32) ∧
      (context.act now .ensure).2.1.settings = some (Sample.settings 32) ∧
      (∀ action ∈ Sample.change, action.Steady) ∧
      .ok (Sample.settings 32) ∈ answers now context Sample.change ∧
      (answers now context Sample.change).findSome? Except.toOption
        = some (Sample.settings 32) := by
  have h := ensure_loads_once (Sample.around "[") Sample.repair
  have hnone : (run (Sample.around "[") .empty Sample.repair).2.settings = none := by
    decide +kernel
  have hload : (loadConfig (run (Sample.around "[") .empty Sample.repair).1 none).toOption
      = some (Sample.settings 32) := by
    decide +kernel
  -- the values from here on are those of the variables, not to be computed again
  generalize run (Sample.around "[") .empty Sample.repair = repaired at h hnone hload ⊢
  obtain ⟨-, -, -, hloads, hagree⟩ := h
  have hact := hloads hnone
  have hsteady : ∀ action ∈ Sample.change, action.Steady := by simp [Sample.change, Action.Steady]
  have hanswer : .ok (Sample.settings 32) ∈ answers repaired.1 repaired.2 Sample.change := by
    rw [Sample.change, answers, hact, Except.eq_ok_of_toOption hload]
    exact List.mem_cons_self
  refine ⟨hnone, hload, by rw [hact, hload], hsteady, hanswer, ?_⟩
  simpa [hnone] using hagree _ hsteady _ hanswer

end Context
end BinaryDiff
