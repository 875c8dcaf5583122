import BinaryDiff.Config.Interpolation
import Mathlib.Data.List.TakeWhile
import Mathlib.Tactic.Common

/-!
# The placeholders of a text

A text is cut into literals and placeholders so that no placeholder begins inside a literal.  There
is one way to do so, because a text begins with at most one placeholder: a name ends where a
character follows that is no word character, and a default at the first closing brace
(`Placeholder.read_eq_some_iff`).  Interpolation makes this cut, and puts the parts together again
with a value for every placeholder (`apply_replaces`).
-/

namespace BinaryDiff

namespace Placeholder

/-- The end of a placeholder after its name, as it is written. -/
def ending : Option (List Char) → List Char
  | none => ['}']
  | some text => ':' :: text ++ ['}']

/-- The placeholder as it is written. -/
def written (placeholder : Placeholder) : List Char :=
  '$' :: '{' :: placeholder.name ++ ending placeholder.fallback

/-- What can be written: a name of one or more word characters, and perhaps a default without a
closing brace. -/
structure WellFormed (placeholder : Placeholder) : Prop where
  name_ne_nil : placeholder.name ≠ []
  isWordChar_of_mem : ∀ c ∈ placeholder.name, isWordChar c = true
  not_mem_fallback : ∀ text, placeholder.fallback = some text → '}' ∉ text

/-- Whether a text begins with a placeholder. -/
def Begins (text : List Char) : Prop :=
  ∃ placeholder rest, WellFormed placeholder ∧ text = placeholder.written ++ rest

/-! ### Reading a placeholder -/

/-- A default is read up to the first closing brace. -/
lemma readFallback_eq_some_iff {text after : List Char} {fallback : Option (List Char)} :
    readFallback text = some (fallback, after) ↔
      (∀ default, fallback = some default → '}' ∉ default) ∧ text = ending fallback ++ after := by
  constructor
  · intro h
    unfold readFallback at h
    split at h
    · cases h
      exact ⟨by simp, rfl⟩
    · rename_i rest
      split at h
      · cases h
      · rename_i brace tail hdrop
        cases h
        have hbrace : brace = '}' := by
          have hhead := List.head?_dropWhile_not (· != '}') rest
          simpa [hdrop] using hhead
        refine ⟨?_, ?_⟩
        · rintro _ ⟨⟩ hmem
          simpa using List.mem_takeWhile_imp hmem
        · have hrest := List.takeWhile_append_dropWhile (p := (· != '}')) (l := rest)
          rw [hdrop, hbrace] at hrest
          simp [ending, hrest]
    · cases h
  · rintro ⟨hdefault, rfl⟩
    cases fallback with
    | none => rfl
    | some default =>
      have hbefore : ∀ c ∈ default, (c != '}') = true := by
        intro c hc
        simpa using fun heq : c = '}' => hdefault default rfl (heq ▸ hc)
      have htake : (default ++ '}' :: after).takeWhile (· != '}') = default := by
        rw [List.takeWhile_append_of_pos hbefore]
        simp
      have hdrop : (default ++ '}' :: after).dropWhile (· != '}') = '}' :: after := by
        rw [List.dropWhile_append_of_pos hbefore]
        simp
      simp [ending, readFallback, htake, hdrop]

/-- A name ends where its placeholder goes on. -/
lemma takeWhile_name {placeholder : Placeholder} (h : placeholder.WellFormed) (after : List Char) :
    (placeholder.name ++ (ending placeholder.fallback ++ after)).takeWhile isWordChar
        = placeholder.name ∧
      (placeholder.name ++ (ending placeholder.fallback ++ after)).dropWhile isWordChar
        = ending placeholder.fallback ++ after := by
  have hbrace : isWordChar '}' = false := by decide
  have hcolon : isWordChar ':' = false := by decide
  rw [List.takeWhile_append_of_pos h.isWordChar_of_mem,
    List.dropWhile_append_of_pos h.isWordChar_of_mem]
  cases placeholder.fallback with
  | none => simp [ending, hbrace]
  | some default => simp [ending, hcolon]

/-- The placeholder that is read is the one that the text begins with, if there is one. -/
theorem read_eq_some_iff {text after : List Char} {placeholder : Placeholder} :
    read text = some (placeholder, after) ↔
      placeholder.WellFormed ∧ text = placeholder.written ++ after := by
  constructor
  · intro h
    unfold read at h
    split at h
    · rename_i rest
      dsimp only at h
      split at h
      · cases h
      · rename_i hname
        simp only [Option.map_eq_some_iff, Prod.mk.injEq, Prod.exists] at h
        obtain ⟨fallback, tail, hread, rfl, rfl⟩ := h
        obtain ⟨hdefault, hrest⟩ := readFallback_eq_some_iff.mp hread
        refine ⟨⟨by simpa using hname, fun c hc => List.mem_takeWhile_imp hc, hdefault⟩, ?_⟩
        have hsplit := List.takeWhile_append_dropWhile (p := isWordChar) (l := rest)
        rw [hrest] at hsplit
        simp [written, hsplit]
    · cases h
  · rintro ⟨hwell, rfl⟩
    have hfallback : readFallback (ending placeholder.fallback ++ after)
        = some (placeholder.fallback, after) :=
      readFallback_eq_some_iff.mpr ⟨hwell.not_mem_fallback, rfl⟩
    obtain ⟨htake, hdrop⟩ := takeWhile_name hwell after
    simp [written, read, htake, hdrop, hfallback, hwell.name_ne_nil]

lemma read_eq_none_iff {text : List Char} : read text = none ↔ ¬ Begins text := by
  rw [Option.eq_none_iff_forall_ne_some]
  simp only [ne_eq, Prod.forall, read_eq_some_iff, Begins, not_exists]

end Placeholder

/-- A part of a text as it is written. -/
def TextPart.written : TextPart → List Char
  | literal c => [c]
  | .placeholder reference => reference.written

namespace Interpolation

/-! ### Cutting a text -/

/-- The cut of a text into literals and placeholders, where no placeholder begins inside a literal.
A literal text is a run of literals, each of them one character. -/
structure Cuts (text : List Char) (parts : List TextPart) : Prop where
  written : text = parts.flatMap TextPart.written
  wellFormed : ∀ placeholder, .placeholder placeholder ∈ parts → placeholder.WellFormed
  leftmost : ∀ before c after, parts = before ++ .literal c :: after →
    ¬ Placeholder.Begins (c :: after.flatMap TextPart.written)

lemma split_nil : split [] = [] := by
  rw [split]

lemma split_of_read {text after : List Char} {placeholder : Placeholder}
    (h : Placeholder.read text = some (placeholder, after)) :
    split text = .placeholder placeholder :: split after := by
  cases text with
  | nil => cases h
  | cons c rest =>
    rw [split]
    split
    · rename_i found tail hread
      rw [h] at hread
      cases hread
      rfl
    · rename_i hread
      rw [h] at hread
      cases hread

lemma split_of_read_eq_none {c : Char} {rest : List Char}
    (h : Placeholder.read (c :: rest) = none) : split (c :: rest) = .literal c :: split rest := by
  rw [split]
  split
  · rename_i found tail hread
    rw [h] at hread
    cases hread
  · rfl

lemma Cuts.nil : Cuts [] [] := ⟨rfl, by simp, by simp⟩

lemma Cuts.literal {c : Char} {text : List Char} {parts : List TextPart}
    (h : Cuts text parts) (hnone : ¬ Placeholder.Begins (c :: text)) :
    Cuts (c :: text) (.literal c :: parts) where
  written := by rw [List.flatMap_cons, ← h.written]; rfl
  wellFormed placeholder hmem := h.wellFormed placeholder (by simpa using hmem)
  leftmost before d after hparts := by
    cases before with
    | nil =>
      cases hparts
      rwa [← h.written]
    | cons part before => exact h.leftmost before d after (List.cons.inj hparts).2

lemma Cuts.placeholder {placeholder : Placeholder} {text : List Char} {parts : List TextPart}
    (h : Cuts text parts) (hwell : placeholder.WellFormed) :
    Cuts (placeholder.written ++ text) (.placeholder placeholder :: parts) where
  written := by rw [List.flatMap_cons, ← h.written]; rfl
  wellFormed other hmem := by
    rcases List.mem_cons.mp hmem with heq | hmem
    · cases heq
      exact hwell
    · exact h.wellFormed other hmem
  leftmost before d after hparts := by
    cases before with
    | nil => cases hparts
    | cons part before => exact h.leftmost before d after (List.cons.inj hparts).2

/-- What is behind the first part is cut likewise. -/
lemma Cuts.tail {text : List Char} {part : TextPart} {parts : List TextPart}
    (h : Cuts text (part :: parts)) : Cuts (parts.flatMap TextPart.written) parts where
  written := rfl
  wellFormed placeholder hmem := h.wellFormed placeholder (List.mem_cons_of_mem _ hmem)
  leftmost before c after hparts := h.leftmost (part :: before) c after (by rw [hparts]; rfl)

/-- Reading from left to right makes such a cut. -/
lemma cuts_split (text : List Char) : Cuts text (split text) := by
  induction text using split.induct with
  | case1 => rw [split_nil]; exact .nil
  | case2 c rest placeholder after hread ih =>
    obtain ⟨hwell, htext⟩ := Placeholder.read_eq_some_iff.mp hread
    rw [split_of_read hread, htext]
    exact ih.placeholder hwell
  | case3 c rest hread ih =>
    rw [split_of_read_eq_none hread]
    exact ih.literal (Placeholder.read_eq_none_iff.mp hread)

/-- There is no other cut: at every place the first part is determined by the text. -/
lemma Cuts.eq_split {text : List Char} {parts : List TextPart} (h : Cuts text parts) :
    parts = split text := by
  induction parts generalizing text with
  | nil =>
    rw [h.written]
    exact split_nil.symm
  | cons part parts ih =>
    have htext := h.written
    rw [List.flatMap_cons] at htext
    cases part with
    | literal c =>
      -- no placeholder begins at the literal, so it is read as a literal too
      have hnone := h.leftmost [] c parts rfl
      rw [htext]
      symm
      change split (c :: parts.flatMap TextPart.written) = _
      rw [split_of_read_eq_none (Placeholder.read_eq_none_iff.mpr hnone), ← ih h.tail]
    | placeholder placeholder =>
      have hread : Placeholder.read text = some (placeholder, parts.flatMap TextPart.written) :=
        Placeholder.read_eq_some_iff.mpr ⟨h.wellFormed placeholder List.mem_cons_self, htext⟩
      rw [split_of_read hread, ← ih h.tail]

/-! ### Replacing the placeholders -/

/-- What a part of a text gives way to. -/
inductive Becomes (environment : Environment) : TextPart → List Char → Prop
  /-- A literal stays. -/
  | literal (c : Char) : Becomes environment (.literal c) [c]
  /-- The variable of a placeholder is set, if only to the empty text. -/
  | value {placeholder : Placeholder} {found : String} :
      environment (String.ofList placeholder.name) = some found →
      Becomes environment (.placeholder placeholder) found.toList
  /-- The variable is not set, but the placeholder has a default. -/
  | fallback {placeholder : Placeholder} {default : List Char} :
      environment (String.ofList placeholder.name) = none →
      placeholder.fallback = some default →
      Becomes environment (.placeholder placeholder) default
  /-- The variable is not set, and there is no default. -/
  | nothing {placeholder : Placeholder} :
      environment (String.ofList placeholder.name) = none → placeholder.fallback = none →
      Becomes environment (.placeholder placeholder) []

lemma becomes_iff {environment : Environment} {part : TextPart} {piece : List Char} :
    Becomes environment part piece ↔ piece = value environment part := by
  constructor
  · rintro (_ | hset | ⟨hset, hdefault⟩ | ⟨hset, hdefault⟩) <;> simp [value, *]
  · rintro rfl
    cases part with
    | literal c => exact .literal c
    | placeholder placeholder =>
      rw [value]
      cases hset : environment (String.ofList placeholder.name) with
      | some found => exact .value hset
      | none =>
        cases hdefault : placeholder.fallback with
        | some default => exact .fallback hset hdefault
        | none => exact .nothing hset hdefault

lemma forall₂_becomes {environment : Environment} (parts : List TextPart) :
    List.Forall₂ (Becomes environment) parts (parts.map (value environment)) := by
  induction parts with
  | nil => exact .nil
  | cons part parts ih => exact .cons (becomes_iff.mpr rfl) ih

/-- A text is cut in exactly one way, and interpolation puts the parts together again, in their
order, each literal as it is and each placeholder replaced by what it gives way to.  What a
placeholder gives way to goes into the result as it is. -/
theorem apply_replaces (environment : Environment) (text : String) :
    ∃ parts pieces, Cuts text.toList parts ∧ (∀ others, Cuts text.toList others → others = parts) ∧
      List.Forall₂ (Becomes environment) parts pieces ∧
      (apply environment text).toList = pieces.flatten := by
  refine ⟨split text.toList, (split text.toList).map (value environment), cuts_split _, ?_,
    forall₂_becomes _, ?_⟩
  · intro others hothers
    exact hothers.eq_split
  · rw [apply, String.toList_ofList, List.flatMap_def]

/-- A dollar sign and some text between braces. -/
def Sample.braced (inside : String) : String := "$\x7b" ++ inside ++ "\x7d"

open Sample in
/-- Nested and broken placeholders: reading goes on behind the brace that ends a default, behind a
dollar sign that begins nothing, and never in the value of a variable. -/
example :
    apply (fun name =>
        if name = "A" then some (braced "B") else if name = "E" then some "" else none)
      ("$" ++ braced "A" ++ braced ("A:" ++ braced "B") ++ "$\x7bA " ++ braced "E:x" ++ braced "Y")
      = "$" ++ braced "B" ++ braced "B" ++ "\x7d" ++ "$\x7bA " := by
  cbv

end Interpolation
end BinaryDiff
