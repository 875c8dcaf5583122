import BinaryDiff.Display.Wrap
import Mathlib.Data.List.Basic
import Mathlib.Data.List.TakeWhile
import Mathlib.Tactic.Common

/-!
# Texts cut into pieces

A text without styles is cut at the places where the pieces of it begin (`cutAt_bounds`), so
cutting is described by the pieces: paragraphs end at line feeds, the parts of a line at tabs, and
words with the blanks around them.  Nothing is lost by a cut.
-/

namespace BinaryDiff

namespace StyledText

/-- A text without styles. -/
def unstyled (chars : List Char) : StyledText := ⟨chars, []⟩

@[simp] lemma chars_unstyled (chars : List Char) : (unstyled chars).chars = chars := rfl

lemma part_unstyled (start stop : Nat) (chars : List Char) :
    (unstyled chars).part start stop = unstyled ((chars.drop start).take (stop - start)) := rfl

/-- The places at which pieces begin, the first of them at a given place. -/
def bounds (place : Nat) : List (List Char) → List Nat
  | [] => []
  | piece :: pieces => place :: bounds (place + piece.length) pieces

lemma partsFrom_bounds (before first : List Char) (others : List (List Char)) :
    partsFrom before.length (unstyled (before ++ (first ++ others.flatten)))
        (bounds (before.length + first.length) others)
      = (first :: others).map unstyled := by
  induction others generalizing before first with
  | nil =>
    rw [bounds, partsFrom, part_unstyled]
    simp
  | cons second others ih =>
    have hrest := ih (before ++ first) second
    rw [List.length_append, List.append_assoc] at hrest
    rw [bounds, partsFrom, List.flatten_cons, hrest, part_unstyled]
    simp

/-- A text is cut into pieces at the places where these begin. -/
theorem cutAt_bounds (first : List Char) (others : List (List Char)) :
    (unstyled (first ++ others.flatten)).cutAt (bounds first.length others)
      = (first :: others).map unstyled := by
  rw [cutAt]
  cases others with
  | nil => simp [bounds]
  | cons second others => simpa [bounds] using partsFrom_bounds [] first (second :: others)

end StyledText

open StyledText

namespace Wrap

/-! ### Pieces that end with a character of a class -/

/-- A text cut after the characters of a class. -/
def splitAfter (isBreak : Char → Bool) : List Char → List (List Char)
  | [] => [[]]
  | c :: rest =>
    if isBreak c then [c] :: splitAfter isBreak rest else extendFirst c (splitAfter isBreak rest)

variable {isBreak : Char → Bool}

lemma extendFirst_cons (c : Char) (piece : List Char) (pieces : List (List Char)) :
    extendFirst c (piece :: pieces) = (c :: piece) :: pieces := rfl

lemma exists_splitAfter (isBreak : Char → Bool) (text : List Char) :
    ∃ first others, splitAfter isBreak text = first :: others := by
  induction text with
  | nil => exact ⟨[], [], rfl⟩
  | cons c rest ih =>
    obtain ⟨first, others, hrest⟩ := ih
    rw [splitAfter, hrest]
    split
    · exact ⟨_, _, rfl⟩
    · exact ⟨_, _, rfl⟩

lemma flatten_splitAfter (isBreak : Char → Bool) (text : List Char) :
    (splitAfter isBreak text).flatten = text := by
  induction text with
  | nil => rfl
  | cons c rest ih =>
    obtain ⟨first, others, hrest⟩ := exists_splitAfter isBreak rest
    rw [hrest] at ih
    rw [splitAfter, hrest]
    split
    · rw [List.flatten_cons, ih, List.singleton_append]
    · rw [extendFirst_cons, List.flatten_cons, List.cons_append, ← List.flatten_cons, ih]

lemma placesAfter_eq_bounds {text first : List Char} {others : List (List Char)}
    (h : splitAfter isBreak text = first :: others) (place : Nat) :
    placesAfter isBreak place text = bounds (place + first.length) others := by
  induction text generalizing place first others with
  | nil =>
    cases h
    rfl
  | cons c rest ih =>
    obtain ⟨piece, pieces, hrest⟩ := exists_splitAfter isBreak rest
    rw [splitAfter, hrest] at h
    rw [placesAfter]
    split at h
    · cases h
      rw [if_pos ‹_›, ih hrest, bounds, List.length_singleton]
    · rw [extendFirst_cons] at h
      cases h
      rw [if_neg ‹_›, ih hrest, List.length_cons, Nat.add_assoc, Nat.add_comm 1]

lemma placesAfter_eq_nil_iff {text : List Char} (place : Nat) :
    placesAfter isBreak place text = [] ↔ ∀ c ∈ text, isBreak c = false := by
  induction text generalizing place with
  | nil => simp [placesAfter]
  | cons c rest ih =>
    rw [placesAfter, List.forall_mem_cons]
    split
    · simp [‹isBreak c = true›]
    · simp [ih, ‹¬ isBreak c = true›]

/-- Cutting a text after characters of a class, which happens only if there are any. -/
lemma cutAt_placesAfter (isBreak : Char → Bool) (text : List Char) :
    (unstyled text).cutAt (placesAfter isBreak 0 text)
      = (splitAfter isBreak text).map unstyled := by
  obtain ⟨first, others, hsplit⟩ := exists_splitAfter isBreak text
  have htext := flatten_splitAfter isBreak text
  rw [hsplit, List.flatten_cons] at htext
  rw [placesAfter_eq_bounds hsplit, hsplit, Nat.zero_add, ← cutAt_bounds, htext]

lemma splitAfter_of_free {text : List Char} (h : ∀ c ∈ text, isBreak c = false) :
    splitAfter isBreak text = [text] := by
  obtain ⟨first, others, hsplit⟩ := exists_splitAfter isBreak text
  have htext := flatten_splitAfter isBreak text
  have hplaces := placesAfter_eq_bounds hsplit 0
  rw [(placesAfter_eq_nil_iff 0).mpr h] at hplaces
  cases others with
  | nil => simpa [hsplit] using htext
  | cons second others => simp [bounds] at hplaces

/-- Between line feeds there are the pieces that end with them, without these. -/
lemma map_splitAfter_eq_piecesBy (text : List Char) :
    (splitAfter (· == '\n') text).map (fun piece =>
        if piece.getLast? == some '\n' then piece.dropLast else piece)
      = piecesBy (· == '\n') text := by
  induction text with
  | nil => rfl
  | cons c rest ih =>
    obtain ⟨first, others, hrest⟩ := exists_splitAfter (· == '\n') rest
    rw [hrest, List.map_cons] at ih
    rw [splitAfter, hrest, piecesBy, ← ih]
    split
    · rename_i hbreak
      rw [beq_iff_eq] at hbreak
      simp [hbreak]
    · rename_i hbreak
      rw [beq_iff_eq] at hbreak
      cases first with
      | nil => simp [extendFirst_cons, hbreak]
      | cons d first =>
        rw [extendFirst_cons, List.map_cons, List.getLast?_cons_cons, List.dropLast_cons_cons]
        split <;> rfl

lemma exists_piecesBy (isBreak : Char → Bool) (text : List Char) :
    ∃ first others, piecesBy isBreak text = first :: others := by
  induction text with
  | nil => exact ⟨[], [], rfl⟩
  | cons c rest ih =>
    obtain ⟨first, others, hrest⟩ := ih
    rw [piecesBy, hrest]
    split
    · exact ⟨_, _, rfl⟩
    · exact ⟨_, _, rfl⟩

lemma piecesBy_append_of_free {text : List Char} (h : ∀ c ∈ text, isBreak c = false)
    (rest : List Char) :
    piecesBy isBreak (text ++ rest) = extendHead text (piecesBy isBreak rest) := by
  obtain ⟨first, others, hrest⟩ := exists_piecesBy isBreak rest
  rw [hrest]
  induction text with
  | nil => exact hrest
  | cons c text ih =>
    obtain ⟨hc, hfree⟩ := List.forall_mem_cons.mp h
    rw [List.cons_append, piecesBy, if_neg (by simp [hc]), ih hfree, extendHead, extendFirst_cons,
      extendHead, List.cons_append]

lemma piecesBy_of_free {text : List Char} (h : ∀ c ∈ text, isBreak c = false) :
    piecesBy isBreak text = [text] := by
  simpa [piecesBy, extendHead] using piecesBy_append_of_free h []

lemma paragraphs_unstyled (text : List Char) :
    paragraphs (unstyled text) = (piecesBy (· == '\n') text).map unstyled := by
  have hpart : ∀ piece : List Char, (if (unstyled piece).chars.getLast? == some '\n' then
      (unstyled piece).part 0 ((unstyled piece).chars.length - 1) else unstyled piece)
      = unstyled (if piece.getLast? == some '\n' then piece.dropLast else piece) := by
    intro piece
    rw [chars_unstyled, part_unstyled]
    split
    · rw [List.drop_zero, Nat.sub_zero, List.dropLast_eq_take]
    · rfl
  have hmap : ((splitAfter (· == '\n') text).map unstyled).map (fun line =>
      if line.chars.getLast? == some '\n' then line.part 0 (line.chars.length - 1) else line)
      = (piecesBy (· == '\n') text).map unstyled := by
    rw [← map_splitAfter_eq_piecesBy, List.map_map, List.map_map]
    exact List.map_congr_left fun piece _ => hpart piece
  rw [paragraphs]
  split
  · rename_i hnone
    rw [chars_unstyled] at hnone
    have hfree := (placesAfter_eq_nil_iff 0).mp hnone
    have hlast : (text.getLast? == some '\n') = false := by
      rw [beq_eq_false_iff_ne]
      intro hlast
      exact absurd (hfree '\n' (List.mem_of_getLast? hlast)) (by simp)
    rw [← map_splitAfter_eq_piecesBy, splitAfter_of_free hfree]
    simp only [List.map_cons, List.map_nil, hlast, Bool.false_eq_true, if_false]
  · rw [chars_unstyled, cutAt_placesAfter, hmap]

/-! ### Tabs -/

/-- Whether a line is another with spaces in the place of its tabs. -/
inductive Expands : List Char → List Char → Prop
  | nil : Expands [] []
  | char {c : Char} {rest shown : List Char} : c ≠ '\t' → Expands rest shown →
      Expands (c :: rest) (c :: shown)
  | tab (more : Nat) {rest shown : List Char} : Expands rest shown →
      Expands ('\t' :: rest) (List.replicate (more + 1) ' ' ++ shown)

namespace Expands

lemma append {line shown other further : List Char} (h : Expands line shown)
    (hother : Expands other further) : Expands (line ++ other) (shown ++ further) := by
  induction h with
  | nil => exact hother
  | char hc _ ih => exact .char hc ih
  | tab more _ ih =>
    rw [List.cons_append, List.append_assoc]
    exact .tab more ih

end Expands

lemma expandTabs_of_free {line : List Char} (h : '\t' ∉ line) :
    expandTabs (unstyled line) = unstyled line := by
  have hnone : placesAfter (· == '\t') 0 line = [] := by
    rw [placesAfter_eq_nil_iff]
    intro c hc
    rw [beq_eq_false_iff_ne]
    rintro rfl
    exact h hc
  rw [expandTabs, chars_unstyled, hnone]

/-- A text of blanks. -/
def IsBlankText (text : List Char) : Prop := ∀ c ∈ text, isBlank c = true

lemma trimBlanks_append_of_blank (text : List Char) {tail : List Char} (h : IsBlankText tail) :
    trimBlanks (text ++ tail) = trimBlanks text := by
  have htail : ∀ c ∈ tail.reverse, isBlank c = true := by simpa [IsBlankText] using h
  rw [trimBlanks, trimEnd, List.reverse_append, List.dropWhile_append_of_pos htail, trimBlanks,
    trimEnd]

/-- A text is what is left of it without the blanks at its end, and these. -/
lemma exists_trimBlanks (text : List Char) :
    ∃ tail, text = trimBlanks text ++ tail ∧ IsBlankText tail := by
  refine ⟨(text.reverse.takeWhile isBlank).reverse, ?_, ?_⟩
  · rw [trimBlanks, trimEnd, ← List.reverse_append, List.takeWhile_append_dropWhile,
      List.reverse_reverse]
  · intro c hc
    exact List.mem_takeWhile_imp (List.mem_reverse.mp hc)

lemma trimBlanks_eq_nil_iff {text : List Char} : trimBlanks text = [] ↔ IsBlankText text := by
  rw [trimBlanks, trimEnd, List.reverse_eq_nil_iff, List.dropWhile_eq_nil_iff]
  simp [IsBlankText]

lemma trimBlanks_trimBlanks (text : List Char) :
    trimBlanks (trimBlanks text) = trimBlanks text := by
  obtain ⟨tail, htext, htail⟩ := exists_trimBlanks text
  conv_rhs => rw [htext, trimBlanks_append_of_blank _ htail]

/-- A word has something else than blanks, and is taken off the line. -/
lemma word?_eq_some {line word rest : List Char} (h : word? line = some (word, rest)) :
    line = word ++ rest ∧ trimBlanks word ≠ [] ∧ rest.length < line.length := by
  rw [word?] at h
  generalize hafter : line.dropWhile isBlank = after at h
  have hline : line = line.takeWhile isBlank ++ after := by
    rw [← hafter, List.takeWhile_append_dropWhile]
  generalize hbody : after.takeWhile (fun c => !isBlank c) = body at h
  generalize hbehind : after.dropWhile (fun c => !isBlank c) = behind at h
  have hsplit : after = body ++ behind := by
    rw [← hbody, ← hbehind, List.takeWhile_append_dropWhile]
  cases body with
  | nil => cases h
  | cons c body =>
    have hc : isBlank c = false := by
      have hmem : c ∈ after.takeWhile fun d => !isBlank d := hbody ▸ List.mem_cons_self
      simpa using List.mem_takeWhile_imp hmem
    simp only [List.isEmpty_cons, Bool.false_eq_true, if_false, Option.some.injEq,
      Prod.mk.injEq] at h
    obtain ⟨rfl, rfl⟩ := h
    have hwhole : line = line.takeWhile isBlank ++ (c :: body) ++ behind.takeWhile isBlank
        ++ behind.dropWhile isBlank := by
      rw [List.append_assoc, List.takeWhile_append_dropWhile, List.append_assoc, ← hsplit, ← hline]
    refine ⟨hwhole, ?_, ?_⟩
    · intro hblank
      have hall := trimBlanks_eq_nil_iff.mp hblank c (by simp)
      rw [hc] at hall
      cases hall
    · have hlength := congrArg List.length hwhole
      simp only [List.length_append, List.length_cons] at hlength ⊢
      omega

/-- A word ends in front of blanks, or with the line; the blanks go with it. -/
lemma word?_cut {line word rest : List Char} (h : word? line = some (word, rest)) :
    ∃ front back, word = front ++ back ∧ IsBlankText back ∧ line = front ++ (back ++ rest) ∧
      ∀ c ∈ (back ++ rest).head?, isBlank c = true := by
  rw [word?] at h
  generalize hbehind : (line.dropWhile isBlank).dropWhile (fun c => !isBlank c) = behind at h
  split at h
  · cases h
  · obtain ⟨rfl, rfl⟩ := Prod.mk.inj (Option.some.inj h)
    refine ⟨_, _, rfl, fun c hc => List.mem_takeWhile_imp hc, ?_, ?_⟩
    · rw [List.takeWhile_append_dropWhile, ← hbehind, List.append_assoc,
        List.takeWhile_append_dropWhile, List.takeWhile_append_dropWhile]
    · intro c hc
      have hnot := List.head?_dropWhile_not (fun c => !isBlank c) (line.dropWhile isBlank)
      rw [List.takeWhile_append_dropWhile, Option.mem_def] at hc
      rw [hbehind, hc] at hnot
      simpa using hnot

lemma word?_eq_none {line : List Char} (h : word? line = none) : IsBlankText line := by
  rw [word?] at h
  split at h
  · rename_i hempty
    rw [List.isEmpty_iff, List.takeWhile_eq_nil_iff] at hempty
    rw [IsBlankText, ← List.dropWhile_eq_nil_iff]
    by_contra hne
    have hlength : 0 < (line.dropWhile isBlank).length := List.length_pos_iff.mpr hne
    have hhead := List.dropWhile_get_zero_not isBlank line hlength
    have hblank := hempty hlength
    simp_all
  · cases h

/-- A line is its words and perhaps some blanks; a word has something else than blanks. -/
theorem words_flatten {fuel : Nat} {line : List Char} (h : line.length < fuel) :
    (∃ tail, line = (words fuel line).flatten ++ tail ∧ IsBlankText tail) ∧
      ∀ word ∈ words fuel line, trimBlanks word ≠ [] := by
  induction fuel generalizing line with
  | zero => exact absurd h (Nat.not_lt_zero _)
  | succ fuel ih =>
    rw [words]
    split
    · rename_i word rest hword
      obtain ⟨rfl, hne, hlength⟩ := word?_eq_some hword
      have hshorter : rest.length < fuel := by omega
      obtain ⟨⟨tail, hrest, htail⟩, hwords⟩ := ih hshorter
      refine ⟨⟨tail, ?_, htail⟩, List.forall_mem_cons.mpr ⟨hne, hwords⟩⟩
      rw [List.flatten_cons, List.append_assoc, ← hrest]
    · exact ⟨⟨line, rfl, word?_eq_none ‹_›⟩, by simp⟩

end Wrap
end BinaryDiff
