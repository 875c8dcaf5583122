import BinaryDiff.Display.Rendering
import BinaryDiff.Display.Wrap
import Mathlib.Tactic.Common

/-!
# The styles of texts

Laying out a text cuts, moves and drops the stretches of its styles but adds none to them.  So what
holds of every style in a text holds of every style on its lines (`Wrap.everyStyle_broken`), and the
fault that keeps lines from being rendered is that of a style in their text.
-/

namespace BinaryDiff

/-- What can be wrong with a text that is taken for markup: it has a mistake, or else the colours of
a style in it cannot be computed. -/
inductive Markup.Faulty (console : Console) (text : String) : MarkupError → Prop
  | mistake {error : MarkupError} :
      Markup.shown console text = .error error → Markup.Faulty console text error
  | colour {shown : StyledText} {stretch : Stretch} {fault : ColourFault} :
      Markup.shown console text = .ok shown → stretch ∈ shown.stretches →
      Style.fault? stretch.style = some fault → Markup.Faulty console text (.badColour fault)

namespace StyledText

/-- Whether all styles in a text have a property. -/
def EveryStyle (P : List Char → Prop) (text : StyledText) : Prop :=
  ∀ stretch ∈ text.stretches, P stretch.style

/-- A style whose colours can be computed. -/
def Computable (style : List Char) : Prop := Style.fault? style = none

/-! ### Rendering lines -/

/-- Lines can be rendered exactly if all styles on them can be computed. -/
lemma checkStyles_eq_ok_iff {lines : List StyledText} :
    checkStyles lines = .ok () ↔ ∀ line ∈ lines, line.EveryStyle Computable := by
  have hnone : (lines.flatMap stretches).findSome? Stretch.fault? = none ↔
      ∀ line ∈ lines, line.EveryStyle Computable := by
    rw [List.findSome?_eq_none_iff]
    simp only [List.forall_mem_flatMap]
    rfl
  rw [← hnone, checkStyles]
  cases (lines.flatMap stretches).findSome? Stretch.fault? <;> simp

/-- What keeps lines from being rendered is a fault in a style on one of them. -/
lemma exists_fault_of_checkStyles {lines : List StyledText} {error : MarkupError}
    (h : checkStyles lines = .error error) :
    ∃ line ∈ lines, ∃ stretch ∈ line.stretches, ∃ fault,
      Style.fault? stretch.style = some fault ∧ error = .badColour fault := by
  rw [checkStyles] at h
  split at h
  · rename_i fault hfault
    cases h
    obtain ⟨stretch, hstretch, hsome⟩ := List.exists_of_findSome?_eq_some hfault
    obtain ⟨line, hline, hmem⟩ := List.mem_flatMap.mp hstretch
    exact ⟨line, hline, stretch, hmem, fault, hsome, rfl⟩
  · cases h

/-! ### Parts and changes of a text -/

namespace EveryStyle

variable {P : List Char → Prop} {text other : StyledText}

lemma nil (chars : List Char) : EveryStyle P ⟨chars, []⟩ := by
  rintro _ ⟨⟩

/-- Stretches that are moved or cut keep their styles. -/
lemma map (h : text.EveryStyle P) {chars : List Char} {f : Stretch → Stretch}
    (hf : ∀ stretch, (f stretch).style = stretch.style) :
    EveryStyle P ⟨chars, text.stretches.map f⟩ := by
  intro stretch hstretch
  obtain ⟨former, hformer, rfl⟩ := List.mem_map.mp hstretch
  rw [hf]
  exact h former hformer

lemma part (h : text.EveryStyle P) (start stop : Nat) : (text.part start stop).EveryStyle P := by
  intro stretch hstretch
  obtain ⟨former, hformer, hcut⟩ := List.mem_filterMap.mp hstretch
  simp only at hcut
  split at hcut
  · cases hcut
    exact h former hformer
  · cases hcut

lemma partsFrom (h : text.EveryStyle P) (start : Nat) (places : List Nat) :
    ∀ part ∈ text.partsFrom start places, part.EveryStyle P := by
  induction places generalizing start with
  | nil => exact List.forall_mem_singleton.mpr (h.part _ _)
  | cons place places ih => exact List.forall_mem_cons.mpr ⟨h.part _ _, ih place⟩

lemma cutAt (h : text.EveryStyle P) (places : List Nat) :
    ∀ part ∈ text.cutAt places, part.EveryStyle P := by
  rw [StyledText.cutAt]
  split
  · exact List.forall_mem_singleton.mpr h
  · exact h.partsFrom 0 places

lemma take (h : text.EveryStyle P) (length : Nat) : (text.take length).EveryStyle P := by
  have hkept : EveryStyle P ⟨text.chars, text.stretches.filter (·.start < length)⟩ :=
    fun stretch hstretch => h stretch (List.mem_filter.mp hstretch).1
  exact hkept.map fun _ => rfl

lemma withChars (h : text.EveryStyle P) (chars : List Char) :
    (text.withChars chars).EveryStyle P := by
  rw [StyledText.withChars]
  split
  · exact h.take chars.length
  · exact h

lemma pad (h : text.EveryStyle P) (count : Nat) : (text.pad count).EveryStyle P := h

lemma indent (h : text.EveryStyle P) (count : Nat) : (text.indent count).EveryStyle P :=
  h.map fun _ => rfl

lemma extend (h : text.EveryStyle P) (count : Nat) : (text.extend count).EveryStyle P :=
  h.map fun stretch => by split <;> rfl

lemma append (h : text.EveryStyle P) (hother : other.EveryStyle P) :
    (text.append other).EveryStyle P := by
  have hmoved : EveryStyle P ⟨other.chars, other.stretches.map fun stretch =>
      ⟨text.chars.length + stretch.start, text.chars.length + stretch.stop, stretch.style⟩⟩ :=
    hother.map fun _ => rfl
  exact List.forall_mem_append.mpr ⟨h, hmoved⟩

lemma join {texts : List StyledText} (h : ∀ text ∈ texts, text.EveryStyle P) :
    (StyledText.join texts).EveryStyle P := by
  have hgo : ∀ start : StyledText, start.EveryStyle P →
      (texts.foldl StyledText.append start).EveryStyle P := by
    induction texts with
    | nil => exact fun _ hstart => hstart
    | cons text texts ih =>
      obtain ⟨htext, htexts⟩ := List.forall_mem_cons.mp h
      exact fun start hstart => ih htexts _ (hstart.append htext)
  exact hgo _ (nil [])

end EveryStyle
end StyledText

/-! ### Lines -/

namespace Wrap

open StyledText

variable {P : List Char → Prop} {text line : StyledText}

lemma everyStyle_fillTabs {parts : List StyledText} (h : ∀ part ∈ parts, part.EveryStyle P)
    (column : Nat) : ∀ part ∈ fillTabs column parts, part.EveryStyle P := by
  induction parts generalizing column with
  | nil => exact h
  | cons part parts ih =>
    obtain ⟨hpart, hparts⟩ := List.forall_mem_cons.mp h
    rw [fillTabs]
    split
    · refine List.forall_mem_cons.mpr ⟨EveryStyle.extend ?_ _, ih hparts _⟩
      exact hpart
    · exact List.forall_mem_cons.mpr ⟨hpart, ih hparts _⟩

lemma everyStyle_expandTabs (h : line.EveryStyle P) : (expandTabs line).EveryStyle P := by
  rw [expandTabs]
  split
  · exact h
  · exact EveryStyle.join (everyStyle_fillTabs (h.cutAt _) 0)

lemma everyStyle_paragraphs (h : text.EveryStyle P) :
    ∀ line ∈ paragraphs text, line.EveryStyle P := by
  rw [paragraphs]
  split
  · exact List.forall_mem_singleton.mpr h
  · rw [List.forall_mem_map]
    intro line hline
    have hpart := h.cutAt _ line hline
    split
    · exact hpart.part _ _
    · exact hpart

lemma everyStyle_dropExcess (h : line.EveryStyle P) (width : Nat) :
    (dropExcess width line).EveryStyle P := by
  simp only [dropExcess]
  split
  · exact h
  · exact h.take _

/-- The lines of a text have no styles that it has not. -/
theorem everyStyle_broken (h : text.EveryStyle P) (width : Nat) :
    ∀ line ∈ broken width text, line.EveryStyle P := by
  rw [broken]
  split
  · simp
  · rw [List.forall_mem_flatMap]
    intro paragraph hparagraph
    rw [List.forall_mem_map]
    intro line hline
    exact everyStyle_dropExcess ((everyStyle_expandTabs
      (everyStyle_paragraphs h paragraph hparagraph)).cutAt _ line hline) width

lemma everyStyle_cut (h : line.EveryStyle P) (width : Nat) : (cut width line).EveryStyle P :=
  h.withChars _

lemma everyStyle_fitted (h : line.EveryStyle P) (width : Nat) :
    (fitted width line).EveryStyle P := by
  rw [fitted]
  split
  · exact everyStyle_cut h width
  · exact h.pad _

lemma everyStyle_center (h : line.EveryStyle P) (width : Nat) :
    (center width line).EveryStyle P :=
  everyStyle_cut (((h.withChars _).indent _).pad _) width

end Wrap
end BinaryDiff
