import BinaryDiff.Text.Blank
import BinaryDiff.Text.LetterCase
import Mathlib.Data.List.DropRight
import Mathlib.Data.List.Forall2

/-!
# Lower case across the ends of words

The small form of a capital sigma depends on its neighbours, but not on those beyond a blank, a
hyphen or an underscore: a word ends there.  No case mapping touches these characters either, and
none leads to one of them, so it is the same to take the blanks away before the letters change as
after (`strip_lower`).  A text whose lower case is all ASCII is found from it letter by letter
(`lower_eq_iff`): beyond ASCII only the sign of the unit kelvin becomes an ASCII letter.

The classes and mappings are compared as lists of ranges, by the ends of the ranges only.
-/

namespace BinaryDiff

/-! ### Ranges without a common code point -/

namespace CodeRange

/-- The two ranges have no code point in common. -/
def Apart (range other : CodeRange) : Prop := range.last < other.first ∨ other.last < range.first

instance (range other : CodeRange) : Decidable (range.Apart other) :=
  inferInstanceAs (Decidable (_ ∨ _))

/-- No range of the one list has a code point in common with a range of the other. -/
def AllApart (ranges others : List CodeRange) : Prop :=
  ∀ range ∈ ranges, ∀ other ∈ others, range.Apart other

instance (ranges others : List CodeRange) : Decidable (AllApart ranges others) :=
  inferInstanceAs (Decidable (∀ range ∈ ranges, ∀ other ∈ others, range.Apart other))

/-- A class that is written down as a text is read from the characters of the text. -/
lemma list_ofList (text : List Char) :
    CodeRange.list (String.ofList text) = (entries text).filterMap ofEntry := by
  rw [list, String.toList_ofList]

lemma contains_eq_true {range : CodeRange} {code : Nat} :
    range.contains code = true ↔ range.first ≤ code ∧ code ≤ range.last := by
  simp [contains]

end CodeRange

lemma inRanges_eq_false {ranges others : List CodeRange} (h : CodeRange.AllApart ranges others)
    {c : Char} (hc : inRanges others c = true) : inRanges ranges c = false := by
  obtain ⟨other, hother, hin⟩ := List.any_eq_true.mp hc
  refine List.any_eq_false.mpr fun range hrange hcontains => ?_
  rw [CodeRange.contains_eq_true] at hin hcontains
  have hapart : range.Apart other := h range hrange other hother
  unfold CodeRange.Apart at hapart
  omega

namespace CaseRange

/-- The code points that an entry moves lie between these. -/
def sources (range : CaseRange) : CodeRange := ⟨range.first, range.last⟩

/-- The code points to which an entry moves them lie between these. -/
def targets (range : CaseRange) : CodeRange :=
  ⟨(range.first + range.shift).toNat, (range.last + range.shift).toNat⟩

lemma list_ofList (text : List Char) :
    CaseRange.list (String.ofList text) = (CodeRange.entries text).filterMap ofEntry := by
  rw [list, String.toList_ofList]

variable {range : CaseRange} {code : Nat}

lemma sources_contains (h : range.applies code = true) : range.sources.contains code = true := by
  simp only [applies, Bool.and_eq_true, decide_eq_true_eq] at h
  exact CodeRange.contains_eq_true.mpr h.1

lemma targets_contains (h : range.applies code = true) :
    range.targets.contains (code + range.shift).toNat = true := by
  simp only [applies, Bool.and_eq_true, decide_eq_true_eq] at h
  refine CodeRange.contains_eq_true.mpr ⟨?_, ?_⟩
  · exact Int.toNat_le_toNat (by omega)
  · exact Int.toNat_le_toNat (by omega)

end CaseRange

/-! ### Where words end -/

/-- The hyphen, the underscore and the blanks. -/
def wordBreaks : List CodeRange :=
  [⟨0x2D, 0x2D⟩, ⟨0x5F, 0x5F⟩, ⟨0x09, 0x0D⟩, ⟨0x1C, 0x20⟩, ⟨0x85, 0x85⟩, ⟨0xA0, 0xA0⟩,
    ⟨0x1680, 0x1680⟩, ⟨0x2000, 0x200A⟩, ⟨0x2028, 0x2029⟩, ⟨0x202F, 0x202F⟩, ⟨0x205F, 0x205F⟩,
    ⟨0x3000, 0x3000⟩]

/-- The character is a hyphen, an underscore or a blank. -/
def BreaksWord (c : Char) : Prop := inRanges wordBreaks c = true

instance (c : Char) : Decidable (BreaksWord c) := inferInstanceAs (Decidable (_ = true))

lemma breaksWord_of_isBlank {c : Char} (h : isBlank c = true) : BreaksWord c := by
  simp only [isBlank, isUnicodeSpace, Bool.or_eq_true, Bool.and_eq_true, decide_eq_true_eq,
    beq_iff_eq] at h
  simp only [BreaksWord, inRanges, wordBreaks, List.any_cons, List.any_nil, Bool.or_eq_true,
    CodeRange.contains_eq_true, Bool.false_eq_true, or_false]
  omega

/-- The letters of ASCII. -/
def asciiLetters : List CodeRange := [⟨0x41, 0x5A⟩, ⟨0x61, 0x7A⟩]

lemma allApart_overlookedRanges :
    CodeRange.AllApart overlookedRanges (wordBreaks ++ asciiLetters) := by
  rw [overlookedRanges, CodeRange.list_ofList]
  decide +kernel

lemma allApart_casedRanges : CodeRange.AllApart casedRanges wordBreaks := by
  rw [casedRanges, CodeRange.list_ofList]
  decide +kernel

lemma asciiLetters_subset : ∀ range ∈ asciiLetters, range ∈ casedRanges := by
  rw [casedRanges, CodeRange.list_ofList]
  decide +kernel

lemma allApart_lowerRanges : CodeRange.AllApart
    (lowerRanges.flatMap fun range => [range.sources, range.targets]) wordBreaks := by
  rw [lowerRanges, CaseRange.list_ofList]
  decide +kernel

lemma targets_beyond : ∀ range ∈ lowerRanges,
    0x80 ≤ range.targets.first ∨ range = ⟨0x212A, 0x212A, 1, -0x20BF⟩ := by
  rw [lowerRanges, CaseRange.list_ofList]
  decide +kernel

lemma targets_valid : ∀ range ∈ lowerRanges, range.targets.last < 0xD800 ∨
    0xDFFF < range.targets.first ∧ range.targets.last < 0x110000 := by
  rw [lowerRanges, CaseRange.list_ofList]
  decide +kernel

section Classes

variable {c : Char}

lemma inRanges_append (ranges others : List CodeRange) :
    inRanges (ranges ++ others) c = (inRanges ranges c || inRanges others c) :=
  List.any_append

/-- A word is over at the first character that breaks it. -/
lemma BreaksWord.classes (h : BreaksWord c) :
    inRanges overlookedRanges c = false ∧ inRanges casedRanges c = false :=
  ⟨inRanges_eq_false allApart_overlookedRanges (by rw [inRanges_append, h, Bool.true_or]),
    inRanges_eq_false allApart_casedRanges h⟩

lemma classes_of_letter (h : inRanges asciiLetters c = true) :
    inRanges overlookedRanges c = false ∧ inRanges casedRanges c = true := by
  refine ⟨inRanges_eq_false allApart_overlookedRanges ?_, ?_⟩
  · rw [inRanges_append, h, Bool.or_true]
  · obtain ⟨range, hrange, hin⟩ := List.any_eq_true.mp h
    exact List.any_eq_true.mpr ⟨range, asciiLetters_subset range hrange, hin⟩

lemma toNat_lt_of_letter (h : inRanges asciiLetters c = true) : c.toNat < 0x80 := by
  simp only [inRanges, asciiLetters, List.any_cons, List.any_nil, Bool.or_eq_true,
    CodeRange.contains_eq_true, Bool.false_eq_true, or_false] at h
  omega

variable (c) in
/-- Only letters have a small form of their own in ASCII. -/
lemma toLower_eq_or : c.toLower = c ∨ inRanges asciiLetters c = true := by
  by_cases hupper : c.val ≥ 'A'.val ∧ c.val ≤ 'Z'.val
  · obtain ⟨hfirst, hlast⟩ := hupper
    exact .inr (List.any_eq_true.mpr ⟨⟨0x41, 0x5A⟩, List.mem_cons_self,
      CodeRange.contains_eq_true.mpr ⟨UInt32.le_iff_toNat_le.mp hfirst,
        UInt32.le_iff_toNat_le.mp hlast⟩⟩)
  · exact .inl (dif_neg hupper)

end Classes

/-! ### The small form of one character -/

lemma forall_ascii {P : Char → Prop} (h : ∀ code < 0x80, P (Char.ofNat code)) {c : Char}
    (hc : c.toNat < 0x80) : P c := by
  simpa [Char.ofNat_toNat] using h c.toNat hc

lemma toNat_ofNat {code : Nat} (h : code.isValidChar) : (Char.ofNat code).toNat = code := by
  rw [Char.ofNat, dif_pos h]
  rfl

section Character

variable {c d : Char}

variable (c) in
lemma inRanges_toLower : inRanges asciiLetters c.toLower = inRanges asciiLetters c := by
  obtain hsame | hletter := toLower_eq_or c
  · rw [hsame]
  · have hsmall : inRanges asciiLetters c = true → inRanges asciiLetters c.toLower = true :=
      forall_ascii (P := fun c => inRanges asciiLetters c = true →
        inRanges asciiLetters c.toLower = true) (by decide) (toNat_lt_of_letter hletter)
    rw [hsmall hletter, hletter]

lemma lowerChar_of_ascii (h : c.toNat < 0x80) : lowerChar c = [c.toLower] := if_pos h

/-- Beyond ASCII a character stays as it is, or is the one that becomes two, or it is moved by an
entry of the mapping. -/
lemma lowerChar_cases (h : ¬ c.toNat < 0x80) :
    lowerChar c = [c] ∨ (c = '\u0130' ∧ lowerChar c = ['i', '\u0307']) ∨
      ∃ range ∈ lowerRanges, range.sources.contains c.toNat = true ∧
        ∃ d, range.targets.contains d.toNat = true ∧ lowerChar c = [d] := by
  rw [lowerChar, if_neg h, changeCase]
  cases hexpansion : lowerExpansions.find? (·.1 == c.toNat) with
  | some expansion =>
    have hmem := List.mem_of_find?_eq_some hexpansion
    have hcode := List.find?_some hexpansion
    rw [lowerExpansions, List.mem_singleton] at hmem
    subst hmem
    have hc : c = '\u0130' := Char.toNat_inj.mp (beq_iff_eq.mp hcode).symm
    exact .inr (.inl ⟨hc, rfl⟩)
  | none =>
    cases hrange : lowerRanges.find? (·.applies c.toNat) with
    | some range =>
      have hmem : range ∈ lowerRanges := List.mem_of_find?_eq_some hrange
      have happlies := List.find?_some hrange
      have htarget := CaseRange.targets_contains happlies
      -- the target is no surrogate, so it is the code point of the character it gives
      have hvalid : (c.toNat + range.shift).toNat.isValidChar := by
        have hbounds := targets_valid range hmem
        rw [CodeRange.contains_eq_true] at htarget
        unfold Nat.isValidChar
        omega
      rw [← toNat_ofNat hvalid] at htarget
      exact .inr (.inr ⟨range, hmem, CaseRange.sources_contains happlies, _, htarget, rfl⟩)
    | none => exact .inl rfl

/-- No entry moves what breaks a word, or moves something there. -/
lemma BreaksWord.unmoved (h : BreaksWord c) {range : CaseRange} (hrange : range ∈ lowerRanges) :
    ¬ range.sources.contains c.toNat = true ∧ ¬ range.targets.contains c.toNat = true := by
  have hfree := List.any_eq_false.mp (inRanges_eq_false allApart_lowerRanges h)
  exact ⟨hfree _ (List.mem_flatMap.mpr ⟨range, hrange, by simp⟩),
    hfree _ (List.mem_flatMap.mpr ⟨range, hrange, by simp⟩)⟩

lemma lowerChar_ne_nil : lowerChar c ≠ [] := by
  by_cases hascii : c.toNat < 0x80
  · simp [lowerChar_of_ascii hascii]
  · obtain hone | ⟨-, htwo⟩ | ⟨_, -, -, _, -, hmoved⟩ := lowerChar_cases hascii
    · simp [hone]
    · simp [htwo]
    · simp [hmoved]

/-- What breaks a word has no small form but itself. -/
lemma BreaksWord.lowerChar_eq (h : BreaksWord c) : lowerChar c = [c] := by
  by_cases hascii : c.toNat < 0x80
  · have hsame : BreaksWord c → c.toLower = c :=
      forall_ascii (P := fun c => BreaksWord c → c.toLower = c) (by decide) hascii
    rw [lowerChar_of_ascii hascii, hsame h]
  · obtain hself | ⟨rfl, -⟩ | ⟨range, hrange, hsource, -⟩ := lowerChar_cases hascii
    · exact hself
    · exact absurd h (by decide)
    · exact absurd hsource (h.unmoved hrange).1

/-- It is the small form of nothing else. -/
lemma BreaksWord.eq_of_mem_lowerChar (h : BreaksWord d) (hd : d ∈ lowerChar c) : d = c := by
  by_cases hascii : c.toNat < 0x80
  · have hsame : BreaksWord c.toLower → c.toLower = c :=
      forall_ascii (P := fun c => BreaksWord c.toLower → c.toLower = c) (by decide) hascii
    rw [lowerChar_of_ascii hascii, List.mem_singleton] at hd
    rw [hd] at h ⊢
    exact hsame h
  · obtain hself | ⟨-, htwo⟩ | ⟨range, hrange, -, e, htarget, hmoved⟩ := lowerChar_cases hascii
    · rwa [hself, List.mem_singleton] at hd
    · rw [htwo, List.mem_pair] at hd
      obtain rfl | rfl := hd
      · exact absurd h (by decide)
      · exact absurd h (by decide)
    · rw [hmoved, List.mem_singleton] at hd
      rw [← hd] at htarget
      exact absurd htarget (h.unmoved hrange).2

/-- Of the characters beyond ASCII only the sign of the unit kelvin becomes one of ASCII. -/
lemma eq_kelvin (hbeyond : ¬ c.toNat < 0x80) (h : ∀ d ∈ lowerChar c, d.toNat < 0x80) :
    c = '\u212A' := by
  obtain hself | ⟨-, htwo⟩ | ⟨range, hrange, hsource, d, htarget, hmoved⟩ := lowerChar_cases hbeyond
  · exact absurd (h c (by simp [hself])) hbeyond
  · exact absurd (h '\u0307' (by simp [htwo])) (by decide)
  · have hd := h d (by simp [hmoved])
    rw [CodeRange.contains_eq_true] at hsource htarget
    obtain hfirst | rfl := targets_beyond range hrange
    · -- `d` is not below the first target, which is beyond ASCII
      omega
    · have hcode : c.toNat = 0x212A := Nat.le_antisymm hsource.2 hsource.1
      exact Char.toNat_inj.mp hcode

lemma lowerChar_kelvin : lowerChar '\u212A' = ['k'] := by
  have hrange : lowerRanges.find? (·.applies '\u212A'.toNat)
      = some ⟨0x212A, 0x212A, 1, -0x20BF⟩ := by
    rw [lowerRanges, CaseRange.list_ofList]
    decide +kernel
  have hexpansion : lowerExpansions.find? (·.1 == '\u212A'.toNat) = none := by decide
  rw [lowerChar, if_neg (by decide), changeCase, hexpansion, hrange]
  decide

end Character

/-! ### The neighbours of a character -/

/-- What one character of a text becomes, given what stands before it, in reverse, and after it. -/
def lowerAt (before : List Char) (c : Char) (after : List Char) : List Char :=
  if c == 'Σ' && endsWord before after then ['ς'] else lowerChar c

lemma lowerAfter_cons (before : List Char) (c : Char) (rest : List Char) :
    lowerAfter before (c :: rest) = lowerAt before c rest ++ lowerAfter (c :: before) rest := rfl

lemma nextIsCased_cons (c : Char) (rest : List Char) :
    nextIsCased (c :: rest)
      = if inRanges overlookedRanges c then nextIsCased rest else inRanges casedRanges c := by
  cases hoverlooked : inRanges overlookedRanges c with
  | true => rw [if_pos rfl, nextIsCased, List.dropWhile_cons_of_pos hoverlooked, nextIsCased]
  | false =>
    rw [if_neg Bool.false_ne_true, nextIsCased, List.dropWhile_cons_of_neg (by simp [hoverlooked]),
      List.head?_cons, Option.any_some]

lemma nextIsCased_of_breaksWord {breaks : List Char} (h : ∀ c ∈ breaks, BreaksWord c) :
    nextIsCased breaks = false := by
  cases breaks with
  | nil => rfl
  | cons c rest =>
    obtain ⟨hoverlooked, hcased⟩ := (h c List.mem_cons_self).classes
    rw [nextIsCased_cons, hoverlooked, hcased]
    rfl

/-- What breaks a word ends the text as far as neighbours go. -/
lemma nextIsCased_append {breaks : List Char} (h : ∀ c ∈ breaks, BreaksWord c) (text : List Char) :
    nextIsCased (text ++ breaks) = nextIsCased text := by
  induction text with
  | nil => exact nextIsCased_of_breaksWord h
  | cons c rest ih => rw [List.cons_append, nextIsCased_cons, nextIsCased_cons, ih]

lemma endsWord_append {breaks : List Char} (h : ∀ c ∈ breaks, BreaksWord c)
    (before after : List Char) : endsWord (before ++ breaks) after = endsWord before after ∧
      endsWord before (after ++ breaks) = endsWord before after := by
  rw [endsWord, endsWord, endsWord, nextIsCased_append h, nextIsCased_append h]
  exact ⟨rfl, rfl⟩

lemma lowerAt_append {breaks : List Char} (h : ∀ c ∈ breaks, BreaksWord c) (before : List Char)
    (c : Char) (after : List Char) :
    lowerAt (before ++ breaks) c after = lowerAt before c after ∧
      lowerAt before c (after ++ breaks) = lowerAt before c after := by
  obtain ⟨hbefore, hafter⟩ := endsWord_append h before after
  rw [lowerAt, lowerAt, lowerAt, hbefore, hafter]
  exact ⟨rfl, rfl⟩

section Neighbours

variable {before after : List Char} {c d : Char}

lemma lowerAt_ne_nil : lowerAt before c after ≠ [] := by
  rw [lowerAt]
  split
  · exact List.cons_ne_nil _ _
  · exact lowerChar_ne_nil

lemma BreaksWord.lowerAt_eq (h : BreaksWord c) : lowerAt before c after = [c] := by
  have hsigma : c ≠ 'Σ' := by
    rintro rfl
    exact absurd h (by decide)
  rw [lowerAt, beq_eq_false_iff_ne.mpr hsigma, Bool.false_and]
  exact h.lowerChar_eq

lemma BreaksWord.eq_of_mem_lowerAt (h : BreaksWord d) (hd : d ∈ lowerAt before c after) :
    d = c := by
  rw [lowerAt] at hd
  split at hd
  · rw [List.mem_singleton.mp hd] at h
    exact absurd h (by decide)
  · exact h.eq_of_mem_lowerChar hd

lemma isBlank_of_mem_lowerAt (hc : isBlank c = false) (hd : d ∈ lowerAt before c after) :
    isBlank d = false := by
  by_contra hblank
  rw [Bool.not_eq_false] at hblank
  rw [(breaksWord_of_isBlank hblank).eq_of_mem_lowerAt hd, hc] at hblank
  exact Bool.false_ne_true hblank

end Neighbours

/-- What breaks a word stands in the lower case of a text only where it stood before. -/
lemma mem_of_mem_lowerAfter {before text : List Char} {d : Char} (h : BreaksWord d)
    (hd : d ∈ lowerAfter before text) : d ∈ text := by
  induction text generalizing before with
  | nil => exact hd
  | cons c rest ih =>
    rw [lowerAfter_cons, List.mem_append] at hd
    obtain hfirst | hrest := hd
    · exact List.mem_cons.mpr (.inl (h.eq_of_mem_lowerAt hfirst))
    · exact List.mem_cons_of_mem c (ih hrest)

/-! ### Blanks around a text -/

/-- What breaks a word and stands before a text does not change the small forms. -/
lemma lowerAfter_append_breaks {breaks : List Char} (h : ∀ c ∈ breaks, BreaksWord c)
    (before text : List Char) : lowerAfter (before ++ breaks) text = lowerAfter before text := by
  induction text generalizing before with
  | nil => rfl
  | cons c rest ih =>
    rw [lowerAfter_cons, lowerAfter_cons, (lowerAt_append h before c rest).1, ← List.cons_append,
      ih]

/-- What breaks a word and stands after a text stays as it is and changes nothing else. -/
lemma lowerAfter_append {breaks : List Char} (h : ∀ c ∈ breaks, BreaksWord c)
    (before text : List Char) :
    lowerAfter before (text ++ breaks) = lowerAfter before text ++ breaks := by
  induction text generalizing before with
  | nil =>
    -- nothing is left but the breaks, each of which is its own small form
    induction breaks generalizing before with
    | nil => rfl
    | cons c rest ih =>
      obtain ⟨hc, hrest⟩ := List.forall_mem_cons.mp h
      rw [List.nil_append, lowerAfter_cons, hc.lowerAt_eq]
      exact congrArg (c :: ·) (ih hrest (c :: before))
  | cons c rest ih =>
    rw [List.cons_append, lowerAfter_cons, lowerAfter_cons, (lowerAt_append h before c rest).2, ih,
      List.append_assoc]

/-- The small form of the last character stands last. -/
lemma exists_lowerAfter_concat (before text : List Char) (c : Char) :
    ∃ head context, lowerAfter before (text ++ [c]) = head ++ lowerAt context c [] := by
  induction text generalizing before with
  | nil => exact ⟨[], before, by simp [lowerAfter_cons, lowerAfter]⟩
  | cons first rest ih =>
    obtain ⟨head, context, htext⟩ := ih (first :: before)
    exact ⟨lowerAt before first (rest ++ [c]) ++ head, context, by
      rw [List.cons_append, lowerAfter_cons, htext, List.append_assoc]⟩

lemma dropWhile_isBlank_lowerAfter {before : List Char} (h : ∀ c ∈ before, BreaksWord c)
    (text : List Char) :
    (lowerAfter before text).dropWhile isBlank = lower (text.dropWhile isBlank) := by
  induction text generalizing before with
  | nil => rfl
  | cons c rest ih =>
    cases hc : isBlank c with
    | true =>
      have hbreak := breaksWord_of_isBlank hc
      rw [lowerAfter_cons, hbreak.lowerAt_eq, List.singleton_append, List.dropWhile_cons_of_pos hc,
        List.dropWhile_cons_of_pos hc]
      exact ih (List.forall_mem_cons.mpr ⟨hbreak, h⟩)
    | false =>
      -- only breaks stood before, so the context of `c` is as good as empty
      have hlower : lowerAfter before (c :: rest) = lower (c :: rest) :=
        lowerAfter_append_breaks h [] (c :: rest)
      obtain ⟨first, others, hfirst⟩ : ∃ first others, lowerAt [] c rest = first :: others :=
        List.exists_cons_of_ne_nil lowerAt_ne_nil
      have hmem : first ∈ lowerAt [] c rest := by simp [hfirst]
      have hkept : isBlank first = false := isBlank_of_mem_lowerAt hc hmem
      rw [hlower, List.dropWhile_cons_of_neg (by simp [hc]), lower, lowerAfter_cons, hfirst,
        List.cons_append, List.dropWhile_cons_of_neg (by simp [hkept])]

lemma trimEnd_lowerAfter (before text : List Char) :
    trimEnd isBlank (lowerAfter before text) = lowerAfter before (trimEnd isBlank text) := by
  -- from the end, where the blanks are taken away
  change List.rdropWhile isBlank _ = lowerAfter before (List.rdropWhile isBlank text)
  induction text using List.reverseRecOn with
  | nil => rfl
  | append_singleton text c ih =>
    cases hc : isBlank c with
    | true =>
      have hbreak : ∀ d ∈ [c], BreaksWord d :=
        List.forall_mem_singleton.mpr (breaksWord_of_isBlank hc)
      rw [lowerAfter_append hbreak, List.rdropWhile_concat_pos _ _ _ hc,
        List.rdropWhile_concat_pos _ _ _ hc, ih]
    | false =>
      obtain ⟨head, context, htext⟩ := exists_lowerAfter_concat before text c
      obtain ⟨others, last, hlast⟩ := (List.eq_nil_or_concat (lowerAt context c [])).resolve_left
        lowerAt_ne_nil
      have hmem : last ∈ lowerAt context c [] := by simp [hlast]
      have hkept : isBlank last = false := isBlank_of_mem_lowerAt hc hmem
      rw [List.rdropWhile_concat_neg _ _ _ (by simp [hc]), htext, hlast, List.concat_eq_append,
        ← List.append_assoc, List.rdropWhile_concat_neg _ _ _ (by simp [hkept])]

lemma trimEnd_append {blanks : List Char} (h : ∀ c ∈ blanks, isBlank c = true) (text : List Char) :
    trimEnd isBlank (text ++ blanks) = trimEnd isBlank text := by
  have hreverse : ∀ c ∈ blanks.reverse, isBlank c = true := fun c hc => h c (List.mem_reverse.mp hc)
  rw [trimEnd, List.reverse_append, List.dropWhile_append_of_pos hreverse, trimEnd]

/-- Blanks around a text are taken away with those of the text. -/
lemma strip_append {before after : List Char} (hbefore : ∀ c ∈ before, isBlank c = true)
    (hafter : ∀ c ∈ after, isBlank c = true) (text : List Char) :
    strip (before ++ text ++ after) = strip text := by
  rw [strip, trimBy, List.append_assoc, List.dropWhile_append_of_pos hbefore, List.dropWhile_append,
    strip, trimBy]
  split
  · rename_i hempty
    rw [List.isEmpty_iff.mp hempty, List.dropWhile_eq_nil_iff.mpr hafter]
  · exact trimEnd_append hafter _

/-- Taking the blanks away and changing the letters can be done in either order. -/
theorem strip_lower (text : List Char) : strip (lower text) = lower (strip text) := by
  have hnone : ∀ c ∈ ([] : List Char), BreaksWord c := List.forall_mem_nil _
  rw [strip, trimBy, lower, dropWhile_isBlank_lowerAfter hnone, lower, trimEnd_lowerAfter]
  rfl

/-! ### Texts whose lower case is ASCII -/

/-- The small form of a character is this character of ASCII. -/
def HasSmallForm (c d : Char) : Prop := c.toLower = d ∨ c = '\u212A' ∧ d = 'k'

instance (c d : Char) : Decidable (HasSmallForm c d) := inferInstanceAs (Decidable (_ ∨ _))

lemma HasSmallForm.lowerAt_eq {c d : Char} (h : HasSmallForm c d) (hd : d.toNat < 0x80)
    (before after : List Char) : lowerAt before c after = [d] := by
  have hsigma : ¬ c = 'Σ' := by
    rintro rfl
    obtain rfl | ⟨heq, -⟩ := h
    · exact absurd hd (by decide)
    · exact absurd heq (by decide)
  rw [lowerAt, beq_eq_false_iff_ne.mpr hsigma, Bool.false_and, if_neg Bool.false_ne_true]
  obtain rfl | ⟨rfl, rfl⟩ := h
  · have hascii : c.toNat < 0x80 := by
      by_contra hbeyond
      obtain hsame | hletter := toLower_eq_or c
      · exact hbeyond (hsame ▸ hd)
      · exact hbeyond (toNat_lt_of_letter hletter)
    exact lowerChar_of_ascii hascii
  · exact lowerChar_kelvin

lemma exists_hasSmallForm {before after : List Char} {c : Char}
    (h : ∀ d ∈ lowerAt before c after, d.toNat < 0x80) :
    ∃ d, lowerAt before c after = [d] ∧ HasSmallForm c d := by
  rw [lowerAt] at h ⊢
  split at h
  · exact absurd (h 'ς' List.mem_cons_self) (by decide)
  · rw [if_neg ‹_›]
    by_cases hascii : c.toNat < 0x80
    · exact ⟨c.toLower, lowerChar_of_ascii hascii, .inl rfl⟩
    · rw [eq_kelvin hascii h]
      exact ⟨'k', lowerChar_kelvin, .inr ⟨rfl, rfl⟩⟩

lemma lowerAfter_eq_iff {text word : List Char} (h : ∀ d ∈ word, d.toNat < 0x80)
    (before : List Char) : lowerAfter before text = word ↔ List.Forall₂ HasSmallForm text word := by
  induction text generalizing before word with
  | nil => exact eq_comm.trans List.forall₂_nil_left_iff.symm
  | cons c rest ih =>
    rw [lowerAfter_cons]
    constructor
    · rintro rfl
      obtain ⟨hat, hrest⟩ := List.forall_mem_append.mp h
      obtain ⟨d, hsmall, hform⟩ := exists_hasSmallForm hat
      rw [hsmall]
      exact .cons hform ((ih hrest _).mp rfl)
    · rintro (_ | ⟨hform, hforms⟩)
      obtain ⟨hd, hrest⟩ := List.forall_mem_cons.mp h
      rw [hform.lowerAt_eq hd, (ih hrest _).mpr hforms, List.singleton_append]

/-- The texts whose lower case is a given word of ASCII: they spell it letter by letter. -/
theorem lower_eq_iff {text word : List Char} (h : ∀ d ∈ word, d.toNat < 0x80) :
    lower text = word ↔ List.Forall₂ HasSmallForm text word :=
  lowerAfter_eq_iff h []

end BinaryDiff
