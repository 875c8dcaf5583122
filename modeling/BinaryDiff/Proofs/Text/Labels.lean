import BinaryDiff.Failure
import BinaryDiff.Proofs.Store.Resolution
import BinaryDiff.Proofs.Text.LetterCase

/-!
# The grammar of granularity labels

A label stands for a granularity exactly if it spells it, after the blanks around it are taken away
and its letters made small (`ofLabel?_eq_some_iff`).  Hyphens for underscores are a third step, and
the three can be taken in any order (`strip_lower`, `lower_map_hyphen`, `strip_map_hyphen`).
-/

namespace BinaryDiff
namespace Granularity

/-- The small spellings of a granularity.  The two words of the basic block may be joined by a
hyphen or an underscore. -/
inductive Spelt : Granularity → List Char → Prop
  | function : Spelt .function "function".toList
  | basicBlock {joint : List Char} (h : joint ∈ [[], ['-'], ['_']]) :
      Spelt .basicBlock ("basic".toList ++ joint ++ "block".toList)
  | instruction : Spelt .instruction "instruction".toList

/-- A hyphen in place of an underscore. -/
def hyphen (c : Char) : Char := if c == '_' then '-' else c

/-- The characters of a label in the form in which labels are compared. -/
def normalForm (text : List Char) : List Char := (lower (strip text)).map hyphen

lemma normalize_eq (label : String) :
    normalize label = String.ofList (normalForm label.toList) := rfl

/-! ### Hyphens -/

section Hyphens

variable {text word : List Char} {c : Char}

lemma hyphen_of_ne (h : c ≠ '_') : hyphen c = c := if_neg (by simpa using h)

lemma hyphen_ne (c : Char) : hyphen c ≠ '_' := by
  by_cases h : c = '_'
  · rw [h]
    decide
  · rwa [hyphen_of_ne h]

lemma hyphen_eq_hyphen : hyphen c = '-' ↔ c = '-' ∨ c = '_' := by
  by_cases h : c = '_'
  · simp [h, hyphen]
  · simp [h, hyphen_of_ne h]

lemma map_hyphen_eq_self (h : '_' ∉ text) : text.map hyphen = text :=
  (List.map_congr_left fun _ hc => hyphen_of_ne (ne_of_mem_of_not_mem hc h)).trans
    (List.map_id text)

lemma not_mem_map_hyphen : '_' ∉ text.map hyphen := by
  intro hmem
  obtain ⟨c, -, hc⟩ := List.mem_map.mp hmem
  exact hyphen_ne c hc

/-- A word without these marks is found under no other spelling. -/
lemma map_hyphen_eq_iff (h : '-' ∉ word) (h' : '_' ∉ word) :
    text.map hyphen = word ↔ text = word := by
  constructor
  · rintro rfl
    -- an underscore in the text would be a hyphen in the word
    have hnone : '_' ∉ text := fun hmem => h (List.mem_map.mpr ⟨'_', hmem, rfl⟩)
    exact (map_hyphen_eq_self hnone).symm
  · rintro rfl
    exact map_hyphen_eq_self h'

end Hyphens

/-! ### Spellings -/

/-- The two names of a granularity among which a label is looked for. -/
def names (granularity : Granularity) : List (List Char) :=
  [granularity.label.toList, granularity.table.toList]

lemma eq_of_mem_names {granularity other : Granularity} {name : List Char}
    (h : name ∈ granularity.names) (h' : name ∈ other.names) : granularity = other := by
  have hfree : ∀ granularity ∈ all, ∀ other ∈ all, ∀ name ∈ granularity.names,
      name ∈ other.names → granularity = other := by decide
  exact hfree granularity granularity.mem_all other other.mem_all name h h'

lemma exists_joint {first second text : List Char} (hfirst : '-' ∉ first) (hfirst' : '_' ∉ first)
    (hsecond : '-' ∉ second) (hsecond' : '_' ∉ second)
    (h : text.map hyphen = first ++ '-' :: second) :
    ∃ joint, (joint = '-' ∨ joint = '_') ∧ text = first ++ [joint] ++ second := by
  obtain ⟨before, rest, rfl, hbefore, hrest⟩ := List.map_eq_append_iff.mp h
  obtain ⟨joint, after, rfl, hjoint, hafter⟩ := List.map_eq_cons_iff.mp hrest
  refine ⟨joint, hyphen_eq_hyphen.mp hjoint, ?_⟩
  rw [(map_hyphen_eq_iff hfirst hfirst').mp hbefore, (map_hyphen_eq_iff hsecond hsecond').mp hafter,
    List.append_assoc, List.singleton_append]

/-- With hyphens for underscores the spellings of a granularity are its names. -/
lemma spelt_iff {granularity : Granularity} {text : List Char} :
    granularity.Spelt text ↔ text.map hyphen ∈ granularity.names := by
  have hjoints : ∀ joint ∈ [[], ['-'], ['_']],
      ("basic".toList ++ joint ++ "block".toList).map hyphen ∈ basicBlock.names := by decide
  constructor
  · rintro (_ | ⟨hjoint⟩ | _)
    · decide
    · exact hjoints _ hjoint
    · decide
  · intro h
    cases granularity with
    | function =>
      have hfunction : text.map hyphen = "function".toList := by simpa [names, label, table] using h
      rw [(map_hyphen_eq_iff (by decide) (by decide)).mp hfunction]
      exact .function
    | basicBlock =>
      obtain hlabel | htable := List.mem_pair.mp h
      · have hwords : "basic-block".toList = "basic".toList ++ '-' :: "block".toList := by decide
        obtain ⟨joint, hjoint, rfl⟩ := exists_joint (by decide) (by decide) (by decide) (by decide)
          (hlabel.trans hwords)
        exact .basicBlock (by simpa using hjoint)
      · rw [(map_hyphen_eq_iff (by decide) (by decide)).mp htable]
        exact .basicBlock List.mem_cons_self
    | instruction =>
      have hinstruction : text.map hyphen = "instruction".toList := by
        simpa [names, label, table] using h
      rw [(map_hyphen_eq_iff (by decide) (by decide)).mp hinstruction]
      exact .instruction

/-- No text is a spelling of two granularities. -/
lemma Spelt.unique {granularity other : Granularity} {text : List Char}
    (h : granularity.Spelt text) (h' : other.Spelt text) : granularity = other :=
  eq_of_mem_names (spelt_iff.mp h) (spelt_iff.mp h')

/-- A label stands for a granularity exactly if it spells it. -/
lemma ofLabel?_eq_some_iff {label : String} {granularity : Granularity} :
    ofLabel? label = some granularity ↔ granularity.Spelt (lower (strip label.toList)) := by
  have hname : ∀ granularity : Granularity, (granularity.label == normalize label
      || granularity.table == normalize label) = true ↔
        granularity.Spelt (lower (strip label.toList)) := by
    intro granularity
    rw [spelt_iff, names, List.mem_pair, Bool.or_eq_true, beq_iff_eq, beq_iff_eq, normalize_eq,
      ← String.toList_inj, ← String.toList_inj, String.toList_ofList, eq_comm,
      eq_comm (a := granularity.table.toList)]
    rfl
  rw [ofLabel?]
  constructor
  · intro h
    have hnamed := List.find?_some h
    exact (hname granularity).mp hnamed
  · intro h
    cases hfound : all.find? fun granularity => granularity.label == normalize label
        || granularity.table == normalize label with
    | some found =>
      -- another granularity before this one would be spelt the same way
      have hnamed := List.find?_some hfound
      rw [((hname found).mp hnamed).unique h]
    | none =>
      exact absurd ((hname granularity).mpr h)
        (List.find?_eq_none.mp hfound granularity granularity.mem_all)

/-! ### Characters that make no difference -/

/-- The characters differ at most in the case of a letter of ASCII, or both are a hyphen or an
underscore. -/
def Alike (c d : Char) : Prop :=
  c.toLower = d.toLower ∨ (c = '-' ∨ c = '_') ∧ (d = '-' ∨ d = '_')

instance (c d : Char) : Decidable (Alike c d) := inferInstanceAs (Decidable (_ ∨ _))

section Alike

variable {c d : Char}

lemma breaksWord_of_mark (h : c = '-' ∨ c = '_') : BreaksWord c := by
  obtain rfl | rfl := h <;> decide

/-- Two characters that are alike are the same, or both letters of ASCII, or both a mark. -/
lemma Alike.cases (h : Alike c d) : c = d ∨
    (inRanges asciiLetters c = true ∧ inRanges asciiLetters d = true ∧ c.toLower = d.toLower) ∨
      (c = '-' ∨ c = '_') ∧ (d = '-' ∨ d = '_') := by
  obtain hsmall | hmarks := h
  · have hsame : inRanges asciiLetters c = inRanges asciiLetters d := by
      rw [← inRanges_toLower c, hsmall, inRanges_toLower d]
    by_cases hletter : inRanges asciiLetters c = true
    · exact .inr (.inl ⟨hletter, hsame ▸ hletter, hsmall⟩)
    · have hc := (toLower_eq_or c).resolve_right hletter
      have hd := (toLower_eq_or d).resolve_right (hsame ▸ hletter)
      exact .inl (hc.symm.trans (hsmall.trans hd))
  · exact .inr (.inr hmarks)

lemma Alike.classes (h : Alike c d) :
    inRanges overlookedRanges c = inRanges overlookedRanges d ∧
      inRanges casedRanges c = inRanges casedRanges d := by
  obtain rfl | ⟨hc, hd, -⟩ | ⟨hc, hd⟩ := h.cases
  · exact ⟨rfl, rfl⟩
  · obtain ⟨hoverlooked, hcased⟩ := classes_of_letter hc
    obtain ⟨hoverlooked', hcased'⟩ := classes_of_letter hd
    exact ⟨hoverlooked.trans hoverlooked'.symm, hcased.trans hcased'.symm⟩
  · obtain ⟨hoverlooked, hcased⟩ := (breaksWord_of_mark hc).classes
    obtain ⟨hoverlooked', hcased'⟩ := (breaksWord_of_mark hd).classes
    exact ⟨hoverlooked.trans hoverlooked'.symm, hcased.trans hcased'.symm⟩

end Alike

section Texts

variable {before other text similar : List Char}

lemma nextIsCased_alike (h : List.Forall₂ Alike text similar) :
    nextIsCased text = nextIsCased similar := by
  induction h with
  | nil => rfl
  | cons hc _ ih =>
    obtain ⟨hoverlooked, hcased⟩ := hc.classes
    rw [nextIsCased_cons, nextIsCased_cons, ih, hoverlooked, hcased]

/-- Characters that are alike among neighbours that are alike have the same small form, with a
hyphen for an underscore. -/
lemma lowerAt_alike {c d : Char} (h : Alike c d) (hbefore : List.Forall₂ Alike before other)
    (hafter : List.Forall₂ Alike text similar) :
    (lowerAt before c text).map hyphen = (lowerAt other d similar).map hyphen := by
  obtain rfl | ⟨hc, -, hsmall⟩ | ⟨hc, hd⟩ := h.cases
  · rw [lowerAt, lowerAt, endsWord, endsWord, nextIsCased_alike hbefore, nextIsCased_alike hafter]
  · have hlower : c.toLower.toNat < 0x80 :=
      toNat_lt_of_letter ((inRanges_toLower c).trans hc)
    have hform : HasSmallForm c c.toLower := .inl rfl
    have hform' : HasSmallForm d c.toLower := .inl hsmall.symm
    rw [hform.lowerAt_eq hlower, hform'.lowerAt_eq hlower]
  · rw [(breaksWord_of_mark hc).lowerAt_eq, (breaksWord_of_mark hd).lowerAt_eq, List.map_singleton,
      List.map_singleton, hyphen_eq_hyphen.mpr hc, hyphen_eq_hyphen.mpr hd]

lemma lowerAfter_alike (hbefore : List.Forall₂ Alike before other)
    (h : List.Forall₂ Alike text similar) :
    (lowerAfter before text).map hyphen = (lowerAfter other similar).map hyphen := by
  induction h generalizing before other with
  | nil => rfl
  | cons hc hrest ih =>
    rw [lowerAfter_cons, lowerAfter_cons, List.map_append, List.map_append,
      lowerAt_alike hc hbefore hrest, ih (.cons hc hbefore)]

end Texts

/-! ### The order of the steps -/

lemma strip_map_hyphen (text : List Char) : strip (text.map hyphen) = (strip text).map hyphen := by
  have hblank : isBlank ∘ hyphen = isBlank := by
    funext c
    by_cases h : c = '_'
    · rw [h]
      rfl
    · rw [Function.comp_apply, hyphen_of_ne h]
  rw [strip, trimBy, trimEnd, List.dropWhile_map, hblank, ← List.map_reverse, List.dropWhile_map,
    hblank, ← List.map_reverse]
  rfl

lemma alike_map_hyphen (text : List Char) : List.Forall₂ Alike (text.map hyphen) text := by
  refine List.forall₂_map_left_iff.mpr (List.forall₂_same.mpr fun c _ => ?_)
  by_cases h : c = '_'
  · rw [h]
    exact .inr ⟨.inl rfl, .inr rfl⟩
  · rw [hyphen_of_ne h]
    exact .inl rfl

lemma lower_map_hyphen (text : List Char) : lower (text.map hyphen) = (lower text).map hyphen := by
  -- no letter becomes an underscore, so none is left for the hyphens afterwards
  have hnone : '_' ∉ lower (text.map hyphen) := fun hmem =>
    not_mem_map_hyphen (mem_of_mem_lowerAfter (by decide) hmem)
  rw [← map_hyphen_eq_self hnone]
  exact lowerAfter_alike .nil (alike_map_hyphen text)

lemma normalForm_eq (text : List Char) : normalForm text = strip ((lower text).map hyphen) := by
  rw [normalForm, ← strip_lower, strip_map_hyphen]

/-! ### Labels -/

lemma normalForm_alike {text similar : List Char} (h : List.Forall₂ Alike text similar) :
    normalForm similar = normalForm text := by
  rw [normalForm_eq, normalForm_eq, lower, lower, lowerAfter_alike .nil h]

lemma ofLabel?_congr {label other : String}
    (h : normalForm other.toList = normalForm label.toList) : ofLabel? other = ofLabel? label := by
  rw [ofLabel?, ofLabel?, normalize_eq, normalize_eq, h]

lemma ofLabel_eq_ok_iff {label : String} {granularity : Granularity} :
    ofLabel label = .ok granularity ↔ ofLabel? label = some granularity := by
  rw [ofLabel]
  cases ofLabel? label with
  | none => exact ⟨nofun, nofun⟩
  | some found => simp

lemma Spelt.ascii {granularity : Granularity} {word : List Char} (h : granularity.Spelt word) :
    ∀ c ∈ word, c.toNat < 0x80 := by
  have hjoints : ∀ joint ∈ [[], ['-'], ['_']],
      ("basic".toList ++ joint ++ "block".toList).all (·.toNat < 0x80) = true := by decide
  have hall : word.all (·.toNat < 0x80) = true := by
    obtain _ | ⟨hjoint⟩ | _ := h
    · decide
    · exact hjoints _ hjoint
    · decide
  exact fun c hc => of_decide_eq_true (List.all_eq_true.mp hall c hc)

/-- The texts that spell a granularity in their lower case, letter by letter. -/
lemma spelt_lower_iff {granularity : Granularity} {text : List Char} :
    granularity.Spelt (lower text) ↔
      ∃ word, granularity.Spelt word ∧ List.Forall₂ HasSmallForm text word := by
  constructor
  · intro h
    exact ⟨lower text, h, (lower_eq_iff h.ascii).mp rfl⟩
  · rintro ⟨word, hword, hforms⟩
    rwa [(lower_eq_iff hword.ascii).mpr hforms]

/-- A label stands for a granularity exactly if it spells it once the blanks around it are gone and
its letters are small: letter by letter, in either case of ASCII, where the sign of the unit kelvin
does for a `k`.  The blanks, the letters and the underscores can be seen to in any order.  So a
granularity is found as well with other blanks around its label, with letters in another case and
with a hyphen for an underscore; it is found from all three of its names; no label spells two
granularities, and one that spells none is quoted in a complaint. -/
theorem ofLabel_eq_ok_iff_spelt :
    (∀ (label : String) (granularity : Granularity),
      ofLabel label = .ok granularity ↔ granularity.Spelt (lower (strip label.toList))) ∧
    (∀ (text : List Char) (granularity : Granularity), granularity.Spelt (lower (strip text)) ↔
      ∃ word, granularity.Spelt word ∧ List.Forall₂ HasSmallForm (strip text) word) ∧
    (∀ text : List Char, strip (lower text) = lower (strip text) ∧
      lower (text.map hyphen) = (lower text).map hyphen ∧
      strip (text.map hyphen) = (strip text).map hyphen) ∧
    (∀ (label other : String) (before middle after : List Char),
      (∀ c ∈ before, isBlank c = true) → (∀ c ∈ after, isBlank c = true) →
      List.Forall₂ Alike label.toList middle → other.toList = before ++ middle ++ after →
        ∀ granularity, ofLabel other = .ok granularity ↔ ofLabel label = .ok granularity) ∧
    (∀ granularity : Granularity,
      ∀ name ∈ [granularity.label, granularity.table, granularity.constant],
        ofLabel name = .ok granularity) ∧
    (∀ (text : List Char) (granularity other : Granularity),
      granularity.Spelt text → other.Spelt text → granularity = other) ∧
    ∀ label : String, (∀ granularity : Granularity,
      ¬ granularity.Spelt (lower (strip label.toList))) →
        ∃ failure, ofLabel label = .error failure ∧ failure.name = "ValueError" ∧
          failure.text = "Unknown granularity '" ++ label
            ++ "'. Available: function, basic-block, instruction" := by
  refine ⟨fun label granularity => ofLabel_eq_ok_iff.trans ofLabel?_eq_some_iff,
    fun text granularity => spelt_lower_iff,
    fun text => ⟨strip_lower text, lower_map_hyphen text, strip_map_hyphen text⟩,
    fun label other before middle after hbefore hafter halike hother granularity => ?_,
    fun granularity => ?_, fun text granularity other => Spelt.unique, fun label hnone => ?_⟩
  · have hnormal : normalForm other.toList = normalForm label.toList :=
      calc normalForm other.toList
        _ = normalForm middle := by rw [hother, normalForm, strip_append hbefore hafter, normalForm]
        _ = normalForm label.toList := normalForm_alike halike
    rw [ofLabel_eq_ok_iff, ofLabel_eq_ok_iff, ofLabel?_congr hnormal]
  · cases granularity <;> decide
  · have hunknown : ofLabel? label = none := by
      refine Option.eq_none_iff_forall_ne_some.mpr fun granularity hfound => ?_
      exact hnone granularity (ofLabel?_eq_some_iff.mp hfound)
    refine ⟨.unknownGranularity label, by rw [ofLabel, hunknown], rfl, ?_⟩
    have havailable : ", ".intercalate (all.map Granularity.label)
        = "function, basic-block, instruction" := by decide
    change "Unknown granularity '" ++ label ++ "'. Available: "
      ++ ", ".intercalate (all.map Granularity.label) = _
    rw [havailable, String.append_assoc]
    rfl

/-- A label with an ideographic space before it, the sign of the unit kelvin in it and a line feed
after it, one in other letters and with an underscore, and one with two marks. -/
theorem ofLabel_eq_ok_iff_spelt_sample :
    ofLabel "\u3000Basic_Bloc\u212A\n" = .ok .basicBlock ∧
      ofLabel "\tbasic_BLOCK\u00A0" = .ok .basicBlock ∧
      ∃ failure, ofLabel "basic-_block" = .error failure ∧ failure.name = "ValueError" ∧
        failure.text = "Unknown granularity 'basic-_block'. Available: "
          ++ "function, basic-block, instruction" := by
  obtain ⟨hexact, hletters, -, hsame, hnames, -, hfails⟩ := ofLabel_eq_ok_iff_spelt
  refine ⟨?_, ?_, hfails "basic-_block" fun granularity hspelt => ?_⟩
  · have hjoint : ['_'] ∈ [[], ['-'], ['_']] := by decide
    exact (hexact _ _).mpr
      ((hletters _ _).mpr ⟨"basic_block".toList, .basicBlock hjoint, by decide⟩)
  · refine (hsame "basic-block" _ ['\t'] "basic_BLOCK".toList ['\u00A0']
      (List.forall_mem_singleton.mpr (by decide)) (List.forall_mem_singleton.mpr (by decide))
      (by decide) (by decide) _).mpr ?_
    exact hnames .basicBlock _ List.mem_cons_self
  · have hrejected : ofLabel "basic-_block" ≠ .ok granularity := by
      cases granularity <;> decide
    exact hrejected ((hexact _ _).mpr hspelt)

end Granularity
end BinaryDiff
