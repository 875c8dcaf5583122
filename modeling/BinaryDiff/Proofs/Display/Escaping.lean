import BinaryDiff.Command.Run
import BinaryDiff.Proofs.Display.Styles
import Mathlib.Data.List.TakeDrop
import Mathlib.Data.List.TakeWhile
import Mathlib.Tactic.Common

/-!
# Escaped texts have no tags

What looks like a tag in an escaped text has an odd number of backslashes in front and is a text
itself (`escaped_escape`), so reading an escaped text cannot go wrong.  Complaints are escaped, so
every complaint can be printed, whatever is in it (`Display.exists_error_eq_ok`), and a command that
complains ends with the status that it means to end with (`Run.complain_eq`).
-/

namespace BinaryDiff
namespace Markup

/-! ### Tags -/

/-- What follows the backslashes at the beginning of a text. -/
def behind (text : List Char) : List Char := text.dropWhile (· == '\\')

lemma drop_backslashes (text : List Char) :
    text.drop (text.takeWhile (· == '\\')).length = behind text := by
  have hsplit : text.takeWhile (· == '\\') ++ behind text = text :=
    List.takeWhile_append_dropWhile
  calc text.drop (text.takeWhile (· == '\\')).length
      = (text.takeWhile (· == '\\') ++ behind text).drop (text.takeWhile (· == '\\')).length := by
        rw [hsplit]
    _ = behind text := List.drop_left

lemma behind_cons (c : Char) (rest : List Char) :
    behind (c :: rest) = if c = '\\' then behind rest else c :: rest := by
  simp [behind, List.dropWhile_cons]

/-- Whether a character is one of the brackets of tags. -/
def isBracket (c : Char) : Bool := c == ']' || c == '['

lemma isBracket_of_startsTag {c : Char} (h : startsTag c = true) : isBracket c = false := by
  by_contra hbracket
  simp only [isBracket, Bool.not_eq_false, Bool.or_eq_true, beq_iff_eq] at hbracket
  rcases hbracket with rfl | rfl <;> simp [startsTag] at h

lemma tag?_eq_some_iff {text inside after : List Char} :
    tag? text = some (inside, after) ↔
      ∃ c rest, inside = c :: rest ∧ startsTag c = true ∧ (∀ d ∈ rest, isBracket d = false) ∧
        text = '[' :: (inside ++ ']' :: after) := by
  have hinside : (fun d : Char => d != ']' && d != '[') = fun d => !isBracket d := by
    funext d
    simp [isBracket, bne]
  constructor
  · intro h
    unfold tag? at h
    split at h
    · rename_i c rest
      split at h
      · rename_i hstart
        rw [hinside, List.span_eq_takeWhile_dropWhile] at h
        split at h
        · rename_i found tail heq
          cases h
          obtain ⟨rfl, hdrop⟩ := Prod.mk.inj heq
          refine ⟨c, _, rfl, hstart, ?_, ?_⟩
          · intro d hd
            simpa using List.mem_takeWhile_imp hd
          · rw [← hdrop, List.cons_append, List.takeWhile_append_dropWhile]
        · cases h
      · cases h
    · cases h
  · rintro ⟨c, rest, rfl, hstart, hrest, rfl⟩
    have hspan : (rest ++ ']' :: after).span (fun d => d != ']' && d != '[')
        = (rest, ']' :: after) := by
      have hall : ∀ d ∈ rest, (!isBracket d) = true := by simpa using hrest
      rw [hinside, List.span_eq_takeWhile_dropWhile, List.takeWhile_append_of_pos hall,
        List.dropWhile_append_of_pos hall]
      simp [isBracket]
    simp only [tag?, List.cons_append, hstart, if_true, hspan]

/-- A text begins with a tag if a bracket, with a character behind it that a tag can begin with, is
closed before another one is opened. -/
lemma isSome_tag?_iff {text : List Char} :
    (tag? text).isSome ↔ ∃ c rest, text = '[' :: c :: rest ∧ startsTag c = true ∧
      (c :: rest).find? isBracket = some ']' := by
  rw [Option.isSome_iff_exists]
  constructor
  · rintro ⟨⟨inside, after⟩, htag⟩
    obtain ⟨c, rest, rfl, hstart, hrest, rfl⟩ := tag?_eq_some_iff.mp htag
    refine ⟨c, rest ++ ']' :: after, rfl, hstart, ?_⟩
    have hnone : rest.find? isBracket = none := by simpa using hrest
    rw [List.find?_cons_of_neg (by simp [isBracket_of_startsTag hstart]), List.find?_append, hnone]
    rfl
  · rintro ⟨c, rest, rfl, hstart, hfind⟩
    rw [List.find?_cons_of_neg (by simp [isBracket_of_startsTag hstart])] at hfind
    obtain ⟨-, before, after, rfl, hbefore⟩ := List.find?_eq_some_iff_append.mp hfind
    exact ⟨(c :: before, after),
      tag?_eq_some_iff.mpr ⟨c, before, rfl, hstart, by simpa using hbefore, rfl⟩⟩

/-! ### Escaping -/

/-- A text without tags: what looks like one has an odd number of backslashes in front. -/
inductive Escaped : List Char → Prop
  | nil : Escaped []
  | char {c : Char} {rest : List Char} : tag? (behind (c :: rest)) = none → Escaped rest →
      Escaped (c :: rest)
  | tag (count : Nat) {text inside after : List Char} : tag? text = some (inside, after) →
      Escaped after → Escaped (List.replicate (2 * count + 1) '\\' ++ text)

lemma behind_of_tag? {text inside after : List Char} (h : tag? text = some (inside, after)) :
    behind text = text := by
  obtain ⟨c, rest, -, -, -, rfl⟩ := tag?_eq_some_iff.mp h
  simp [behind]

lemma backslashes_replicate (count : Nat) {text : List Char} (h : behind text = text) :
    (List.replicate count '\\' ++ text).takeWhile (· == '\\') = List.replicate count '\\' ∧
      behind (List.replicate count '\\' ++ text) = text := by
  have hall : ∀ c ∈ List.replicate count '\\', (c == '\\') = true := by simp
  have hnone : text.takeWhile (· == '\\') = [] := by
    rw [List.takeWhile_eq_nil_iff]
    exact List.dropWhile_eq_self_iff.mp h
  rw [behind, List.takeWhile_append_of_pos hall, List.dropWhile_append_of_pos hall, hnone]
  exact ⟨List.append_nil _, h⟩

lemma exists_consChar {c : Char} {found : List Part}
    (h : ∀ part ∈ found, ∃ chars, part = .text chars) :
    ∀ part ∈ consChar c found, ∃ chars, part = .text chars := by
  cases found with
  | nil => simp [consChar]
  | cons first others =>
    obtain ⟨chars, rfl⟩ := h first List.mem_cons_self
    simpa [consChar] using fun part hpart => h part (List.mem_cons_of_mem _ hpart)

lemma parts_of_untagged {c : Char} {rest : List Char} (h : tag? (behind (c :: rest)) = none)
    (position fuel : Nat) :
    parts position (fuel + 1) (c :: rest) = consChar c (parts (position + 1) fuel rest) := by
  rw [parts]
  simp only [drop_backslashes, h]

lemma parts_of_escapedTag (count : Nat) {text inside after : List Char}
    (h : tag? text = some (inside, after)) (position fuel : Nat) :
    ∃ lead, (∀ part ∈ lead, ∃ chars, part = .text chars) ∧
      parts position (fuel + 1) (List.replicate (2 * count + 1) '\\' ++ text)
        = lead ++ parts (position + (2 * count + 1) + inside.length + 2) fuel after := by
  obtain ⟨htake, hbehind⟩ := backslashes_replicate (2 * count + 1) (behind_of_tag? h)
  obtain ⟨c, rest, hwhole⟩ : ∃ c rest,
      List.replicate (2 * count + 1) '\\' ++ text = c :: rest := ⟨_, _, rfl⟩
  have hodd : (2 * count + 1) % 2 = 1 := by omega
  rw [hwhole] at htake hbehind ⊢
  have hcount : ((c :: rest).takeWhile (· == '\\')).length = 2 * count + 1 := by
    rw [htake, List.length_replicate]
  rw [parts]
  simp only [drop_backslashes, hbehind, h]
  -- the last backslash is spent on the bracket, and half of the others stay
  simp only [hcount, hodd, if_true]
  refine ⟨.text [] :: ((if 2 * count + 1 < 2 then [] else
    [.text (List.replicate ((2 * count + 1) / 2) '\\')]) ++
      [.text ('[' :: inside ++ [']']), .text []]), ?_, by simp⟩
  intro part hpart
  split at hpart <;>
    simp only [List.mem_cons, List.mem_append, List.not_mem_nil, or_false, false_or] at hpart <;>
    rcases hpart with rfl | rfl | rfl | rfl <;> exact ⟨_, rfl⟩

/-- All parts of a text without tags are texts. -/
theorem Escaped.parts_eq_text {text : List Char} (h : Escaped text) (position fuel : Nat) :
    ∀ part ∈ parts position fuel text, ∃ chars, part = .text chars := by
  induction h generalizing position fuel with
  | nil => cases fuel <;> simp [parts]
  | @char c rest hnone _ ih =>
    cases fuel with
    | zero => simp [parts]
    | succ fuel =>
      rw [parts_of_untagged hnone]
      exact exists_consChar (ih (position + 1) fuel)
  | @tag count text inside after htag _ ih =>
    cases fuel with
    | zero => simp [parts]
    | succ fuel =>
      obtain ⟨lead, hlead, heq⟩ := parts_of_escapedTag count htag position fuel
      rw [heq]
      intro part hpart
      rcases List.mem_append.mp hpart with hpart | hpart
      · exact hlead part hpart
      · exact ih _ fuel part hpart

/-! ### Escaped texts -/

lemma escapeTags_of_untagged {c : Char} {rest : List Char} (h : tag? (behind (c :: rest)) = none)
    (fuel : Nat) : escapeTags (fuel + 1) (c :: rest) = c :: escapeTags fuel rest := by
  rw [escapeTags]
  simp only [drop_backslashes, h]

/-- A tag with the backslashes in front of it, whose number is doubled and one is added. -/
lemma escapeTags_of_tag {c : Char} {rest inside after : List Char}
    (h : tag? (behind (c :: rest)) = some (inside, after)) (fuel : Nat) :
    ∃ count, c :: rest = List.replicate count '\\' ++ '[' :: (inside ++ ']' :: after) ∧
      escapeTags (fuel + 1) (c :: rest) = List.replicate (2 * count + 1) '\\' ++
        '[' :: (inside ++ ']' :: escapeTags fuel after) := by
  refine ⟨((c :: rest).takeWhile (· == '\\')).length, ?_, ?_⟩
  · obtain ⟨-, -, -, -, -, hbehind⟩ := tag?_eq_some_iff.mp h
    have htake : (c :: rest).takeWhile (· == '\\')
        = List.replicate ((c :: rest).takeWhile (· == '\\')).length '\\' := by
      refine List.eq_replicate_of_mem fun d hd => ?_
      simpa using List.mem_takeWhile_imp hd
    rw [← htake, ← hbehind, behind, List.takeWhile_append_dropWhile]
  · rw [escapeTags]
    simp only [drop_backslashes, h]
    simp

/-- Escaping moves no bracket in front of another. -/
lemma find?_escapeTags (fuel : Nat) (text : List Char) :
    (escapeTags fuel text).find? isBracket = text.find? isBracket := by
  induction fuel generalizing text with
  | zero => rw [escapeTags]
  | succ fuel ih =>
    cases text with
    | nil => rw [escapeTags]
    | cons c rest =>
      cases htag : tag? (behind (c :: rest)) with
      | none =>
        rw [escapeTags_of_untagged htag, List.find?_cons, List.find?_cons, ih]
      | some found =>
        obtain ⟨count, htext, hescaped⟩ := escapeTags_of_tag htag fuel
        have hfind (n : Nat) (tail : List Char) :
            (List.replicate n '\\' ++ '[' :: tail).find? isBracket = some '[' := by
          have hnone : (List.replicate n '\\').find? isBracket = none := by
            simp [isBracket]
          rw [List.find?_append, hnone]
          simp [isBracket]
        rw [hescaped, htext, hfind, hfind]

lemma head?_of_escapeTags {fuel : Nat} {text : List Char} {c : Char} (hc : c ≠ '\\')
    (h : (escapeTags fuel text).head? = some c) : text.head? = some c := by
  cases fuel with
  | zero => simpa [escapeTags] using h
  | succ fuel =>
    cases text with
    | nil => simp [escapeTags] at h
    | cons d rest =>
      cases htag : tag? (behind (d :: rest)) with
      | none => simpa [escapeTags_of_untagged htag] using h
      | some found =>
        obtain ⟨count, -, hescaped⟩ := escapeTags_of_tag htag fuel
        rw [hescaped, List.replicate_succ, List.cons_append, List.head?_cons] at h
        exact absurd (Option.some.inj h).symm hc

lemma tag?_cons_escapeTags {c : Char} {text : List Char} (h : tag? (c :: text) = none)
    (fuel : Nat) : tag? (c :: escapeTags fuel text) = none := by
  rw [← Option.not_isSome_iff_eq_none] at h ⊢
  intro hsome
  obtain ⟨d, tail, hcons, hstart, hfind⟩ := isSome_tag?_iff.mp hsome
  obtain ⟨rfl, htail⟩ := List.cons_eq_cons.mp hcons
  have hd : d ≠ '\\' := by
    rintro rfl
    simp [startsTag] at hstart
  have hhead : text.head? = some d := head?_of_escapeTags hd (by rw [htail, List.head?_cons])
  obtain ⟨rest, rfl⟩ := List.head?_eq_some_iff.mp hhead
  -- the next bracket is the one that the text has there, so the tag would be in the text too
  rw [← htail, find?_escapeTags] at hfind
  exact h (isSome_tag?_iff.mpr ⟨d, rest, rfl, hstart, hfind⟩)

lemma tag?_behind_escapeTags {text : List Char} (h : tag? (behind text) = none) (fuel : Nat) :
    tag? (behind (escapeTags fuel text)) = none := by
  induction fuel generalizing text with
  | zero => rwa [escapeTags]
  | succ fuel ih =>
    cases text with
    | nil => rwa [escapeTags]
    | cons c rest =>
      rw [escapeTags_of_untagged h, behind_cons]
      rw [behind_cons] at h
      split at h
      · rw [if_pos ‹_›]
        exact ih h
      · rw [if_neg ‹_›]
        exact tag?_cons_escapeTags h fuel

lemma escaped_escapeTags {fuel : Nat} {text : List Char} (h : text.length < fuel) :
    Escaped (escapeTags fuel text) := by
  induction fuel generalizing text with
  | zero => exact absurd h (Nat.not_lt_zero _)
  | succ fuel ih =>
    cases text with
    | nil => exact .nil
    | cons c rest =>
      cases htag : tag? (behind (c :: rest)) with
      | none =>
        have hnone := tag?_behind_escapeTags htag (fuel + 1)
        rw [escapeTags_of_untagged htag] at hnone ⊢
        exact .char hnone (ih (by simpa using h))
      | some found =>
        obtain ⟨inside, after⟩ := found
        obtain ⟨count, htext, hescaped⟩ := escapeTags_of_tag htag fuel
        obtain ⟨d, others, hinside, hstart, hothers, -⟩ := tag?_eq_some_iff.mp htag
        have hafter : after.length < fuel := by
          have hlength := congrArg List.length htext
          simp only [List.length_append, List.length_cons] at hlength h
          omega
        rw [hescaped]
        exact .tag count (tag?_eq_some_iff.mpr ⟨d, others, hinside, hstart, hothers, rfl⟩)
          (ih hafter)

/-- No tag comes about at the end of a text by a backslash. -/
lemma tag?_append_backslash {text : List Char} (h : tag? text = none) :
    tag? (text ++ ['\\']) = none := by
  rw [← Option.not_isSome_iff_eq_none] at h ⊢
  intro hsome
  obtain ⟨c, tail, hcons, hstart, hfind⟩ := isSome_tag?_iff.mp hsome
  have hc : c ≠ '\\' := by
    rintro rfl
    simp [startsTag] at hstart
  match text, hcons with
  | ['['], hcons => simp_all
  | d :: e :: rest, hcons =>
    simp only [List.cons_append, List.cons.injEq] at hcons
    obtain ⟨rfl, rfl, rfl⟩ := hcons
    refine h (isSome_tag?_iff.mpr ⟨e, rest, rfl, hstart, ?_⟩)
    rw [← List.cons_append, List.find?_append] at hfind
    simpa [isBracket, Option.or_eq_some_iff] using hfind

lemma behind_append_backslash (text : List Char) :
    behind (text ++ ['\\']) = if behind text = [] then [] else behind text ++ ['\\'] := by
  simp [behind, List.dropWhile_append]

lemma Escaped.append_backslash {text : List Char} (h : Escaped text) :
    Escaped (text ++ ['\\']) := by
  induction h with
  | nil => exact .char rfl .nil
  | @char c rest hnone _ ih =>
    refine .char ?_ ih
    change tag? (behind (c :: rest ++ ['\\'])) = none
    rw [behind_append_backslash]
    split
    · rfl
    · exact tag?_append_backslash hnone
  | @tag count text inside after htag _ ih =>
    obtain ⟨d, others, hinside, hstart, hothers, rfl⟩ := tag?_eq_some_iff.mp htag
    rw [List.append_assoc]
    exact .tag count (tag?_eq_some_iff.mpr ⟨d, others, hinside, hstart, hothers, by simp⟩) ih

/-- What is escaped is a text without tags. -/
theorem escaped_escape (text : String) : Escaped (escape text).toList := by
  have hescaped : Escaped (escapeTags (text.toList.length + 1) text.toList) :=
    escaped_escapeTags (Nat.lt_succ_self _)
  rw [escape]
  split
  · simpa using hescaped
  · simpa using hescaped.append_backslash
  · simpa using hescaped

/-! ### Reading texts only -/

/-- A reading that goes over texts alone finds no mistake and adds no styles. -/
lemma exists_foldlM_step (console : Console) {found : List Part}
    (h : ∀ part ∈ found, ∃ chars, part = .text chars) (reading : Reading) :
    ∃ last, found.foldlM (Reading.step console) reading = .ok last ∧
      last.opened = reading.opened ∧ last.shown.stretches = reading.shown.stretches := by
  induction found generalizing reading with
  | nil => exact ⟨reading, rfl, rfl, rfl⟩
  | cons part found ih =>
    obtain ⟨chars, rfl⟩ := h part List.mem_cons_self
    obtain ⟨last, hlast, hopened, hstretches⟩ :=
      ih (fun other hother => h other (List.mem_cons_of_mem _ hother))
        { reading with shown := reading.shown.append ⟨shownText chars, []⟩ }
    refine ⟨last, hlast, hopened, hstretches.trans ?_⟩
    simp [StyledText.append]

end Markup

/-! ### The style of a complaint -/

/-- A word that does not begin like a colour by its components is none with a bad component. -/
lemma Colour.check_ne_badColour {word : List Char}
    (h : "rgb(".toList.isPrefixOf word = false) (fault : ColourFault) :
    Colour.check word ≠ .error (.badColour fault) := by
  have hwithin : Colour.within? "rgb(".toList word = none := by
    rw [Colour.within?, h, Bool.false_and]
    rfl
  rw [Colour.check, hwithin]
  split
  · simp
  · split
    · split <;> simp
    · simp_all
    · simp

namespace Style

lemma read_ne_badColour {words : List (List Char)} {fault : ColourFault}
    (h : ∀ word ∈ words, Colour.check (lower word) ≠ .error (.badColour fault)) (style : Style) :
    style.read words ≠ .error (.badColour fault) := by
  -- only a word behind `on`, and a word that is no trait, are taken for a colour
  fun_induction Style.read style words with
  | case1 => simp
  | case2 => simp
  | case3 style written word hon colour words ih =>
    have hcolour := h colour (by simp)
    cases hcheck : Colour.check (lower colour) with
    | error fault => simpa [bind, Except.bind, hcheck] using hcolour
    | ok => exact ih fun other hother => h other (by simp [hother])
  | case4 => simp
  | case5 style written word _ _ unwanted trait words _ ih =>
    exact ih fun other hother => h other (by simp [hother])
  | case6 => simp
  | case7 => simp
  | case8 style written word _ _ _ link words ih =>
    exact ih fun other hother => h other (by simp [hother])
  | case9 style written words word _ _ _ trait _ ih =>
    exact ih fun other hother => h other (by simp [hother])
  | case10 style written words word _ _ _ _ ih =>
    have hword := h written List.mem_cons_self
    cases hcheck : Colour.check (lower written) with
    | error fault => simpa [bind, Except.bind, hcheck] using hword
    | ok => exact ih fun other hother => h other (by simp [hother])

/-- A description can be computed if no word of it begins like a colour by its components. -/
lemma fault?_eq_none {description : List Char}
    (h : ∀ word ∈ words description, "rgb(".toList.isPrefixOf (lower word) = false) :
    fault? description = none := by
  have hread : ∀ fault, ofDescription description ≠ .error (.badColour fault) := by
    intro fault
    rw [ofDescription]
    split
    · simp
    · exact read_ne_badColour (fun word hword => Colour.check_ne_badColour (h word hword) fault) _
  rw [fault?]
  split
  · rename_i fault hfault
    exact absurd hfault (hread fault)
  · rfl

lemma ofDescription_boldRed : ofDescription "bold red".toList =
    (Colour.check "red".toList).map fun _ =>
      ⟨[("bold", true)], some "red".toList, none, none⟩ := by
  have hwords : words "bold red".toList = ["bold".toList, "red".toList] := by cbv
  have hnone : (strip "bold red".toList == "none".toList) = false := by cbv
  have hbold : lower "bold".toList = "bold".toList ∧ trait? "bold".toList = some "bold" :=
    ⟨by simp [lower, lowerAfter, lowerChar], by decide +kernel⟩
  have hred : lower "red".toList = "red".toList ∧ trait? "red".toList = none :=
    ⟨by simp [lower, lowerAfter, lowerChar], by decide +kernel⟩
  rw [ofDescription, hnone, hwords, if_neg Bool.false_ne_true]
  simp only [Style.read, hbold, hred]
  generalize Colour.check "red".toList = outcome
  cases outcome <;> rfl

/-- The style of the word in front of a complaint is written in its normal form. -/
lemma normalize_boldRed : normalize "bold red".toList = .ok "bold red".toList := by
  have hstrip : strip "bold red".toList = "bold red".toList := by cbv
  have hnormal : normal ⟨[("bold", true)], some "red".toList, none, none⟩
      = "bold red".toList := by decide +kernel
  rw [normalize, ofDescription_boldRed]
  -- the name is the same whether or not the second word is a colour
  cases hcheck : Colour.check "red".toList with
  | ok => exact congrArg Except.ok hnormal
  | error fault =>
    cases fault with
    | meaningless =>
      rw [hstrip]
      simp [Except.map, lower, lowerAfter, lowerChar]
    | badColour fault => exact absurd hcheck (Colour.check_ne_badColour (by decide) fault)

lemma computable_boldRed : StyledText.Computable "bold red ".toList := by
  have hwords : words "bold red ".toList = ["bold".toList, "red".toList] := by cbv
  refine fault?_eq_none ?_
  rw [hwords]
  intro word hword
  simp only [List.mem_cons, List.not_mem_nil, or_false] at hword
  rcases hword with rfl | rfl <;> simp [lower, lowerAfter, lowerChar, List.isPrefixOf]

end Style

namespace Markup

lemma foldlM_text (console : Console) (reading : Reading) (chars : List Char)
    (found : List Part) :
    (.text chars :: found).foldlM (Reading.step console) reading
      = found.foldlM (Reading.step console)
        { reading with shown := reading.shown.append ⟨shownText chars, []⟩ } := rfl

lemma foldlM_tag {console : Console} {reading next : Reading} {position : Nat}
    {inside : List Char} (h : reading.carryOut console position inside = .ok next)
    (found : List Part) :
    (.tag position inside :: found).foldlM (Reading.step console) reading
      = found.foldlM (Reading.step console) next := by
  change (reading.carryOut console position inside >>= found.foldlM (Reading.step console)) = _
  rw [h]
  rfl

lemma carryOut_boldRed (console : Console) (reading : Reading) (position : Nat) :
    reading.carryOut console position "bold red".toList
      = .ok { reading with
          opened := ⟨reading.shown.chars.length, "bold red".toList, []⟩ :: reading.opened } := by
  have hsplit : splitTag "bold red".toList = ("bold red".toList, []) := by cbv
  rw [Reading.carryOut, hsplit]
  change (styleName "bold red".toList >>= _) = _
  rw [styleName, Style.normalize_boldRed]
  rfl

/-- The style is closed again, and can be computed. -/
lemma exists_carryOut_closing (console : Console) {reading : Reading} {start : Nat}
    (hopened : reading.opened = [⟨start, "bold red".toList, []⟩])
    (hstretches : reading.shown.stretches = []) (position : Nat) :
    ∃ closed, reading.carryOut console position "/bold red".toList = .ok closed ∧
      closed.opened = [] ∧ closed.shown.EveryStyle StyledText.Computable := by
  have hsplit : splitTag "/bold red".toList = ('/' :: "bold red".toList, []) := by cbv
  have hstrip : strip "bold red".toList = "bold red".toList := by cbv
  refine ⟨⟨{ reading.shown with
    stretches := [reading.stretchOf ⟨start, "bold red".toList, []⟩] }, []⟩, ?_, rfl,
    List.forall_mem_singleton.mpr Style.computable_boldRed⟩
  rw [Reading.carryOut, hsplit]
  simp only [hstrip]
  change (styleName "bold red".toList >>= _) = _
  rw [styleName, Style.normalize_boldRed, hopened]
  simp [bind, Except.bind, Except.mapError, Reading.close, hopened, hstretches]

/-- The style of the word in front of a complaint is opened and closed again. -/
lemma exists_foldlM_error (console : Console) (found : List Part) :
    ∃ reading : Reading, (.text [] :: .tag 0 "bold red".toList :: .text "Error:".toList ::
      .tag 16 "/bold red".toList :: found).foldlM (Reading.step console) ⟨⟨[], []⟩, []⟩
        = found.foldlM (Reading.step console) reading ∧
      reading.opened = [] ∧ reading.shown.EveryStyle StyledText.Computable := by
  rw [foldlM_text, foldlM_tag (carryOut_boldRed console _ 0), foldlM_text]
  generalize hreading : Reading.mk _ _ = reading
  obtain ⟨start, hopened⟩ : ∃ start, reading.opened = [⟨start, "bold red".toList, []⟩] :=
    ⟨_, by rw [← hreading]⟩
  have hstretches : reading.shown.stretches = [] := by rw [← hreading]; rfl
  obtain ⟨closed, hclosed, hnone, hstyles⟩ :=
    exists_carryOut_closing console hopened hstretches 16
  exact ⟨closed, foldlM_tag hclosed found, hnone, hstyles⟩

lemma Reading.everyStyle_finish {P : List Char → Prop} {reading : Reading}
    (hopened : reading.opened = []) (h : reading.shown.EveryStyle P) :
    reading.finish.EveryStyle P := by
  intro stretch hstretch
  rw [Reading.finish, hopened] at hstretch
  exact h stretch (by simpa using hstretch)

lemma parts_error (fuel : Nat) (rest : List Char) :
    parts 0 (fuel + 9) ("[bold red]Error:[/bold red] ".toList ++ rest)
      = .text [] :: .tag 0 "bold red".toList :: .text "Error:".toList ::
        .tag 16 "/bold red".toList :: consChar ' ' (parts 28 fuel rest) := by
  simp [parts, tag?, startsTag, List.span, List.span.loop, consChar]

lemma exists_shown_error (console : Console) (message : String) :
    ∃ text, shown console ("[bold red]Error:[/bold red] " ++ escape message) = .ok text ∧
      text.EveryStyle StyledText.Computable := by
  have hfuel : ("[bold red]Error:[/bold red] ".toList ++ (escape message).toList).length + 1
      = ((escape message).toList.length + 20) + 9 := by
    have hstart : "[bold red]Error:[/bold red] ".toList.length = 28 := by decide
    rw [List.length_append]
    omega
  have htexts := exists_consChar (c := ' ') ((escaped_escape message).parts_eq_text 28
    ((escape message).toList.length + 20))
  obtain ⟨start, hstart, hnone, hstyles⟩ := exists_foldlM_error console (consChar ' ' (parts 28
    ((escape message).toList.length + 20) (escape message).toList))
  obtain ⟨last, hlast, hopened, hstretches⟩ := exists_foldlM_step console htexts start
  refine ⟨last.finish, ?_, Reading.everyStyle_finish (hopened.trans hnone) ?_⟩
  · rw [shown, String.toList_append, hfuel, parts_error, hstart, hlast]
    rfl
  · rw [StyledText.EveryStyle, hstretches]
    exact hstyles

end Markup

/-! ### Complaints -/

/-- A text whose styles can all be computed can be printed. -/
lemma Display.printed_eq_ok {text : StyledText} (h : text.EveryStyle StyledText.Computable)
    (console : Console) :
    printed console text = .ok (unlines (((Wrap.broken console.width text).map
      (Wrap.cut console.width)).map (Wrap.clip console.width))) := by
  have hcheck : StyledText.checkStyles ((Wrap.broken console.width text).map
      (Wrap.cut console.width)) = .ok () := by
    rw [StyledText.checkStyles_eq_ok_iff, List.forall_mem_map]
    exact fun line hline =>
      Wrap.everyStyle_cut (Wrap.everyStyle_broken h console.width line hline) _
  rw [printed]
  simp only [hcheck]
  rfl

/-- Every failure can be printed, whatever is in its message. -/
theorem Display.exists_error_eq_ok (console : Console) (message : String) :
    ∃ text, Display.error console message = .ok text := by
  obtain ⟨shown, hshown, hstyles⟩ := Markup.exists_shown_error console message
  rw [Display.error, hshown]
  exact ⟨_, Display.printed_eq_ok hstyles console⟩

/-- A complaint goes to the error output and ends with its status. -/
theorem Run.complain_eq (console : Console) (events : List LogEvent) (message : String)
    (code : Nat) :
    ∃ text, Run.complain console events message code = ⟨events, "", text, .status code⟩ := by
  obtain ⟨text, htext⟩ := Display.exists_error_eq_ok console message
  exact ⟨text, by rw [Run.complain, htext]⟩

end BinaryDiff

