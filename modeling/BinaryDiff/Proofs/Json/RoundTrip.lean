import BinaryDiff.Display.Print
import BinaryDiff.Json.Read
import BinaryDiff.Proofs.Text.Hex
import Mathlib.Data.List.TakeWhile
import Mathlib.Tactic.Common

/-!
# JSON reads back as it was written

A value without fractional numbers and without an object that has a key twice is read back from its
text, however that is laid out (`Json.parse_print`).  Since every layout puts white space between
tokens only, one induction on the value does for all layouts; it carries the text that follows and a
bound on the fuel, for which the length of what was written is enough.
-/

namespace BinaryDiff
namespace Json

/-- A value without fractional numbers, and without an object that has a key twice. -/
inductive Regular : Json → Prop
  | null : Regular null
  | bool (value : Bool) : Regular (bool value)
  | int (value : Int) : Regular (int value)
  | str (value : String) : Regular (str value)
  | arr {items : List Json} : (∀ item ∈ items, Regular item) → Regular (arr items)
  | obj {members : List (String × Json)} : (members.map Prod.fst).Nodup →
      (∀ member ∈ members, Regular member.2) → Regular (obj members)

/-! ### White space -/

lemma skipSpace_of_space {c : Char} (h : isJsonSpace c = true) (text : List Char) :
    skipSpace (c :: text) = skipSpace text :=
  List.dropWhile_cons_of_pos h

lemma skipSpace_of_token {c : Char} (h : isJsonSpace c = false) (text : List Char) :
    skipSpace (c :: text) = c :: text :=
  List.dropWhile_cons_of_neg (by simp [h])

lemma skipSpace_append {space : List Char} (h : ∀ c ∈ space, isJsonSpace c = true)
    (text : List Char) : skipSpace (space ++ text) = skipSpace text :=
  List.dropWhile_append_of_pos h

lemma skipSpace_skipSpace (text : List Char) : skipSpace (skipSpace text) = skipSpace text := by
  induction text with
  | nil => rfl
  | cons c text ih =>
    cases hspace : isJsonSpace c with
    | true => rw [skipSpace_of_space hspace, ih]
    | false => rw [skipSpace_of_token hspace, skipSpace_of_token hspace]

lemma isJsonSpace_of_mem_break {layout : Layout} {depth : Nat} {c : Char}
    (h : c ∈ layout.break depth) : isJsonSpace c = true := by
  cases layout with
  | line => cases h
  | lines =>
    rcases List.mem_cons.mp h with rfl | hspace
    · rfl
    · rw [List.eq_of_mem_replicate hspace]
      rfl

lemma skipSpace_break (layout : Layout) (depth : Nat) (text : List Char) :
    skipSpace (layout.break depth ++ text) = skipSpace text :=
  skipSpace_append (fun _ h => isJsonSpace_of_mem_break h) text

/-- A comma, and the white space behind it. -/
lemma exists_comma (layout : Layout) (depth : Nat) :
    ∃ space, layout.comma depth = ',' :: space ∧ ∀ c ∈ space, isJsonSpace c = true := by
  cases layout with
  | line => exact ⟨[' '], rfl, by simp [isJsonSpace]⟩
  | lines => exact ⟨_, rfl, fun _ h => isJsonSpace_of_mem_break h⟩

/-- White space in front of a value is skipped. -/
lemma readValue_skipSpace (fuel : Nat) (text : List Char) :
    readValue fuel (skipSpace text) = readValue fuel text := by
  cases fuel with
  | zero => rfl
  | succ fuel => rw [readValue, readValue, skipSpace_skipSpace]

lemma readItems_skipSpace (fuel : Nat) (text : List Char) :
    readItems fuel (skipSpace text) = readItems fuel text := by
  cases fuel with
  | zero => rfl
  | succ fuel => rw [readItems, readItems, readValue_skipSpace]

lemma readMembers_skipSpace (fuel : Nat) (text : List Char) :
    readMembers fuel (skipSpace text) = readMembers fuel text := by
  cases fuel with
  | zero => rfl
  | succ fuel => rw [readMembers, readMembers, skipSpace_skipSpace]

/-! ### Strings -/

lemma codeUnit?_padded {code : Nat} (h : code < 16 ^ 4) (rest : List Char) :
    codeUnit? (Hex.padded 4 code ++ rest) = some (code, rest) := by
  have hlength : (Hex.padded 4 code).length = 4 := Hex.length_padded (by omega) h
  obtain ⟨a, b, c, d, hdigits⟩ : ∃ a b c d, Hex.padded 4 code = [a, b, c, d] := by
    match hpadded : Hex.padded 4 code, hlength with
    | [a, b, c, d], _ => exact ⟨a, b, c, d, rfl⟩
  have hread := Hex.ofDigits_padded 4 code
  rw [hdigits] at hread ⊢
  simp [codeUnit?, hread]

/-- A control character is read back from its number. -/
lemma numericEscape?_padded {c : Char} (h : c.toNat < 0x20) (rest : List Char) :
    numericEscape? (Hex.padded 4 c.toNat ++ rest) = some (c, rest) := by
  rw [numericEscape?, codeUnit?_padded (by omega)]
  simp only [Option.bind_eq_bind, Option.bind_some]
  rw [if_neg (by omega), if_neg (by omega), Char.ofNat_toNat]
  rfl

lemma readString_letter {letter c : Char} (h : letterEscape? letter = some c)
    (hletter : letter ≠ 'u') (fuel : Nat) (text : List Char) :
    readString (fuel + 1) ('\\' :: letter :: text)
      = (readString fuel text).map fun found => (c :: found.1, found.2) := by
  rw [readString, if_neg (by decide), if_pos (by decide), h]
  · cases readString fuel text <;> rfl
  · exact hletter

/-- Reading a character of a string takes it off the text, however it was written. -/
lemma readString_escapedChar (c : Char) (fuel : Nat) (text : List Char) :
    readString (fuel + 1) (escapedChar c ++ text)
      = (readString fuel text).map fun found => (c :: found.1, found.2) := by
  rw [escapedChar]
  split
  next h => exact readString_letter (by simp_all [letterEscape?]) (by decide) fuel text
  split
  next h => exact readString_letter (by simp_all [letterEscape?]) (by decide) fuel text
  split
  next h => exact readString_letter (by simp_all [letterEscape?]) (by decide) fuel text
  split
  next h => exact readString_letter (by simp_all [letterEscape?]) (by decide) fuel text
  split
  next h => exact readString_letter (by simp_all [letterEscape?]) (by decide) fuel text
  split
  next h =>
    have hc : Char.ofNat 0x08 = c := by rw [← beq_iff_eq.mp h, Char.ofNat_toNat]
    exact readString_letter (by rw [← hc]; rfl) (by decide) fuel text
  split
  next h =>
    have hc : Char.ofNat 0x0C = c := by rw [← beq_iff_eq.mp h, Char.ofNat_toNat]
    exact readString_letter (by rw [← hc]; rfl) (by decide) fuel text
  split
  next h =>
    rw [List.append_assoc, List.cons_append, List.cons_append, List.nil_append, readString,
      if_neg (by decide), if_pos (by decide)]
    simp only [numericEscape?_padded h]
    cases hrest : readString fuel text <;> simp [hrest]
  next hquote hslash _ _ _ _ _ hcontrol =>
    rw [List.singleton_append, readString.eq_def]
    simp only [if_neg hquote, if_neg hslash, if_neg hcontrol]
    cases readString fuel text <;> rfl

/-- A string is read back up to its closing mark. -/
lemma readString_flatMap (chars rest : List Char) {fuel : Nat} (h : chars.length < fuel) :
    readString fuel (chars.flatMap escapedChar ++ '"' :: rest) = some (chars, rest) := by
  induction chars generalizing fuel with
  | nil =>
    obtain ⟨fuel, rfl⟩ := Nat.exists_eq_succ_of_ne_zero (Nat.ne_zero_of_lt h)
    rfl
  | cons c chars ih =>
    obtain ⟨fuel, rfl⟩ := Nat.exists_eq_succ_of_ne_zero (Nat.ne_zero_of_lt h)
    rw [List.flatMap_cons, List.append_assoc, readString_escapedChar,
      ih (by simpa using h)]
    rfl

lemma length_le_flatMap (chars : List Char) :
    chars.length ≤ (chars.flatMap escapedChar).length := by
  induction chars with
  | nil => exact Nat.le_refl 0
  | cons c chars ih =>
    have hpositive : 0 < (escapedChar c).length := by
      rw [escapedChar]
      repeat' split
      all_goals simp
    rw [List.flatMap_cons, List.length_append, List.length_cons]
    omega

lemma printString_append (chars rest : List Char) :
    printString chars ++ rest = '"' :: (chars.flatMap escapedChar ++ '"' :: rest) := by
  simp [printString]

/-- What stands behind the opening mark of a string is read with the fuel that its length gives. -/
lemma readString_print (chars rest : List Char) :
    readString ((chars.flatMap escapedChar ++ '"' :: rest).length + 1)
      (chars.flatMap escapedChar ++ '"' :: rest) = some (chars, rest) := by
  refine readString_flatMap chars rest ?_
  have hlength := length_le_flatMap chars
  rw [List.length_append]
  omega

/-! ### Words and integers -/

lemma after?_append (word rest : List Char) : after? word (word ++ rest) = some rest := by
  induction word with
  | nil => rfl
  | cons c word ih => rw [List.cons_append, after?, if_pos (beq_self_eq_true c), ih]

lemma ofDigits_toDigits (n : Nat) :
    Decimal.ofDigits ((Nat.toDigits 10 n).map fun c => c.toNat - 48) = n := by
  rw [Decimal.ofDigits, List.foldl_map]
  exact Nat.ofDigitChars_toDigits (by omega) (by omega)

lemma isDigit_of_mem {n : Nat} {c : Char} (h : c ∈ Nat.toDigits 10 n) : c.isDigit = true :=
  Nat.isDigit_of_mem_toDigits (by omega) (by omega) h

lemma toDigits_ne_nil (n : Nat) : Nat.toDigits 10 n ≠ [] := by
  rw [Nat.toDigits_eq_if (by omega)]
  split <;> simp

lemma exists_toDigits (n : Nat) :
    ∃ c digits, Nat.toDigits 10 n = c :: digits ∧ c.isDigit = true := by
  cases hdigits : Nat.toDigits 10 n with
  | nil => exact absurd hdigits (toDigits_ne_nil n)
  | cons c digits =>
    exact ⟨c, digits, rfl, isDigit_of_mem (by rw [hdigits]; exact List.mem_cons_self)⟩

lemma number?_printInt (n : Int) : number? (printInt n) = some (int n) := by
  have hall : (Nat.toDigits 10 n.natAbs).all Char.isDigit = true :=
    List.all_eq_true.mpr fun c hc => isDigit_of_mem hc
  have hempty : (Nat.toDigits 10 n.natAbs).isEmpty = false := by simp
  by_cases hn : n < 0
  · rw [printInt, if_pos hn, number?]
    simp only [hempty, hall, if_true, Bool.false_eq_true, if_false, ofDigits_toDigits]
    congr 2
    omega
  · have hminus : ∀ digits, Nat.toDigits 10 n.natAbs = '-' :: digits → False := by
      intro digits hdigits
      have hdigit : '-'.isDigit = true := isDigit_of_mem (n := n.natAbs) (by simp [hdigits])
      exact absurd hdigit (by decide)
    rw [printInt, if_neg hn, number?]
    · simp only [hempty, hall, if_true, Bool.false_eq_true, if_false, ofDigits_toDigits]
      congr 2
      omega
    · exact hminus

lemma isNumeric_of_mem_printInt {n : Int} {c : Char} (h : c ∈ printInt n) :
    isNumeric c = true := by
  have hdigits : ∀ d ∈ Nat.toDigits 10 n.natAbs, isNumeric d = true := by
    intro d hd
    simp [isNumeric, isDigit_of_mem hd]
  rw [printInt] at h
  split at h
  · rcases List.mem_cons.mp h with rfl | hc
    · rfl
    · exact hdigits c hc
  · exact hdigits c h

/-- An integer is written as a minus sign and a digit, or as a digit, and what follows. -/
lemma printInt_cases (n : Int) :
    (∃ c digits, c.isDigit = true ∧ printInt n = '-' :: c :: digits) ∨
      ∃ c digits, c.isDigit = true ∧ printInt n = c :: digits := by
  obtain ⟨c, digits, hdigits, hc⟩ := exists_toDigits n.natAbs
  rw [printInt, hdigits]
  split
  · exact .inl ⟨c, digits, hc, rfl⟩
  · exact .inr ⟨c, digits, hc, rfl⟩

/-- Whether a text cannot go on with the number in front of it. -/
def EndsNumber (text : List Char) : Prop := ∀ c ∈ text.head?, isNumeric c = false

lemma readScalar_printInt (n : Int) {rest : List Char} (h : EndsNumber rest) :
    readScalar (printInt n ++ rest) = some (int n, rest) := by
  have hnumeric : ∀ c ∈ printInt n, isNumeric c = true := fun c hc => isNumeric_of_mem_printInt hc
  have htake : (printInt n ++ rest).takeWhile isNumeric = printInt n := by
    rw [List.takeWhile_append_of_pos hnumeric]
    cases rest with
    | nil => simp
    | cons c rest => simp [h c (by simp)]
  have hdrop : (printInt n ++ rest).dropWhile isNumeric = rest := by
    rw [List.dropWhile_append_of_pos hnumeric]
    cases rest with
    | nil => rfl
    | cons c rest => exact List.dropWhile_cons_of_neg (by simp [h c (by simp)])
  -- none of the words begins like a number
  have hfirst : ∀ {c d : Char}, c.isDigit = true → d.isDigit = false → (d == c) = false := by
    intro c d hc hd
    rw [beq_eq_false_iff_ne]
    rintro rfl
    rw [hc] at hd
    cases hd
  have hwords : ∀ word ∈ ["null", "true", "false", "NaN", "Infinity", "-Infinity"],
      after? word.toList (printInt n ++ rest) = none := by
    simp only [List.mem_cons, List.not_mem_nil, or_false, forall_eq_or_imp, forall_eq]
    rcases printInt_cases n with ⟨c, digits, hc, hprint⟩ | ⟨c, digits, hc, hprint⟩
    · simp [hprint, after?, hfirst hc (show 'I'.isDigit = false by decide)]
    · simp [hprint, after?, hfirst hc (show 'n'.isDigit = false by decide),
        hfirst hc (show 't'.isDigit = false by decide),
        hfirst hc (show 'f'.isDigit = false by decide),
        hfirst hc (show 'N'.isDigit = false by decide),
        hfirst hc (show 'I'.isDigit = false by decide),
        hfirst hc (show '-'.isDigit = false by decide)]
  simp only [List.mem_cons, List.not_mem_nil, or_false, forall_eq_or_imp, forall_eq] at hwords
  obtain ⟨hnull, htrue, hfalse, hnan, hinfinity, hminus⟩ := hwords
  rw [readScalar]
  simp only [hnull, htrue, hfalse, hnan, hinfinity, hminus, htake, hdrop, number?_printInt]
  rfl

/-! ### Tokens -/

/-- A digit is neither white space nor a mark of the notation. -/
lemma marks_of_isDigit {c : Char} (h : c.isDigit = true) :
    isJsonSpace c = false ∧ c ≠ ']' ∧ c ≠ '"' ∧ c ≠ '[' ∧ c.toNat ≠ 0x7B := by
  have hcode : c.toNat ≤ 57 ∧ 48 ≤ c.toNat := by
    simp only [Char.isDigit, Bool.and_eq_true, decide_eq_true_eq] at h
    exact ⟨h.2, h.1⟩
  have hne : ∀ d : Char, d.toNat < 48 ∨ 57 < d.toNat → c ≠ d := by
    rintro d hd rfl
    omega
  refine ⟨?_, hne _ (by decide), hne _ (by decide), hne _ (by decide), by omega⟩
  simp [isJsonSpace, hne ' ' (by decide), hne '\n' (by decide), hne '\r' (by decide),
    hne '\t' (by decide)]

/-- A value begins with a character that is no white space and does not close a list. -/
lemma exists_print (layout : Layout) (depth : Nat) {value : Json} (h : Regular value) :
    ∃ c text, print layout depth value = c :: text ∧ isJsonSpace c = false ∧ c ≠ ']' := by
  cases h with
  | null => exact ⟨'n', _, rfl, rfl, by decide⟩
  | bool value =>
    cases value with
    | true => exact ⟨'t', _, rfl, rfl, by decide⟩
    | false => exact ⟨'f', _, rfl, rfl, by decide⟩
  | int n =>
    rcases printInt_cases n with ⟨c, digits, -, hprint⟩ | ⟨c, digits, hc, hprint⟩
    · exact ⟨'-', c :: digits, by rw [print, hprint], rfl, by decide⟩
    · obtain ⟨hspace, hclosing, -⟩ := marks_of_isDigit hc
      exact ⟨c, digits, by rw [print, hprint], hspace, hclosing⟩
  | str text => exact ⟨'"', _, rfl, rfl, by decide⟩
  | @arr items _ =>
    cases items with
    | nil => exact ⟨'[', _, by rw [print], rfl, by decide⟩
    | cons item items =>
      exact ⟨'[', _, by rw [print, List.cons_append, List.cons_append, List.cons_append,
        List.cons_append], rfl, by decide⟩
  | @obj members _ _ =>
    cases members with
    | nil => exact ⟨Char.ofNat 0x7B, _, by rw [print], rfl, by decide⟩
    | cons member members =>
      exact ⟨Char.ofNat 0x7B, _, by rw [print]; rfl, rfl, by decide⟩

lemma readValue_scalar {c : Char} (hspace : isJsonSpace c = false) (hmark : c ≠ '"')
    (hbracket : c ≠ '[') (hbrace : c.toNat ≠ 0x7B) (fuel : Nat) (text : List Char) :
    readValue (fuel + 1) (c :: text) = readScalar (c :: text) := by
  rw [readValue, skipSpace_of_token hspace]
  simp only [beq_iff_eq, if_neg hmark, if_neg hbracket, if_neg hbrace]

lemma endsNumber_of_space {space : List Char} (h : ∀ c ∈ space, isJsonSpace c = true)
    {text : List Char} (htext : EndsNumber text) : EndsNumber (space ++ text) := by
  cases space with
  | nil => exact htext
  | cons c space =>
    intro d hd
    cases hd
    have hspace := h c List.mem_cons_self
    simp only [isJsonSpace, Bool.or_eq_true, beq_iff_eq] at hspace
    rcases hspace with ((rfl | rfl) | rfl) | rfl <;> rfl

/-! ### Values -/

/-- Whether a value is read back, whatever follows, if there is fuel for every character. -/
def ReadsBack (layout : Layout) (value : Json) : Prop :=
  ∀ (depth fuel : Nat) (rest : List Char), (print layout depth value).length ≤ fuel →
    EndsNumber rest → readValue fuel (print layout depth value ++ rest) = some (value, rest)

lemma readsBack_scalar {layout : Layout} {value : Json} (hregular : Regular value)
    (hmarks : ∀ depth c text, print layout depth value = c :: text →
      c ≠ '"' ∧ c ≠ '[' ∧ c.toNat ≠ 0x7B)
    (h : ∀ depth rest, EndsNumber rest →
      readScalar (print layout depth value ++ rest) = some (value, rest)) :
    ReadsBack layout value := by
  intro depth fuel rest hfuel hrest
  obtain ⟨c, text, hprint, hspace, -⟩ := exists_print layout depth hregular
  obtain ⟨hmark, hbracket, hbrace⟩ := hmarks depth c text hprint
  have hscalar := h depth rest hrest
  rw [hprint] at hfuel hscalar ⊢
  obtain ⟨fuel, rfl⟩ := Nat.exists_eq_succ_of_ne_zero (Nat.ne_zero_of_lt hfuel)
  rw [List.cons_append] at hscalar ⊢
  rw [readValue_scalar hspace hmark hbracket hbrace, hscalar]

lemma readsBack_str (layout : Layout) (text : String) : ReadsBack layout (str text) := by
  intro depth fuel rest hfuel _
  obtain ⟨fuel, rfl⟩ := Nat.exists_eq_succ_of_ne_zero (Nat.ne_zero_of_lt hfuel)
  rw [print, printString_append, readValue, skipSpace_of_token rfl]
  simp only [beq_self_eq_true, if_true, readString_print, Option.bind_eq_bind, Option.bind_some,
    String.ofList_toList]
  rfl

/-! ### Lists -/

lemma endsNumber_items (layout : Layout) (depth : Nat) (items : List Json) (rest : List Char) :
    EndsNumber (printItems layout (depth + 1) items ++ (layout.break depth ++ ']' :: rest)) := by
  cases items with
  | nil =>
    exact endsNumber_of_space (fun _ h => isJsonSpace_of_mem_break h)
      (by simp [EndsNumber, isNumeric])
  | cons item items =>
    obtain ⟨space, hcomma, -⟩ := exists_comma layout (depth + 1)
    rw [printItems, hcomma]
    intro c hc
    cases hc
    rfl

/-- The items of a list are read back up to its closing bracket. -/
lemma readItems_print {layout : Layout} {item : Json} {items : List Json}
    (h : ∀ other ∈ item :: items, ReadsBack layout other) (depth : Nat) (rest : List Char)
    {fuel : Nat}
    (hfuel : (print layout (depth + 1) item).length
      + (printItems layout (depth + 1) items).length < fuel) :
    readItems fuel (print layout (depth + 1) item ++
        (printItems layout (depth + 1) items ++ (layout.break depth ++ ']' :: rest)))
      = some (item :: items, rest) := by
  induction items generalizing item fuel with
  | nil =>
    obtain ⟨fuel, rfl⟩ := Nat.exists_eq_succ_of_ne_zero (Nat.ne_zero_of_lt hfuel)
    have hitem := h item List.mem_cons_self (depth + 1) fuel _ (by omega)
      (endsNumber_items layout depth [] rest)
    rw [readItems, hitem]
    simp [printItems, skipSpace_break, skipSpace_of_token (show isJsonSpace ']' = false from rfl)]
  | cons second items ih =>
    obtain ⟨fuel, rfl⟩ := Nat.exists_eq_succ_of_ne_zero (Nat.ne_zero_of_lt hfuel)
    obtain ⟨space, hcomma, hspace⟩ := exists_comma layout (depth + 1)
    have hitem := h item List.mem_cons_self (depth + 1) fuel _ (by omega)
      (endsNumber_items layout depth (second :: items) rest)
    have hlength : (print layout (depth + 1) second).length
        + (printItems layout (depth + 1) items).length < fuel := by
      rw [printItems, hcomma] at hfuel
      simp only [List.length_append, List.length_cons] at hfuel
      omega
    have hrest := ih (fun other hother => h other (List.mem_cons_of_mem _ hother)) hlength
    rw [readItems, hitem]
    simp only [printItems, hcomma, List.append_assoc, List.cons_append, Option.bind_eq_bind,
      Option.bind_some, skipSpace_of_token (show isJsonSpace ',' = false from rfl)]
    rw [← readItems_skipSpace, skipSpace_append hspace, readItems_skipSpace, hrest]
    rfl

lemma readsBack_arr {layout : Layout} {items : List Json}
    (hregular : ∀ item ∈ items, Regular item) (h : ∀ item ∈ items, ReadsBack layout item) :
    ReadsBack layout (arr items) := by
  intro depth fuel rest hfuel _
  cases items with
  | nil =>
    rw [print] at hfuel ⊢
    obtain ⟨fuel, rfl⟩ := Nat.exists_eq_succ_of_ne_zero (Nat.ne_zero_of_lt hfuel)
    rw [List.cons_append, List.singleton_append, readValue,
      skipSpace_of_token (show isJsonSpace '[' = false from rfl)]
    simp [skipSpace_of_token (show isJsonSpace ']' = false from rfl)]
  | cons item items =>
    obtain ⟨c, text, hprint, hspace, hclosing⟩ :=
      exists_print layout (depth + 1) (hregular item List.mem_cons_self)
    have hlist : print layout depth (arr (item :: items)) ++ rest
        = '[' :: (layout.break (depth + 1) ++ (print layout (depth + 1) item ++
          (printItems layout (depth + 1) items ++ (layout.break depth ++ ']' :: rest)))) := by
      rw [print]
      simp
    have hlength := congrArg List.length hlist
    simp only [List.length_append, List.length_cons] at hlength
    obtain ⟨fuel, rfl⟩ : ∃ other, fuel = other + 1 := ⟨fuel - 1, by omega⟩
    have hshort : (print layout (depth + 1) item).length
        + (printItems layout (depth + 1) items).length < fuel := by omega
    have hread := readItems_print h depth rest hshort
    rw [hlist, readValue, skipSpace_of_token (show isJsonSpace '[' = false from rfl)]
    simp only [skipSpace_break]
    rw [hprint, List.cons_append, skipSpace_of_token hspace]
    rw [hprint, List.cons_append] at hread
    simp [hread, hclosing]

/-! ### Objects -/

lemma isJsonSpace_brace : isJsonSpace (Char.ofNat 0x7D) = false := rfl

lemma endsNumber_members (layout : Layout) (depth : Nat) (members : List (String × Json))
    (rest : List Char) :
    EndsNumber (printMembers layout (depth + 1) members ++
      (layout.break depth ++ Char.ofNat 0x7D :: rest)) := by
  cases members with
  | nil =>
    refine endsNumber_of_space (fun _ h => isJsonSpace_of_mem_break h) ?_
    intro c hc
    cases hc
    rfl
  | cons member members =>
    obtain ⟨space, hcomma, -⟩ := exists_comma layout (depth + 1)
    rw [printMembers, hcomma]
    intro c hc
    cases hc
    rfl

/-- The members of an object are read back up to its closing brace. -/
lemma readMembers_print {layout : Layout} {key : String} {value : Json}
    {members : List (String × Json)}
    (h : ∀ member ∈ (key, value) :: members, ReadsBack layout member.2) (depth : Nat)
    (rest : List Char) {fuel : Nat}
    (hfuel : (print layout (depth + 1) value).length
      + (printMembers layout (depth + 1) members).length < fuel) :
    readMembers fuel (printString key.toList ++ (':' :: ' ' :: (print layout (depth + 1) value ++
        (printMembers layout (depth + 1) members ++
          (layout.break depth ++ Char.ofNat 0x7D :: rest)))))
      = some ((key, value) :: members, rest) := by
  induction members generalizing key value fuel with
  | nil =>
    obtain ⟨fuel, rfl⟩ := Nat.exists_eq_succ_of_ne_zero (Nat.ne_zero_of_lt hfuel)
    have hvalue := h (key, value) List.mem_cons_self (depth + 1) fuel _
      (show (print layout (depth + 1) value).length ≤ fuel by omega)
      (endsNumber_members layout depth [] rest)
    rw [printString_append, readMembers, skipSpace_of_token rfl]
    simp only [readString_print, Option.bind_eq_bind, Option.bind_some,
      skipSpace_of_token (show isJsonSpace ':' = false from rfl)]
    rw [← readValue_skipSpace, skipSpace_of_space rfl, readValue_skipSpace, hvalue]
    simp only [printMembers, List.nil_append, Option.bind_some, skipSpace_break,
      skipSpace_of_token isJsonSpace_brace, String.ofList_toList]
    rfl
  | cons second members ih =>
    obtain ⟨fuel, rfl⟩ := Nat.exists_eq_succ_of_ne_zero (Nat.ne_zero_of_lt hfuel)
    obtain ⟨space, hcomma, hspace⟩ := exists_comma layout (depth + 1)
    obtain ⟨next, found⟩ := second
    have hvalue := h (key, value) List.mem_cons_self (depth + 1) fuel _
      (show (print layout (depth + 1) value).length ≤ fuel by omega)
      (endsNumber_members layout depth ((next, found) :: members) rest)
    have hlength : (print layout (depth + 1) found).length
        + (printMembers layout (depth + 1) members).length < fuel := by
      rw [printMembers, hcomma] at hfuel
      simp only [List.length_append, List.length_cons] at hfuel
      omega
    have hrest := ih (fun other hother => h other (List.mem_cons_of_mem _ hother)) hlength
    rw [printString_append, readMembers, skipSpace_of_token rfl]
    simp only [readString_print, Option.bind_eq_bind, Option.bind_some,
      skipSpace_of_token (show isJsonSpace ':' = false from rfl)]
    rw [← readValue_skipSpace, skipSpace_of_space rfl, readValue_skipSpace, hvalue]
    simp only [printMembers, hcomma, List.append_assoc, List.cons_append, Option.bind_some,
      skipSpace_of_token (show isJsonSpace ',' = false from rfl), List.nil_append,
      String.ofList_toList, beq_self_eq_true, if_true]
    rw [← readMembers_skipSpace, skipSpace_append hspace, readMembers_skipSpace, hrest]
    rfl

lemma insert_of_not_mem {members : List (String × Json)} {key : String}
    (h : key ∉ members.map Prod.fst) (value : Json) :
    insert members key value = members ++ [(key, value)] := by
  rw [insert, if_neg]
  rw [Bool.not_eq_true, List.any_eq_false]
  intro member hmember
  rw [beq_iff_eq]
  rintro rfl
  exact h (List.mem_map_of_mem hmember)

/-- Members are put in one behind the other as long as no key comes twice. -/
lemma foldl_insert_of_nodup {before members : List (String × Json)}
    (h : ((before ++ members).map Prod.fst).Nodup) :
    members.foldl (fun sum entry => insert sum entry.1 entry.2) before = before ++ members := by
  induction members generalizing before with
  | nil => simp
  | cons member members ih =>
    have hfresh : member.1 ∉ before.map Prod.fst := by
      rw [List.map_append, List.nodup_append] at h
      intro hmem
      exact h.2.2 _ hmem _ List.mem_cons_self rfl
    rw [List.append_cons] at h
    rw [List.foldl_cons, insert_of_not_mem hfresh, ih h, ← List.append_cons]

/-- Without a key that is there twice, an object has the members that it is made of. -/
lemma ofMembers_of_nodup {members : List (String × Json)} (h : (members.map Prod.fst).Nodup) :
    ofMembers members = obj members := by
  rw [ofMembers, foldl_insert_of_nodup (by simpa using h), List.nil_append]

lemma readsBack_obj {layout : Layout} {members : List (String × Json)}
    (hnodup : (members.map Prod.fst).Nodup) (h : ∀ member ∈ members, ReadsBack layout member.2) :
    ReadsBack layout (obj members) := by
  intro depth fuel rest hfuel _
  have hspace : isJsonSpace (Char.ofNat 0x7B) = false := rfl
  cases members with
  | nil =>
    rw [print] at hfuel ⊢
    obtain ⟨fuel, rfl⟩ := Nat.exists_eq_succ_of_ne_zero (Nat.ne_zero_of_lt hfuel)
    rw [List.cons_append, List.singleton_append, readValue, skipSpace_of_token hspace]
    simp only [skipSpace_of_token isJsonSpace_brace]
    rfl
  | cons member members =>
    obtain ⟨key, value⟩ := member
    have hobject : print layout depth (obj ((key, value) :: members)) ++ rest
        = Char.ofNat 0x7B :: (layout.break (depth + 1) ++ (printString key.toList ++
          (':' :: ' ' :: (print layout (depth + 1) value ++
            (printMembers layout (depth + 1) members ++
              (layout.break depth ++ Char.ofNat 0x7D :: rest)))))) := by
      rw [print]
      simp
    have hlength := congrArg List.length hobject
    simp only [List.length_append, List.length_cons] at hlength
    obtain ⟨fuel, rfl⟩ : ∃ other, fuel = other + 1 := ⟨fuel - 1, by omega⟩
    have hshort : (print layout (depth + 1) value).length
        + (printMembers layout (depth + 1) members).length < fuel := by omega
    have hread := readMembers_print h depth rest hshort
    rw [hobject, readValue, skipSpace_of_token hspace]
    rw [printString_append] at hread ⊢
    simp only [skipSpace_break, skipSpace_of_token (show isJsonSpace '"' = false from rfl)]
    change (readMembers fuel _ >>= fun found => some (ofMembers found.1, found.2)) = _
    rw [hread, Option.bind_eq_bind, Option.bind_some, ofMembers_of_nodup hnodup]

/-! ### Whole values -/

/-- What is written is read back. -/
theorem readsBack {value : Json} (h : Regular value) (layout : Layout) :
    ReadsBack layout value := by
  induction h with
  | null =>
    refine readsBack_scalar .null ?_ fun depth rest _ => ?_
    · rintro depth c text ⟨⟩
      decide
    · rw [print, readScalar, after?_append]
  | bool value =>
    refine readsBack_scalar (.bool value) (fun depth c text hprint => ?_) fun depth rest _ => ?_
    · cases value <;> cases hprint <;> decide
    · cases value <;> simp [print, readScalar, after?]
  | int n =>
    refine readsBack_scalar (.int n) ?_ fun depth rest hrest => ?_
    · intro depth c text hprint
      rw [print] at hprint
      rcases printInt_cases n with ⟨d, digits, -, hn⟩ | ⟨d, digits, hd, hn⟩
      · obtain ⟨rfl, -⟩ := List.cons.inj (hn.symm.trans hprint)
        decide
      · obtain ⟨rfl, -⟩ := List.cons.inj (hn.symm.trans hprint)
        exact (marks_of_isDigit hd).2.2
    · rw [print, readScalar_printInt n hrest]
  | str text => exact readsBack_str layout text
  | arr hitems ih => exact readsBack_arr hitems ih
  | obj hnodup _ ih => exact readsBack_obj hnodup ih

/-- The text of a regular value, however it is laid out and whatever blanks follow it, stands for
the value. -/
theorem parse_print {value : Json} (h : Regular value) (layout : Layout) (space : List Char)
    (hspace : ∀ c ∈ space, isJsonSpace c = true) :
    parse (String.ofList (print layout 0 value ++ space)) = some value := by
  have hends : EndsNumber space := by
    have hnone : EndsNumber [] := by simp [EndsNumber]
    simpa using endsNumber_of_space hspace hnone
  have hread := readsBack h layout 0 ((print layout 0 value ++ space).length + 1) space
    (by rw [List.length_append]; omega)
    hends
  have hempty : (skipSpace space).isEmpty = true := by
    rw [← List.append_nil space, skipSpace_append hspace]
    rfl
  rw [parse, String.toList_ofList, hread]
  simp only [hempty, if_true]

end Json

/-- What is printed of a regular value stands for the value. -/
theorem Display.parse_json {value : Json} (h : value.Regular) :
    Json.parse (Display.json value) = some value := by
  have hprinted := Json.parse_print h .lines ['\n'] (by simp [Json.isJsonSpace])
  rw [String.ofList_append] at hprinted
  exact hprinted

end BinaryDiff
