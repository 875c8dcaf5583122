import BinaryDiff.Proofs.Display.Cutting
import BinaryDiff.Proofs.Display.Escaping
import Mathlib.Data.List.Infix

/-!
# Texts that stand for themselves

A text that is taken for markup shows itself if nothing in it has a meaning there: no tag, no
escaped bracket, no code for a picture and no control character that is dropped
(`Markup.shown_of_literal`).
-/

namespace BinaryDiff
namespace Markup

open StyledText

/-- A text in which nothing has a meaning in markup. -/
structure Literal (text : List Char) : Prop where
  untagged : ∀ rest, rest <:+ text → tag? rest = none
  unescaped : ¬ ['\\', '['] <:+: text
  pictureless : PictureCode.replace text = text
  kept : ∀ c ∈ text, isDropped c = false

instance (text : List Char) : Decidable (Literal text) :=
  decidable_of_iff ((∀ rest ∈ text.tails, tag? rest = none) ∧ ¬ ['\\', '['] <:+: text ∧
      PictureCode.replace text = text ∧ (text.all fun c => !isDropped c) = true)
    ⟨fun ⟨htag, hescape, hpicture, hkept⟩ =>
        ⟨fun rest hrest => htag rest (List.mem_tails rest text |>.mpr hrest), hescape, hpicture,
          by simpa using hkept⟩,
      fun h => ⟨fun rest hrest => h.untagged rest (List.mem_tails rest text |>.mp hrest),
        h.unescaped, h.pictureless, by simpa using h.kept⟩⟩

lemma parts_of_untagged_text {text : List Char} (h : ∀ rest, rest <:+ text → tag? rest = none)
    (position : Nat) {fuel : Nat} (hfuel : text.length < fuel) :
    parts position fuel text = if text = [] then [] else [.text text] := by
  induction text generalizing position fuel with
  | nil =>
    cases fuel <;> rfl
  | cons c rest ih =>
    obtain ⟨fuel, rfl⟩ := Nat.exists_eq_succ_of_ne_zero (Nat.ne_zero_of_lt hfuel)
    have hrest := ih (fun tail htail => h tail (htail.trans (List.suffix_cons c rest)))
      (position + 1) (Nat.lt_of_succ_lt_succ hfuel)
    rw [parts_of_untagged (h _ (List.dropWhile_suffix _)), hrest]
    split
    · rename_i hnil
      subst hnil
      rfl
    · rfl

lemma dropEscapes_of_unescaped {text : List Char} (h : ¬ ['\\', '['] <:+: text) :
    dropEscapes text = text := by
  fun_induction dropEscapes text with
  | case1 rest ih =>
    refine absurd ?_ h
    exact ⟨[], rest, rfl⟩
  | case2 c rest hne ih =>
    rw [ih fun hwithin => h (hwithin.trans (List.suffix_cons c rest).isInfix)]
  | case3 => rfl

lemma finish_of_untagged (chars : List Char) :
    Reading.finish ⟨⟨chars, []⟩, []⟩ = unstyled chars := by
  simp [Reading.finish, unstyled]

/-- A text in which nothing has a meaning shows itself. -/
theorem shown_of_literal {console : Console} {text : String} (h : Literal text.toList) :
    shown console text = .ok (unstyled text.toList) := by
  have hshown : shownText text.toList = text.toList := by
    rw [shownText, dropEscapes_of_unescaped h.unescaped, h.pictureless, List.filter_eq_self]
    intro c hc
    simp [h.kept c hc]
  rw [shown, parts_of_untagged_text h.untagged 0 (Nat.lt_succ_self _)]
  split
  · rename_i hempty
    rw [hempty]
    exact congrArg Except.ok (finish_of_untagged [])
  · rw [foldlM_text, hshown]
    exact congrArg Except.ok (finish_of_untagged text.toList)

/-- Nothing is wrong with a text in which nothing has a meaning. -/
lemma Literal.not_faulty {console : Console} {text : String} (h : Literal text.toList)
    {error : MarkupError} : ¬ Faulty console text error := by
  rintro (hmistake | ⟨hshown, hstretch, -⟩)
  · rw [shown_of_literal h] at hmistake
    cases hmistake
  · rw [shown_of_literal h] at hshown
    cases hshown
    cases hstretch

/-! ### Texts without brackets and colons -/

lemma replaceWithin_of_free (fuel : Nat) {text : List Char} (h : ':' ∉ text) :
    PictureCode.replaceWithin fuel text = text := by
  induction fuel generalizing text with
  | zero => rfl
  | succ fuel ih =>
    cases text with
    | nil => rfl
    | cons c rest =>
      rw [List.mem_cons, not_or] at h
      rw [PictureCode.replaceWithin, if_neg (by simpa using Ne.symm h.1), ih h.2]

/-- A text without brackets, colons and control characters has nothing that means something. -/
lemma literal_of_free {text : List Char} (hbracket : '[' ∉ text) (hcolon : ':' ∉ text)
    (hkept : ∀ c ∈ text, isDropped c = false) : Literal text where
  untagged rest hrest := by
    rw [Option.eq_none_iff_forall_ne_some]
    rintro ⟨inside, after⟩ htag
    obtain ⟨c, tail, -, -, -, rfl⟩ := tag?_eq_some_iff.mp htag
    exact hbracket (hrest.subset List.mem_cons_self)
  unescaped hwithin := hbracket (hwithin.subset (by simp))
  pictureless := replaceWithin_of_free _ hcolon
  kept := hkept

end Markup
end BinaryDiff
