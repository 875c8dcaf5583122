import BinaryDiff.Config.Load
import BinaryDiff.Proofs.Config.Placeholders
import Mathlib

/-!
# Documents with their placeholders replaced

A walk through a document replaces its texts and nothing else: shape, keys and all other leaves stay
(`corresponds_walk_iff`).  What it replaces them by depends only on the variables that are named in
placeholders of the texts, so environments that agree on these give the same document and the same
settings (`walk_depends_on_names`).  Which names these are is up to the cut of each text: what
stands in the default of a placeholder is no placeholder itself, and neither is anything in a key.
-/

namespace BinaryDiff

namespace Document

/-- Whether a walk leaves the document as it is: it is no text, and has no parts to go into. -/
structure IsLeaf (document : Document) : Prop where
  not_text : ∀ text, document ≠ .text text
  not_list : ∀ items, document ≠ .list items
  not_mapping : ∀ members, document ≠ .mapping members

/-- Two documents of one shape, with the same keys in the same order and the same leaves, but for
texts in the place of texts that stand in a relation to them. -/
inductive Corresponds (R : String → String → Prop) : Document → Document → Prop
  | text {text other : String} : R text other → Corresponds R (.text text) (.text other)
  | leaf {document : Document} : document.IsLeaf → Corresponds R document document
  | list {items others : List Document} : List.Forall₂ (Corresponds R) items others →
      Corresponds R (.list items) (.list others)
  | mapping {members others : List (Scalar × Document)} :
      members.map Prod.fst = others.map Prod.fst →
      List.Forall₂ (Corresponds R) (members.map Prod.snd) (others.map Prod.snd) →
      Corresponds R (.mapping members) (.mapping others)

/-- Whether a name occurs in a placeholder of a text of the document. -/
inductive Names : Document → String → Prop
  | text {text : String} {parts : List TextPart} {placeholder : Placeholder} :
      Interpolation.Cuts text.toList parts → .placeholder placeholder ∈ parts →
      Names (.text text) (String.ofList placeholder.name)
  | list {items : List Document} {item : Document} {name : String} :
      item ∈ items → Names item name → Names (.list items) name
  | mapping {members : List (Scalar × Document)} {member : Scalar × Document} {name : String} :
      member ∈ members → Names member.2 name → Names (.mapping members) name

/-- What holds of texts and leaves, and of a list or mapping if it holds of what is in it, holds of
every document. -/
@[elab_as_elim]
theorem treeInduction {motive : Document → Prop} (text : ∀ text, motive (.text text))
    (leaf : ∀ document : Document, document.IsLeaf → motive document)
    (list : ∀ items, (∀ item ∈ items, motive item) → motive (.list items))
    (mapping : ∀ members, (∀ member ∈ members, motive member.2) → motive (.mapping members))
    (document : Document) : motive document :=
  match document with
  | .scalar (.text content) => text content
  | .list items =>
    list items fun item _ => treeInduction text leaf list mapping item
  | .mapping members =>
    mapping members fun member _ => treeInduction text leaf list mapping member.2
  | .scalar .null | .scalar (.bool _) | .scalar (.int _) | .scalar (.real _) | .scalar (.bytes _)
  | .scalar (.date ..) | .scalar (.moment ..) | .entry .. | .set _ | .cycle =>
    leaf _ ⟨by simp [Document.text], by simp, by simp⟩
termination_by sizeOf document
decreasing_by
  · have hlt := List.sizeOf_lt_of_mem ‹item ∈ items›
    simp only [Document.list.sizeOf_spec]
    omega
  · have hlt := List.sizeOf_lt_of_mem ‹member ∈ members›
    have hsnd : sizeOf member.2 < sizeOf member := by
      obtain ⟨key, value⟩ := member
      simp only [Prod.mk.sizeOf_spec]
      omega
    simp only [Document.mapping.sizeOf_spec]
    omega

end Document

namespace Interpolation

open Document

variable {environment : Environment}

/-! ### The shape of a walked document -/

lemma walk_text (text : String) : walk environment (.text text) = .text (apply environment text) :=
  rfl

lemma walk_of_isLeaf {document : Document} (h : document.IsLeaf) :
    walk environment document = document := by
  cases document with
  | scalar scalar =>
    cases scalar with
    | text text => exact absurd rfl (h.not_text text)
    | _ => rfl
  | list items => exact absurd rfl (h.not_list items)
  | mapping members => exact absurd rfl (h.not_mapping members)
  | entry | set | cycle => rfl

lemma walk_list (items : List Document) :
    walk environment (.list items) = .list (items.map (walk environment)) := by
  rw [walk]
  congr 1
  induction items with
  | nil => rfl
  | cons item items ih => rw [walkItems, ih, List.map_cons]

lemma walk_mapping (members : List (Scalar × Document)) :
    walk environment (.mapping members)
      = .mapping (members.map fun member => (member.1, walk environment member.2)) := by
  rw [walk]
  congr 1
  induction members with
  | nil => rfl
  | cons member members ih => rw [walkMembers, ih, List.map_cons]

lemma corresponds_walk (document : Document) :
    Corresponds (fun text other => other = apply environment text) document
      (walk environment document) := by
  induction document using treeInduction with
  | text text => exact .text rfl
  | leaf document hleaf =>
    rw [walk_of_isLeaf hleaf]
    exact .leaf hleaf
  | list items ih =>
    rw [walk_list]
    exact .list (List.forall₂_map_right_iff.mpr (List.forall₂_same.mpr ih))
  | mapping members ih =>
    rw [walk_mapping]
    refine .mapping (by simp) ?_
    rw [List.map_map, List.forall₂_map_left_iff, List.forall₂_map_right_iff]
    exact List.forall₂_same.mpr ih

lemma eq_map_of_forall₂ {α β : Type} {R : α → β → Prop} {f : α → β} {items : List α}
    {others : List β} (h : List.Forall₂ R items others)
    (hunique : ∀ item ∈ items, ∀ other, R item other → other = f item) :
    others = items.map f := by
  induction h with
  | nil => rfl
  | cons hfirst _ ih =>
    rw [List.map_cons, hunique _ List.mem_cons_self _ hfirst,
      ih fun item hitem => hunique item (List.mem_cons_of_mem _ hitem)]

lemma eq_walk_of_corresponds {document other : Document}
    (h : Corresponds (fun text other => other = apply environment text) document other) :
    other = walk environment document := by
  induction document using treeInduction generalizing other with
  | text text =>
    cases h with
    | text htext => rw [htext, walk_text]
    | leaf hleaf => exact absurd rfl (hleaf.not_text text)
  | leaf document hleaf =>
    rw [walk_of_isLeaf hleaf]
    cases h with
    | text => exact absurd rfl (hleaf.not_text _)
    | leaf => rfl
    | list => exact absurd rfl (hleaf.not_list _)
    | mapping => exact absurd rfl (hleaf.not_mapping _)
  | list items ih =>
    cases h with
    | leaf hleaf => exact absurd rfl (hleaf.not_list items)
    | list hitems => rw [walk_list, eq_map_of_forall₂ hitems fun item hitem other => ih item hitem]
  | mapping members ih =>
    cases h with
    | leaf hleaf => exact absurd rfl (hleaf.not_mapping members)
    | mapping hkeys hvalues =>
      rename_i others
      have hvalues := eq_map_of_forall₂ hvalues fun value hvalue other hother => by
        obtain ⟨member, hmember, rfl⟩ := List.mem_map.mp hvalue
        exact ih member hmember hother
      rw [walk_mapping, List.zip_of_prod hkeys.symm hvalues]
      exact congrArg _ (List.zip_of_prod (by simp) (by simp)).symm

/-- A walked document has the shape, the keys and the leaves of the document, with every text
replaced by what interpolation makes of it; no other document has. -/
theorem corresponds_walk_iff {document other : Document} :
    Corresponds (fun text other => other = apply environment text) document other ↔
      other = walk environment document :=
  ⟨eq_walk_of_corresponds, fun h => h ▸ corresponds_walk document⟩

/-! ### The variables that matter -/

variable {first second : Environment}

/-- Interpolation looks up the names in the placeholders of the text, and no others. -/
lemma apply_congr {text : String}
    (h : ∀ name, Document.Names (.text text) name → first name = second name) :
    apply first text = apply second text := by
  have hvalue : ∀ part ∈ split text.toList, value first part = value second part := by
    intro part hpart
    cases part with
    | literal c => rfl
    | placeholder placeholder => rw [value, value, h _ (.text (cuts_split _) hpart)]
  rw [apply, apply, List.flatMap_def, List.flatMap_def, List.map_congr_left hvalue]

lemma walk_congr {document : Document}
    (h : ∀ name, document.Names name → first name = second name) :
    walk first document = walk second document := by
  induction document using treeInduction with
  | text text => rw [walk_text, walk_text, apply_congr h]
  | leaf document hleaf => rw [walk_of_isLeaf hleaf, walk_of_isLeaf hleaf]
  | list items ih =>
    rw [walk_list, walk_list]
    refine congrArg _ (List.map_congr_left fun item hitem => ?_)
    exact ih item hitem fun name hname => h name (.list hitem hname)
  | mapping members ih =>
    rw [walk_mapping, walk_mapping]
    refine congrArg _ (List.map_congr_left fun member hmember => ?_)
    rw [ih member hmember fun name hname => h name (.mapping hmember hname)]

/-- What is loaded from a text depends on its document only by what a walk makes of it. -/
lemma ofText_congr {path text : String} {document : Document}
    (hdocument : ConfigLoad.readDocument text = .ok (some document))
    (h : walk first document = walk second document) :
    ConfigLoad.ofText first path text = ConfigLoad.ofText second path text := by
  have hsettings : ConfigLoad.settings first document = ConfigLoad.settings second document := by
    rw [ConfigLoad.settings, ConfigLoad.settings, h]
  rw [ConfigLoad.ofText, ConfigLoad.ofText, hdocument]
  cases document with
  | mapping members => simp only [bind, Except.bind, hsettings]
  | _ => rfl

/-- Interpolation keeps the structure of a document: the walked document has the same shape, keys
and leaves, and in the place of each text what interpolation makes of it.  It depends only on the
variables that are named in the placeholders of the texts: if two environments agree on these, they
give the same document, the same settings or problems, and the same outcome of loading the text of
the document. -/
theorem walk_depends_on_names (document : Document) :
    (∀ (environment : Environment) (other : Document),
      Corresponds (fun text other => other = apply environment text) document other ↔
        other = walk environment document) ∧
      ∀ first second : Environment,
        (∀ name, document.Names name → first name = second name) →
        walk first document = walk second document ∧
          ConfigLoad.settings first document = ConfigLoad.settings second document ∧
          ∀ path text, ConfigLoad.readDocument text = .ok (some document) →
            ConfigLoad.ofText first path text = ConfigLoad.ofText second path text := by
  refine ⟨fun environment other => corresponds_walk_iff, fun first second h => ?_⟩
  have hwalk := walk_congr h
  refine ⟨hwalk, ?_, fun path text hdocument => ofText_congr hdocument hwalk⟩
  rw [ConfigLoad.settings, ConfigLoad.settings, hwalk]

namespace Sample

/-- A document with a key that looks like a placeholder, and a default that holds the beginning of
one. -/
def document : Document :=
  .mapping [(.text (braced "K"), .text (braced ("A:" ++ braced "B"))),
    (.int 1, .list [.scalar (.int 3), .text ("$" ++ braced "C" ++ "$\x7bD " ++ braced "C:x")])]

/-- An environment with the variables that the document names, and one that it does not. -/
def here : Environment := fun name =>
  if name = "A" then some (braced "C") else if name = "C" then some "" else
    if name = "B" then some "1" else none

/-- The same variables with another one besides. -/
def elsewhere : Environment := fun name =>
  if name = "A" then some (braced "C") else if name = "C" then some "" else
    if name = "K" then some "2" else none

lemma names_document {name : String} (h : document.Names name) : name = "A" ∨ name = "C" := by
  -- the default ends at the first brace, so `B` is a part of it and names nothing
  have hfirst : split (braced ("A:" ++ braced "B")).toList
      = [.placeholder ⟨['A'], some ['$', '{', 'B']⟩, .literal '}'] := by
    cbv
  have hsecond : split ("$" ++ braced "C" ++ "$\x7bD " ++ braced "C:x").toList
      = [.literal '$', .placeholder ⟨['C'], none⟩, .literal '$', .literal '{', .literal 'D',
          .literal ' ', .placeholder ⟨['C'], some ['x']⟩] := by
    cbv
  obtain _ | _ | @⟨_, member, _, hmember, hnames⟩ := h
  simp only [List.mem_cons, List.not_mem_nil, or_false] at hmember
  rcases hmember with rfl | rfl
  · obtain ⟨hcuts, hpart⟩ := hnames
    rw [hcuts.eq_split, hfirst] at hpart
    simp only [List.mem_cons, TextPart.placeholder.injEq, reduceCtorEq, List.not_mem_nil,
      or_false] at hpart
    simp [hpart]
  · obtain _ | @⟨_, item, _, hitem, hnames⟩ := hnames
    simp only [List.mem_cons, List.not_mem_nil, or_false] at hitem
    rcases hitem with rfl | rfl
    · cases hnames
    · obtain ⟨hcuts, hpart⟩ := hnames
      rw [hcuts.eq_split, hsecond] at hpart
      simp only [List.mem_cons, TextPart.placeholder.injEq, reduceCtorEq, List.not_mem_nil,
        or_false, false_or] at hpart
      rcases hpart with hpart | hpart <;> simp [hpart]

end Sample

/-- In the sample the variables `B`, `D` and `K` do not matter. -/
theorem walk_depends_on_names_sample :
    (∀ name, Sample.document.Names name → Sample.here name = Sample.elsewhere name) ∧
      walk Sample.here Sample.document = walk Sample.elsewhere Sample.document ∧
      walk Sample.elsewhere Sample.document
        = .mapping [(.text (Sample.braced "K"), .text (Sample.braced "C" ++ "\x7d")),
            (.int 1, .list [.scalar (.int 3), .text "$$\x7bD "])] := by
  have hagree : ∀ name, Sample.document.Names name →
      Sample.here name = Sample.elsewhere name := by
    intro name hname
    rcases Sample.names_document hname with rfl | rfl <;> rfl
  refine ⟨hagree, ((walk_depends_on_names Sample.document).2 _ _ hagree).1, ?_⟩
  cbv

end Interpolation
end BinaryDiff
