import BinaryDiff.Proofs.Display.Cutting

/-!
# The cells of steady texts

A joiner or a selector changes how many cells its neighbours take.  A text is steady if they stand
only where there is something to change: behind a character with a width that begins a glyph, and
with no blank between.  The cells of a steady text are counted glyph by glyph (`cells_append`), a
cut at a blank goes between its glyphs (`SteadyIn.cut`), and it falls into clusters of one glyph
each with the marks behind it (`Cluster.row_list`).
-/

namespace BinaryDiff

/-- Whether a character is neither a joiner nor a selector. -/
def Ordinary (c : Char) : Prop := c ≠ pictureJoiner ∧ c ≠ pictureSelector

instance (c : Char) : Decidable (Ordinary c) := inferInstanceAs (Decidable (_ ∧ _))

lemma ordinary_of_ne {c : Char} (hjoiner : ¬ (c == pictureJoiner) = true)
    (hselector : ¬ (c == pictureSelector) = true) : Ordinary c :=
  ⟨by simpa using hjoiner, by simpa using hselector⟩

lemma ordinary_of_isBlank {c : Char} (h : isBlank c = true) : Ordinary c := by
  constructor
  · rintro rfl
    exact absurd h (by decide)
  · rintro rfl
    exact absurd h (by decide)

/-! ### Counting cells -/

lemma charCells_le_two (c : Char) : charCells c ≤ 2 := by
  rw [charCells]
  repeat' split
  all_goals omega

lemma cellsAfter_joiner (widens : Bool) (c : Char) (rest : List Char) :
    cellsAfter widens (pictureJoiner :: c :: rest) = cellsAfter widens rest := by
  rw [cellsAfter.eq_def]
  simp

lemma cellsAfter_selector (widens : Bool) (rest : List Char) :
    cellsAfter widens (pictureSelector :: rest)
      = (if widens then 1 else 0) + cellsAfter false rest := by
  have hne : pictureSelector ≠ pictureJoiner := by decide
  rw [cellsAfter.eq_def]
  simp [hne]

lemma cellsAfter_of_zero {c : Char} (h : Ordinary c) (hzero : charCells c = 0) (widens : Bool)
    (rest : List Char) : cellsAfter widens (c :: rest) = cellsAfter widens rest := by
  rw [cellsAfter.eq_def]
  simp [h.1, h.2, hzero]

lemma cellsAfter_of_pos {c : Char} (h : Ordinary c) (hpos : charCells c ≠ 0) (widens : Bool)
    (rest : List Char) :
    cellsAfter widens (c :: rest) = charCells c + cellsAfter (isWidened c) rest := by
  rw [cellsAfter.eq_def]
  simp [h.1, h.2, hpos]

/-- What comes behind a text takes no cells from it. -/
lemma cellsAfter_le_append (widens : Bool) (text rest : List Char) :
    cellsAfter widens text ≤ cellsAfter widens (text ++ rest) := by
  fun_induction cellsAfter widens text with
  | case1 => exact Nat.zero_le _
  | case2 => exact Nat.zero_le _
  | case3 widens c hjoiner d text ih =>
    obtain rfl := eq_of_beq hjoiner
    rwa [List.cons_append, List.cons_append, cellsAfter_joiner]
  | case4 widens c text hjoiner hselector ih =>
    obtain rfl := eq_of_beq hselector
    rw [List.cons_append, cellsAfter_selector]
    exact Nat.add_le_add_left ih _
  | case5 widens c text hjoiner hselector hzero ih =>
    rwa [List.cons_append, cellsAfter_of_zero (ordinary_of_ne hjoiner hselector) hzero]
  | case6 widens c text hjoiner hselector hpos ih =>
    rw [List.cons_append, cellsAfter_of_pos (ordinary_of_ne hjoiner hselector) hpos]
    exact Nat.add_le_add_left ih _

lemma cells_le_append (text rest : List Char) : cells text ≤ cells (text ++ rest) :=
  cellsAfter_le_append false text rest

/-! ### Glyphs -/

/-- Whether characters belong to the character with a width in front of them: they are marks,
selectors, and joiners with the characters that they join to it, and none of them is a blank. -/
inductive Trails : List Char → Prop
  | nil : Trails []
  | mark {c : Char} {rest : List Char} : Ordinary c → charCells c = 0 → isBlank c = false →
      Trails rest → Trails (c :: rest)
  | joined {c : Char} {rest : List Char} : isBlank c = false → Trails rest →
      Trails (pictureJoiner :: c :: rest)
  | selected {rest : List Char} : Trails rest → Trails (pictureSelector :: rest)

/-- What is shown as one: a character, or one with a width and what belongs to it. -/
inductive Glyph : List Char → Prop
  | single {c : Char} : Ordinary c → Glyph [c]
  | picture {c : Char} {tail : List Char} : Ordinary c → charCells c ≠ 0 → isBlank c = false →
      Trails tail → Glyph (c :: tail)

namespace Trails

variable {tail : List Char}

lemma isBlank_eq_false (h : Trails tail) {c : Char} (hc : c ∈ tail) : isBlank c = false := by
  induction h with
  | nil => cases hc
  | mark _ _ hblank _ ih =>
    rcases List.mem_cons.mp hc with rfl | hrest
    · exact hblank
    · exact ih hrest
  | joined hblank _ ih =>
    rcases List.mem_cons.mp hc with rfl | hmem
    · decide
    · rcases List.mem_cons.mp hmem with rfl | hrest
      · exact hblank
      · exact ih hrest
  | selected _ ih =>
    rcases List.mem_cons.mp hc with rfl | hrest
    · decide
    · exact ih hrest

lemma cellsAfter_le (h : Trails tail) (widens : Bool) :
    cellsAfter widens tail ≤ if widens then 1 else 0 := by
  induction h generalizing widens with
  | nil => exact Nat.zero_le _
  | mark hordinary hzero _ _ ih =>
    rw [cellsAfter_of_zero hordinary hzero]
    exact ih widens
  | joined _ _ ih =>
    rw [cellsAfter_joiner]
    exact ih widens
  | selected _ ih =>
    have hrest := ih false
    rw [if_neg Bool.false_ne_true] at hrest
    rw [cellsAfter_selector]
    omega

lemma cellsAfter_append (h : Trails tail) (widens : Bool) :
    ∃ after, ∀ rest, cellsAfter widens (tail ++ rest)
      = cellsAfter widens tail + cellsAfter after rest := by
  induction h generalizing widens with
  | nil => exact ⟨widens, fun rest => (Nat.zero_add _).symm⟩
  | mark hordinary hzero _ _ ih =>
    obtain ⟨after, hafter⟩ := ih widens
    refine ⟨after, fun rest => ?_⟩
    rw [List.cons_append, cellsAfter_of_zero hordinary hzero, cellsAfter_of_zero hordinary hzero]
    exact hafter rest
  | joined _ _ ih =>
    obtain ⟨after, hafter⟩ := ih widens
    refine ⟨after, fun rest => ?_⟩
    rw [List.cons_append, List.cons_append, cellsAfter_joiner, cellsAfter_joiner]
    exact hafter rest
  | selected _ ih =>
    obtain ⟨after, hafter⟩ := ih false
    refine ⟨after, fun rest => ?_⟩
    rw [List.cons_append, cellsAfter_selector, cellsAfter_selector, hafter rest, Nat.add_assoc]

end Trails

/-- The most cells that a glyph takes. -/
def glyphCells : Nat := 3

namespace Glyph

variable {glyph : List Char}

lemma cells_le (h : Glyph glyph) : cells glyph ≤ glyphCells := by
  rw [cells, glyphCells]
  cases h with
  | @single c hordinary =>
    have hc := charCells_le_two c
    by_cases hzero : charCells c = 0
    · rw [cellsAfter_of_zero hordinary hzero]
      exact Nat.zero_le _
    · rw [cellsAfter_of_pos hordinary hzero, cellsAfter, Nat.add_zero]
      omega
  | @picture c tail hordinary hpos _ htail =>
    have hc := charCells_le_two c
    have hrest := htail.cellsAfter_le (isWidened c)
    rw [cellsAfter_of_pos hordinary hpos]
    split at hrest <;> omega

/-- A blank is a glyph by itself. -/
lemma eq_singleton_of_blank (h : Glyph glyph) {blank : Char} (hmem : blank ∈ glyph)
    (hblank : isBlank blank = true) : glyph = [blank] := by
  cases h with
  | single => rw [List.mem_singleton.mp hmem]
  | picture _ _ hfirst htail =>
    rcases List.mem_cons.mp hmem with rfl | hrest
    · rw [hblank] at hfirst
      cases hfirst
    · rw [htail.isBlank_eq_false hrest] at hblank
      cases hblank

lemma cellsAfter_append (h : Glyph glyph) (widens : Bool) :
    ∃ after, ∀ rest, cellsAfter widens (glyph ++ rest) = cells glyph + cellsAfter after rest := by
  cases h with
  | @single c hordinary =>
    by_cases hzero : charCells c = 0
    · refine ⟨widens, fun rest => ?_⟩
      rw [cells, List.singleton_append, cellsAfter_of_zero hordinary hzero,
        cellsAfter_of_zero hordinary hzero, cellsAfter, Nat.zero_add]
    · refine ⟨isWidened c, fun rest => ?_⟩
      rw [cells, List.singleton_append, cellsAfter_of_pos hordinary hzero,
        cellsAfter_of_pos hordinary hzero, cellsAfter, Nat.add_zero]
  | @picture c tail hordinary hpos _ htail =>
    obtain ⟨after, hafter⟩ := htail.cellsAfter_append (isWidened c)
    refine ⟨after, fun rest => ?_⟩
    rw [cells, List.cons_append, cellsAfter_of_pos hordinary hpos, hafter,
      cellsAfter_of_pos hordinary hpos, Nat.add_assoc]

end Glyph

/-! ### Steady texts -/

/-- A text of glyphs each of which fits into a width. -/
inductive SteadyIn (width : Nat) : List Char → Prop
  | nil : SteadyIn width []
  | glyph {glyph rest : List Char} : Glyph glyph → cells glyph ≤ width → SteadyIn width rest →
      SteadyIn width (glyph ++ rest)

/-- A text in which joiners and selectors change only the glyphs that they belong to. -/
def Steady (text : List Char) : Prop := SteadyIn glyphCells text

namespace SteadyIn

variable {width : Nat} {text other : List Char}

lemma of_glyph {glyph : List Char} (h : Glyph glyph) (hwidth : cells glyph ≤ width) :
    SteadyIn width glyph := by
  simpa using SteadyIn.glyph h hwidth .nil

lemma append (h : SteadyIn width text) (hother : SteadyIn width other) :
    SteadyIn width (text ++ other) := by
  induction h with
  | nil => exact hother
  | glyph hglyph hwidth _ ih =>
    rw [List.append_assoc]
    exact .glyph hglyph hwidth ih

lemma mono {more : Nat} (h : SteadyIn width text) (hmore : width ≤ more) : SteadyIn more text := by
  induction h with
  | nil => exact .nil
  | glyph hglyph hwidth _ ih => exact .glyph hglyph (hwidth.trans hmore) ih

/-- No glyph needs more than `glyphCells` cells. -/
lemma cap (h : SteadyIn width text) : SteadyIn (min width glyphCells) text := by
  induction h with
  | nil => exact .nil
  | glyph hglyph hwidth _ ih => exact .glyph hglyph (Nat.le_min.mpr ⟨hwidth, hglyph.cells_le⟩) ih

lemma steady (h : SteadyIn width text) : Steady text := h.cap.mono (Nat.min_le_right _ _)

lemma flatten {texts : List (List Char)} (h : ∀ text ∈ texts, SteadyIn width text) :
    SteadyIn width texts.flatten := by
  induction texts with
  | nil => exact .nil
  | cons text texts ih =>
    obtain ⟨htext, hrest⟩ := List.forall_mem_cons.mp h
    exact htext.append (ih hrest)

/-- A cut in front of a blank goes between two glyphs, and so does one behind it. -/
theorem cut_blank {blank : Char} (h : SteadyIn width (text ++ blank :: other))
    (hblank : isBlank blank = true) :
    SteadyIn width text ∧ SteadyIn width [blank] ∧ SteadyIn width other := by
  generalize hwhole : text ++ blank :: other = whole at h
  induction h generalizing text with
  | nil => simp at hwhole
  | @glyph glyph rest hglyph hwidth hrest ih =>
    rcases List.append_eq_append_iff.mp hwhole with ⟨behind, hcut, htail⟩ | ⟨behind, rfl, htail⟩
    · cases behind with
      | nil =>
        -- the glyph ends where the blank begins
        rw [List.append_nil] at hcut
        have hbegins : [] ++ blank :: other = rest := htail
        obtain ⟨-, hparts⟩ := ih hbegins
        exact ⟨hcut ▸ of_glyph hglyph hwidth, hparts⟩
      | cons c behind =>
        rw [List.cons_append, List.cons.injEq] at htail
        obtain ⟨rfl, rfl⟩ := htail
        have hmem : blank ∈ glyph := by simp [hcut]
        obtain rfl := hglyph.eq_singleton_of_blank hmem hblank
        obtain ⟨rfl, rfl⟩ : text = [] ∧ behind = [] := by
          simpa [List.cons_eq_append_iff] using hcut
        exact ⟨.nil, of_glyph hglyph hwidth, hrest⟩
    · obtain ⟨hbehind, hparts⟩ := ih htail.symm
      exact ⟨.glyph hglyph hwidth hbehind, hparts⟩

/-- A text may be cut where a blank comes next. -/
lemma cut (h : SteadyIn width (text ++ other)) (hnext : ∀ c ∈ other.head?, isBlank c = true) :
    SteadyIn width text ∧ SteadyIn width other := by
  cases other with
  | nil => exact ⟨by simpa using h, .nil⟩
  | cons blank other =>
    obtain ⟨htext, hblank, hother⟩ := h.cut_blank (hnext blank rfl)
    exact ⟨htext, hblank.append hother⟩

/-- A text may be cut behind blanks. -/
lemma cut_blanks (h : SteadyIn width (text ++ other)) (hblank : Wrap.IsBlankText text) :
    SteadyIn width text ∧ SteadyIn width other := by
  induction text with
  | nil => exact ⟨.nil, h⟩
  | cons blank text ih =>
    obtain ⟨hfirst, hrest⟩ := List.forall_mem_cons.mp hblank
    have hwhole : SteadyIn width ([] ++ blank :: (text ++ other)) := h
    obtain ⟨-, hsingle, hbehind⟩ := hwhole.cut_blank hfirst
    obtain ⟨htext, hother⟩ := ih hbehind hrest
    exact ⟨hsingle.append htext, hother⟩

end SteadyIn

namespace Steady

lemma append {text other : List Char} (h : Steady text) (hother : Steady other) :
    Steady (text ++ other) := SteadyIn.append h hother

/-- A text without joiners and selectors is steady. -/
lemma of_ordinary {text : List Char} (h : ∀ c ∈ text, Ordinary c) : Steady text := by
  induction text with
  | nil => exact .nil
  | cons c text ih =>
    obtain ⟨hc, hrest⟩ := List.forall_mem_cons.mp h
    exact .glyph (.single hc) (Glyph.single hc).cells_le (ih hrest)

lemma of_blank {text : List Char} (h : Wrap.IsBlankText text) : Steady text :=
  of_ordinary fun c hc => ordinary_of_isBlank (h c hc)

end Steady

lemma cellsAfter_of_steady {text : List Char} (h : Steady text) (widens : Bool) :
    cellsAfter widens text = cells text := by
  rw [Steady] at h
  induction h generalizing widens with
  | nil => rfl
  | glyph hglyph _ _ ih =>
    obtain ⟨after, hafter⟩ := hglyph.cellsAfter_append widens
    obtain ⟨other, hother⟩ := hglyph.cellsAfter_append false
    rw [cells, hafter, hother, ih, ih]

lemma Glyph.cells_append {glyph rest : List Char} (h : Glyph glyph) (hrest : Steady rest) :
    cells (glyph ++ rest) = cells glyph + cells rest := by
  obtain ⟨after, hafter⟩ := h.cellsAfter_append false
  exact (hafter rest).trans (congrArg _ (cellsAfter_of_steady hrest after))

/-- The cells of steady texts add up. -/
theorem cells_append {text other : List Char} (h : Steady text) (hother : Steady other) :
    cells (text ++ other) = cells text + cells other := by
  rw [Steady] at h
  induction h with
  | nil => exact (Nat.zero_add _).symm
  | glyph hglyph _ hrest ih =>
    rw [List.append_assoc, hglyph.cells_append (hrest.steady.append hother), ih,
      hglyph.cells_append hrest.steady, Nat.add_assoc]

lemma cells_cons {c : Char} (h : Ordinary c) {text : List Char} (htext : Steady text) :
    cells (c :: text) = charCells c + cells text := by
  rw [cells]
  by_cases hzero : charCells c = 0
  · rw [cellsAfter_of_zero h hzero, hzero, Nat.zero_add, cells]
  · rw [cellsAfter_of_pos h hzero, cellsAfter_of_steady htext]

lemma steady_spaces (count : Nat) : Steady (List.replicate count ' ') :=
  .of_ordinary fun c hc => by
    rw [List.eq_of_mem_replicate hc]
    decide

lemma cells_spaces (count : Nat) : cells (List.replicate count ' ') = count := by
  have hspace : charCells ' ' = 1 := rfl
  induction count with
  | zero => rfl
  | succ count ih =>
    rw [List.replicate_succ, cells_cons (by decide) (steady_spaces count), ih, hspace,
      Nat.add_comm]

namespace Cluster

/-- A cluster of one glyph, which fits into a width, and of marks without width behind it. -/
structure Upright (width : Nat) (cluster : Cluster) : Prop where
  shape : ∃ glyph marks, cluster.chars = glyph ++ marks ∧ Glyph glyph ∧
    cluster.width = cells glyph ∧ ∀ mark ∈ marks, Ordinary mark ∧ charCells mark = 0
  fits : cluster.width ≤ width

namespace Upright

variable {width : Nat} {cluster : Cluster}

lemma of_glyph {glyph : List Char} (h : Glyph glyph) (hwidth : cells glyph ≤ width) :
    Upright width ⟨glyph, cells glyph⟩ :=
  ⟨⟨glyph, [], (List.append_nil _).symm, h, rfl, by simp⟩, hwidth⟩

lemma extend (h : cluster.Upright width) {mark : Char} (hordinary : Ordinary mark)
    (hzero : charCells mark = 0) : (cluster.extend [mark] 0).Upright width := by
  obtain ⟨glyph, marks, hchars, hglyph, hwidth, hmarks⟩ := h.shape
  refine ⟨⟨glyph, marks ++ [mark], ?_, hglyph, hwidth, ?_⟩, h.fits⟩
  · rw [Cluster.extend, hchars, List.append_assoc]
  · rw [List.forall_mem_append, List.forall_mem_singleton]
    exact ⟨hmarks, hordinary, hzero⟩

end Upright

/-- What is known of clusters that a steady text is cut into: they are upright, and all but the
first take up room. -/
structure Row (width : Nat) (clusters : List Cluster) : Prop where
  upright : ∀ cluster ∈ clusters, cluster.Upright width
  positive : ∀ cluster ∈ clusters.tail, 0 < cluster.width

namespace Row

variable {width : Nat}

lemma append_singleton {clusters : List Cluster} {last : Cluster} :
    Row width (clusters ++ [last]) ↔
      Row width clusters ∧ last.Upright width ∧ (clusters ≠ [] → 0 < last.width) := by
  have hupright : (∀ cluster ∈ clusters ++ [last], cluster.Upright width) ↔
      (∀ cluster ∈ clusters, cluster.Upright width) ∧ last.Upright width := by
    rw [List.forall_mem_append, List.forall_mem_singleton]
  cases clusters with
  | nil =>
    exact ⟨fun h => ⟨⟨by simp, by simp⟩, (hupright.mp h.upright).2, by simp⟩,
      fun h => ⟨hupright.mpr ⟨by simp, h.2.1⟩, by simp⟩⟩
  | cons first others =>
    have hpositive : (∀ cluster ∈ (first :: others ++ [last]).tail, 0 < cluster.width) ↔
        (∀ cluster ∈ others, 0 < cluster.width) ∧ 0 < last.width := by
      rw [List.cons_append, List.tail_cons, List.forall_mem_append, List.forall_mem_singleton]
    constructor
    · intro h
      obtain ⟨hbefore, hlast⟩ := hupright.mp h.upright
      obtain ⟨hothers, hroom⟩ := hpositive.mp h.positive
      exact ⟨⟨hbefore, hothers⟩, hlast, fun _ => hroom⟩
    · rintro ⟨hrow, hlast, hroom⟩
      exact ⟨hupright.mpr ⟨hrow.upright, hlast⟩,
        hpositive.mpr ⟨hrow.positive, hroom (List.cons_ne_nil _ _)⟩⟩

lemma tail {cluster : Cluster} {clusters : List Cluster} (h : Row width (cluster :: clusters)) :
    Row width clusters :=
  ⟨fun other hmem => h.upright other (List.mem_cons_of_mem _ hmem),
    fun other hmem => h.positive other (List.mem_of_mem_tail hmem)⟩

end Row

end Cluster
end BinaryDiff
