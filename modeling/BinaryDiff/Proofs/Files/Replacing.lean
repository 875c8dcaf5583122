import BinaryDiff.Files.FileTree
import Mathlib.Data.List.Infix
import Mathlib.Tactic.Common

/-!
# Changes of a single file

A walk along a path comes to an entry exactly if it meets only directories on its way, and no name
that is too long (`FileTree.walk_eq_found_iff`).  When something else is put in the place of a file,
or nothing, what stands elsewhere stays as it is; only directories may be made around the place
(`FileTree.entryAt_put`).  So a path that led to a regular file elsewhere still leads there
(`Surroundings.Regular.put`).  One that led to none still leads to none if it goes down from a
directory that is there and nothing lies below a file (`Surroundings.Anchored.vacant_put`).
-/

namespace BinaryDiff

/-- A proper beginning of a list is one of all but its last item. -/
lemma prefix_dropLast_iff {α : Type} {items others : List α} (h : others ≠ items) :
    others <+: items.dropLast ↔ others <+: items := by
  refine ⟨fun hprefix => hprefix.trans (List.dropLast_prefix items), ?_⟩
  rintro ⟨rest, rfl⟩
  have hrest : rest ≠ [] := by
    rintro rfl
    exact h (List.append_nil others).symm
  rw [List.dropLast_append_of_ne_nil hrest]
  exact List.prefix_append _ _

/-- Leaving out the entries of one key does not change what is found under another. -/
lemma find?_filter_key {α β : Type} [BEq α] [LawfulBEq α] {key other : α} (h : other ≠ key)
    (entries : List (α × β)) :
    (entries.filter (·.1 != key)).find? (·.1 == other) = entries.find? (·.1 == other) := by
  rw [List.find?_filter]
  congr 1
  funext entry
  by_cases hentry : entry.1 = other
  · simp [hentry, h]
  · simp [hentry]

namespace FileTree

variable {tree : FileTree} {location other : Location} {names : List String}

/-- The tree after something was put in the place of what stood at a location, or nothing.  The
directory around it is there in any case. -/
def put (tree : FileTree) (location : Location) (entry : Option Entry) : FileTree :=
  ⟨entry.toList.map (Prod.mk location) ++ tree.entries.filter (·.1 != location)
    ++ [(location.dropLast, .directory)]⟩

/-- Whether nothing lies below a file. -/
def Grown (tree : FileTree) : Prop :=
  ∀ entry ∈ tree.entries, ∀ above, above <+: entry.1 → above ≠ entry.1 →
    tree.entryAt above = some .directory

instance (tree : FileTree) : Decidable tree.Grown :=
  decidable_of_iff (∀ entry ∈ tree.entries, ∀ above ∈ entry.1.inits, above ≠ entry.1 →
    tree.entryAt above = some .directory) (by simp only [Grown, List.mem_inits])

/-- The location that a name leads to from another one. -/
def step (location : Location) (name : String) : Location :=
  if name = ".." then location.dropLast else location ++ [name]

/-- The location that some names lead to. -/
def follow (location : Location) (names : List String) : Location := names.foldl step location

/-- Whether a walk along some names meets only directories before its end, and no name that is too
long. -/
def Passes (tree : FileTree) : Location → List String → Prop
  | _, [] => True
  | location, name :: names =>
    tree.entryAt location = some .directory ∧
      (name = ".." ∨ name.utf8ByteSize ≤ longestName) ∧ Passes tree (step location name) names

/-- Whether a name goes down one step, and is not too long for that. -/
def Plain (name : String) : Prop := name ≠ ".." ∧ name.utf8ByteSize ≤ longestName

instance (name : String) : Decidable (Plain name) := inferInstanceAs (Decidable (_ ∧ _))

/-! ### Walks -/

@[simp] lemma follow_nil (location : Location) : follow location [] = location := rfl

@[simp] lemma follow_cons (location : Location) (name : String) (names : List String) :
    follow location (name :: names) = follow (step location name) names := rfl

lemma follow_append (location : Location) (names others : List String) :
    follow location (names ++ others) = follow (follow location names) others :=
  List.foldl_append

lemma follow_of_plain (h : ∀ name ∈ names, Plain name) (location : Location) :
    follow location names = location ++ names := by
  induction names generalizing location with
  | nil => exact (List.append_nil location).symm
  | cons name names ih =>
    obtain ⟨hname, hnames⟩ := List.forall_mem_cons.mp h
    rw [follow_cons, step, if_neg hname.1, ih hnames, List.append_assoc]
    rfl

lemma passes_append {others : List String} :
    tree.Passes location (names ++ others) ↔
      tree.Passes location names ∧ tree.Passes (follow location names) others := by
  induction names generalizing location with
  | nil => simp [Passes]
  | cons name names ih =>
    rw [List.cons_append, Passes, ih, Passes, follow_cons, and_assoc, and_assoc]

/-- A walk goes from a directory to the location that a name leads to. -/
lemma walk_cons {name : String} (hdirectory : tree.entryAt location = some .directory)
    (hname : name = ".." ∨ name.utf8ByteSize ≤ longestName) (names : List String) :
    tree.walk location (name :: names) = tree.walk (step location name) names := by
  rw [walk, if_neg (not_not_intro hdirectory), step]
  split
  · rfl
  · rename_i hdown
    rw [if_neg (Nat.not_lt.mpr (hname.resolve_left hdown))]

lemma walk_append (h : tree.Passes location names) (others : List String) :
    tree.walk location (names ++ others) = tree.walk (follow location names) others := by
  induction names generalizing location with
  | nil => rfl
  | cons name names ih =>
    obtain ⟨hdirectory, hname, hrest⟩ := h
    rw [List.cons_append, walk_cons hdirectory hname, follow_cons, ih hrest]

/-- A walk comes to what stands at the location that its names lead to, if it passes. -/
theorem walk_eq_found_iff {entry : Entry} :
    tree.walk location names = .found entry ↔
      tree.Passes location names ∧ tree.entryAt (follow location names) = some entry := by
  induction names generalizing location with
  | nil =>
    rw [walk, Passes, follow_nil]
    cases tree.entryAt location <;> simp
  | cons name names ih =>
    -- a walk that does not pass ends where it does not, so it comes to no entry
    rw [Passes, follow_cons, and_assoc, and_assoc, ← ih]
    by_cases hdirectory : tree.entryAt location = some .directory
    · by_cases hname : name = ".." ∨ name.utf8ByteSize ≤ longestName
      · rw [walk_cons hdirectory hname]
        simp [hdirectory, hname]
      · obtain ⟨hdown, hlong⟩ := not_or.mp hname
        simp [walk, hdirectory, hdown, hlong, Nat.not_le.mp hlong]
    · simp [walk, hdirectory]

lemma walk_ne_nameTooLong (h : ∀ name ∈ names, Plain name) :
    tree.walk location names ≠ .nameTooLong := by
  induction names generalizing location with
  | nil =>
    rw [walk]
    split <;> simp
  | cons name names ih =>
    obtain ⟨⟨-, hshort⟩, hnames⟩ := List.forall_mem_cons.mp h
    by_cases hdirectory : tree.entryAt location = some .directory
    · rw [walk_cons hdirectory (.inr hshort)]
      exact ih hnames
    · simp [walk, hdirectory]

lemma mem_of_entryAt_eq_file {content : Content}
    (h : tree.entryAt location = some (.file content)) :
    (location, .file content) ∈ tree.entries := by
  rw [entryAt] at h
  split at h
  · rename_i found entry hfind
    cases h
    have hsame : found = location := by simpa using List.find?_some hfind
    rw [← hsame]
    exact List.mem_of_find?_eq_some hfind
  · split at h <;> cases h

/-- To a file there is always a way down. -/
lemma Grown.passes (hgrown : tree.Grown) {content : Content} (hplain : ∀ name ∈ names, Plain name)
    (h : tree.entryAt (location ++ names) = some (.file content)) :
    tree.Passes location names := by
  induction names generalizing location with
  | nil => exact trivial
  | cons name names ih =>
    obtain ⟨⟨hup, hshort⟩, hnames⟩ := List.forall_mem_cons.mp hplain
    rw [List.append_cons] at h
    rw [Passes, step, if_neg hup]
    refine ⟨?_, .inr hshort, ih hnames h⟩
    -- the file lies below this location
    rw [List.append_assoc] at h
    exact hgrown _ (mem_of_entryAt_eq_file h) location (List.prefix_append _ _) (by simp)

/-! ### What stands elsewhere -/

lemma entryAt_eq (tree : FileTree) (location : Location) :
    tree.entryAt location = ((tree.entries.find? (·.1 == location)).map Prod.snd).or
      (if ∃ entry ∈ tree.entries, location <+: entry.1 then some .directory else none) := by
  rw [entryAt]
  cases tree.entries.find? (·.1 == location) with
  | some found => rfl
  | none =>
    simp only [List.any_eq_true, List.isPrefixOf_iff_prefix, Option.map_none, Option.none_or]

/-- What was put somewhere else is not found, except for the directory around it. -/
lemma find?_entries_put (h : other ≠ location) (entry : Option Entry) :
    (tree.put location entry).entries.find? (·.1 == other)
      = (tree.entries.find? (·.1 == other)).or
          (if location.dropLast = other then some (location.dropLast, .directory) else none) := by
  have hadded : (entry.toList.map (Prod.mk location)).find? (·.1 == other) = none := by
    cases entry <;> simp [h.symm]
  rw [put, List.find?_append, List.find?_append, hadded, find?_filter_key h, Option.none_or]
  by_cases hparent : location.dropLast = other <;> simp [hparent]

/-- Something lies below a place if it did before, or if the place is on the way to the new one. -/
lemma exists_below_put (h : other ≠ location) (entry : Option Entry) :
    (∃ below ∈ (tree.put location entry).entries, other <+: below.1) ↔
      (∃ below ∈ tree.entries, other <+: below.1) ∨ other <+: location := by
  simp only [put, List.mem_append, List.mem_singleton, List.mem_filter, bne_iff_ne]
  constructor
  · rintro ⟨below, (hadded | ⟨hmem, -⟩) | rfl, hprefix⟩
    · obtain ⟨_, _, rfl⟩ := List.mem_map.mp hadded
      exact .inr hprefix
    · exact .inl ⟨below, hmem, hprefix⟩
    · exact .inr ((prefix_dropLast_iff h).mp hprefix)
  · rintro (⟨below, hmem, hprefix⟩ | hprefix)
    · by_cases hsame : below.1 = location
      · rw [hsame] at hprefix
        exact ⟨_, .inr rfl, (prefix_dropLast_iff h).mpr hprefix⟩
      · exact ⟨below, .inl (.inr ⟨hmem, hsame⟩), hprefix⟩
    · exact ⟨_, .inr rfl, (prefix_dropLast_iff h).mpr hprefix⟩

/-- What stands elsewhere stays, and directories are made around what is new. -/
theorem entryAt_put (h : other ≠ location) (entry : Option Entry) :
    (tree.put location entry).entryAt other
      = (tree.entryAt other).or (if other <+: location then some .directory else none) := by
  -- an entry of its own decides, and without one what lies below
  rw [entryAt_eq, entryAt_eq, find?_entries_put h, Option.or_assoc]
  simp only [exists_below_put h]
  cases tree.entries.find? (·.1 == other) with
  | some found => rfl
  | none =>
    by_cases hprefix : other <+: location
    · by_cases hparent : location.dropLast = other <;>
        by_cases hthere : ∃ below ∈ tree.entries, other <+: below.1 <;>
          simp [hparent, hprefix, hthere]
    · have hparent : location.dropLast ≠ other := by
        rintro rfl
        exact hprefix (List.dropLast_prefix location)
      by_cases hthere : ∃ below ∈ tree.entries, other <+: below.1 <;>
        simp [hparent, hprefix, hthere]

lemma entryAt_put_of_some {entry : Entry} (h : other ≠ location)
    (hentry : tree.entryAt other = some entry) (new : Option Entry) :
    (tree.put location new).entryAt other = some entry := by
  rw [entryAt_put h, hentry, Option.some_or]

lemma entryAt_of_put_eq_file {content : Content} (h : other ≠ location) {new : Option Entry}
    (hfile : (tree.put location new).entryAt other = some (.file content)) :
    tree.entryAt other = some (.file content) := by
  rw [entryAt_put h] at hfile
  cases hentry : tree.entryAt other with
  | some entry => rwa [hentry] at hfile
  | none =>
    rw [hentry, Option.none_or] at hfile
    split at hfile <;> cases hfile

/-- A walk does not pass a place at which there is no directory. -/
lemma Passes.put {place : Location} (h : tree.Passes location names)
    (hplace : tree.entryAt place ≠ some .directory) (new : Option Entry) :
    (tree.put place new).Passes location names := by
  induction names generalizing location with
  | nil => exact trivial
  | cons name names ih =>
    obtain ⟨hdirectory, hname, hrest⟩ := h
    have hother : location ≠ place := by
      rintro rfl
      exact hplace hdirectory
    exact ⟨entryAt_put_of_some hother hdirectory new, hname, ih hrest⟩

end FileTree

namespace Surroundings

variable {around : Surroundings} {path : Path} {location : Location}

/-- Whether there is a regular file at a path. -/
def Regular (around : Surroundings) (path : Path) : Prop :=
  ∃ content, around.lookup path = .found (.file content)

instance (around : Surroundings) (path : Path) : Decidable (around.Regular path) :=
  match hfound : around.lookup path with
  | .found (.file content) => .isTrue ⟨content, hfound⟩
  | .found .directory | .missing | .nameTooLong =>
    .isFalse fun ⟨_, h⟩ => nomatch hfound.symm.trans h

/-- Whether it can be told that there is no regular file at a path. -/
def Vacant (around : Surroundings) (path : Path) : Prop :=
  ¬ around.Regular path ∧ around.lookup path ≠ .nameTooLong

instance (around : Surroundings) (path : Path) : Decidable (around.Vacant path) :=
  inferInstanceAs (Decidable (_ ∧ _))

/-- The surroundings with something else, or nothing, at a location. -/
def put (around : Surroundings) (location : Location) (entry : Option Entry) : Surroundings :=
  { around with files := around.files.put location entry }

/-- Whether a walk to a path passes and comes to a directory. -/
def HasDirectory (around : Surroundings) (path : Path) : Prop :=
  around.files.Passes [] (around.absolute path).parts ∧
    around.files.entryAt (around.resolve path) = some .directory

/-- Whether a path goes down from a directory that is there. -/
def Anchored (around : Surroundings) (path : Path) : Prop :=
  ∃ directory names, path = directory.extend names ∧ around.HasDirectory directory ∧
    ∀ name ∈ names, FileTree.Plain name

/-- Whether the system can look a path up: there is no zero character in it, and it is not too
long. -/
def Speakable (path : Path) : Prop :=
  (∀ name ∈ path.parts, Char.ofNat 0 ∉ name.toList) ∧ path.text.utf8ByteSize ≤ FileTree.longestPath

/-! ### Lookups -/

lemma resolve_eq_follow (around : Surroundings) (path : Path) :
    around.resolve path = FileTree.follow [] (around.absolute path).parts := rfl

lemma absolute_extend (around : Surroundings) (path : Path) (names : List String) :
    (around.absolute (path.extend names)).parts = (around.absolute path).parts ++ names := by
  by_cases habsolute : path.isAbsolute
  · have hextended : (path.extend names).isAbsolute = true := habsolute
    rw [absolute, absolute, if_pos habsolute, if_pos hextended, Path.extend]
  · have hextended : ¬ (path.extend names).isAbsolute = true := habsolute
    rw [absolute, absolute, if_neg habsolute, if_neg hextended, Path.extend, Path.extend,
      Path.extend, List.append_assoc]

lemma resolve_extend {names : List String} (h : ∀ name ∈ names, FileTree.Plain name)
    (around : Surroundings) (path : Path) :
    around.resolve (path.extend names) = around.resolve path ++ names := by
  rw [resolve_eq_follow, absolute_extend, FileTree.follow_append, FileTree.follow_of_plain h,
    ← resolve_eq_follow]

lemma lookup_of_speakable (h : Speakable path) :
    around.lookup path = around.files.walk [] (around.absolute path).parts := by
  have hzero : (path.parts.any fun name => name.toList.contains (Char.ofNat 0)) = false := by
    simpa [List.any_eq_false, List.contains_iff_mem] using h.1
  rw [lookup, hzero, if_neg Bool.false_ne_true, if_neg (Nat.not_lt.mpr h.2)]

/-- What comes of a path that the system does not look up has nothing to do with the files. -/
lemma lookup_of_not_speakable (h : ¬ Speakable path) :
    around.lookup path = if path.parts.any fun name => name.toList.contains (Char.ofNat 0)
      then .missing else .nameTooLong := by
  rw [lookup]
  split
  · rfl
  · rename_i hzero
    have hlong : FileTree.longestPath < path.text.utf8ByteSize := by
      by_contra hshort
      refine h ⟨?_, Nat.not_lt.mp hshort⟩
      simpa [List.any_eq_false, List.contains_iff_mem] using hzero
    rw [if_pos hlong]

/-- What stands at a path is found if the walk to it passes. -/
lemma lookup_eq_found_iff {entry : Entry} :
    around.lookup path = .found entry ↔ Speakable path ∧
      around.files.Passes [] (around.absolute path).parts ∧
        around.files.entryAt (around.resolve path) = some entry := by
  by_cases hspeakable : Speakable path
  · rw [lookup_of_speakable hspeakable, FileTree.walk_eq_found_iff, ← resolve_eq_follow]
    exact (and_iff_right hspeakable).symm
  · refine iff_of_false (fun hfound => ?_) fun h => hspeakable h.1
    rw [lookup_of_not_speakable hspeakable] at hfound
    split at hfound <;> cases hfound

/-! ### Other places -/

/-- A path that leads to a regular file leads there whatever becomes of other files. -/
theorem Regular.put (h : around.Regular path) (hlocation : around.resolve path ≠ location)
    (hfile : around.files.entryAt location ≠ some .directory) (entry : Option Entry) :
    (around.put location entry).Regular path := by
  obtain ⟨content, hfound⟩ := h
  obtain ⟨hspeakable, hpasses, hentry⟩ := lookup_eq_found_iff.mp hfound
  exact ⟨content, lookup_eq_found_iff.mpr ⟨hspeakable, hpasses.put hfile entry,
    FileTree.entryAt_put_of_some hlocation hentry entry⟩⟩

/-- A path that goes down from a directory to no regular file does so whatever becomes of other
files. -/
theorem Anchored.vacant_put (h : around.Anchored path) (hgrown : around.files.Grown)
    (hvacant : around.Vacant path) (hlocation : around.resolve path ≠ location)
    (hfile : around.files.entryAt location ≠ some .directory) (entry : Option Entry) :
    (around.put location entry).Vacant path := by
  obtain ⟨directory, names, rfl, ⟨hpasses, -⟩, hplain⟩ := h
  obtain ⟨hregular, hshort⟩ := hvacant
  constructor
  · rintro ⟨content, hfound⟩
    obtain ⟨hspeakable, -, hentry⟩ := lookup_eq_found_iff.mp hfound
    have hthere := FileTree.entryAt_of_put_eq_file hlocation hentry
    refine hregular ⟨content, lookup_eq_found_iff.mpr ⟨hspeakable, ?_, hthere⟩⟩
    rw [resolve_extend hplain] at hthere
    rw [absolute_extend, FileTree.passes_append]
    exact ⟨hpasses, hgrown.passes hplain hthere⟩
  · intro hlong
    by_cases hspeakable : Speakable (directory.extend names)
    · rw [lookup_of_speakable hspeakable] at hlong
      change (around.files.put location entry).walk []
        (around.absolute (directory.extend names)).parts = _ at hlong
      rw [absolute_extend, FileTree.walk_append (hpasses.put hfile entry)] at hlong
      exact FileTree.walk_ne_nameTooLong hplain hlong
    · -- then the path is too long, or has a zero character, whatever the files are
      rw [lookup_of_not_speakable hspeakable, ← lookup_of_not_speakable hspeakable] at hlong
      exact hshort hlong

end Surroundings
end BinaryDiff
