import BinaryDiff.Config.Search
import BinaryDiff.Proofs.Files.Replacing

/-!
# Where the configuration file is looked for

A path that is given is the only place that is looked at, else that in the variable, and only
without both the four names in the three directories (`ConfigPlaces`).  The search comes to a place
after it found no regular file at those before (`ConfigSearch.ComesTo`), and what it answers there
depends on nothing after it (`findConfig_priority`).
-/

namespace BinaryDiff

open ConfigSearch

/-- The places where the configuration file is looked for, in their order. -/
inductive ConfigPlaces (around : Surroundings) : Option Path → List Path → Prop
  | given {path place : Path} : expandHome around path = .ok place →
      ConfigPlaces around (some path) [place]
  | environment {text : String} {place : Path} :
      around.environmentValue pathVariable = some text → text ≠ "" →
      expandHome around (Path.ofText text) = .ok place → ConfigPlaces around none [place]
  | directories : (∀ text, around.environmentValue pathVariable = some text → text = "") →
      ConfigPlaces around none (candidates around)

/-- What holds of the surroundings of a command that was started: nothing lies below a file, and the
working directory is one. -/
structure Surroundings.Sound (around : Surroundings) : Prop where
  grown : around.files.Grown
  started : around.lookup around.workingDirectory = .found .directory

section

variable {around : Surroundings} {given : Option Path} {path place : Path}
  {places before after : List Path} {location : Location}

namespace Surroundings

/-- What stands at a path is a regular file, or it is none, or the path is too long. -/
lemma regular_or_vacant_or_nameTooLong (around : Surroundings) (path : Path) :
    around.Regular path ∨ around.Vacant path ∨ around.lookup path = .nameTooLong := by
  by_cases hregular : around.Regular path
  · exact .inl hregular
  · by_cases hlong : around.lookup path = .nameTooLong
    · exact .inr (.inr hlong)
    · exact .inr (.inl ⟨hregular, hlong⟩)

lemma Regular.lookup_ne_nameTooLong (h : around.Regular path) :
    around.lookup path ≠ .nameTooLong := by
  obtain ⟨content, hfound⟩ := h
  rw [hfound]
  nofun

/-- Above a regular file there is a directory. -/
lemma Regular.hasDirectory {names : List String} (h : around.Regular (path.extend names))
    (hnames : names ≠ []) : around.HasDirectory path := by
  obtain ⟨content, hfound⟩ := h
  obtain ⟨-, hpasses, -⟩ := lookup_eq_found_iff.mp hfound
  rw [absolute_extend, FileTree.passes_append] at hpasses
  obtain ⟨habove, hbelow⟩ := hpasses
  cases names with
  | nil => exact absurd rfl hnames
  | cons name names => exact ⟨habove, hbelow.1⟩

lemma Sound.hasDirectory (h : around.Sound) : around.HasDirectory around.workingDirectory :=
  (lookup_eq_found_iff.mp h.started).2

end Surroundings

namespace ConfigSearch

/-! ### Looking at one place after the other -/

lemma isFile_of_regular (h : around.Regular path) : isFile around path = .ok true := by
  obtain ⟨content, hfound⟩ := h
  rw [isFile, hfound]

lemma isFile_of_vacant (h : around.Vacant path) : isFile around path = .ok false := by
  obtain ⟨hregular, hshort⟩ := h
  rw [isFile]
  cases hfound : around.lookup path with
  | found entry =>
    cases entry with
    | directory => rfl
    | file content => exact absurd ⟨content, hfound⟩ hregular
  | missing => rfl
  | nameTooLong => exact absurd hfound hshort

lemma isFile_of_nameTooLong (h : around.lookup path = .nameTooLong) :
    isFile around path = .error (.nameTooLong path.text) := by
  rw [isFile, h]

lemma firstFile_of_regular (h : around.Regular path) (paths : List Path) :
    firstFile around (path :: paths) = .ok (some path) := by
  rw [firstFile, isFile_of_regular h]
  rfl

lemma firstFile_of_vacant (h : around.Vacant path) (paths : List Path) :
    firstFile around (path :: paths) = firstFile around paths := by
  rw [firstFile, isFile_of_vacant h]
  rfl

lemma firstFile_of_nameTooLong (h : around.lookup path = .nameTooLong) (paths : List Path) :
    firstFile around (path :: paths) = .error (.nameTooLong path.text) := by
  rw [firstFile, isFile_of_nameTooLong h]
  rfl

/-- Whether a search through some places comes to one of them, and what it looked at before. -/
def ComesTo (around : Surroundings) (places before : List Path) (place : Path) : Prop :=
  (∃ after, places = before ++ place :: after) ∧ ∀ earlier ∈ before, around.Vacant earlier

lemma ComesTo.firstFile_eq (h : ComesTo around places before place) :
    ∃ after, firstFile around places = firstFile around (place :: after) := by
  obtain ⟨⟨after, rfl⟩, hvacant⟩ := h
  refine ⟨after, ?_⟩
  induction before with
  | nil => rfl
  | cons earlier before ih =>
    obtain ⟨hearlier, hbefore⟩ := List.forall_mem_cons.mp hvacant
    rw [List.cons_append, firstFile_of_vacant hearlier, ih hbefore]

lemma ComesTo.cons (h : ComesTo around places before place) (hpath : around.Vacant path) :
    ComesTo around (path :: places) (path :: before) place := by
  obtain ⟨⟨after, rfl⟩, hvacant⟩ := h
  exact ⟨⟨after, rfl⟩, List.forall_mem_cons.mpr ⟨hpath, hvacant⟩⟩

/-- A search finds nothing anywhere, or it comes to a regular file or a path that is too long. -/
lemma vacant_or_comesTo (around : Surroundings) (places : List Path) :
    (∀ place ∈ places, around.Vacant place) ∨ ∃ before place, ComesTo around places before place ∧
      (around.Regular place ∨ around.lookup place = .nameTooLong) := by
  induction places with
  | nil => exact .inl (List.forall_mem_nil _)
  | cons path places ih =>
    have hhere : ComesTo around (path :: places) [] path :=
      ⟨⟨places, rfl⟩, List.forall_mem_nil _⟩
    obtain hregular | hvacant | hlong := around.regular_or_vacant_or_nameTooLong path
    · exact .inr ⟨[], path, hhere, .inl hregular⟩
    · obtain hnone | ⟨before, place, hcomes, hend⟩ := ih
      · exact .inl (List.forall_mem_cons.mpr ⟨hvacant, hnone⟩)
      · exact .inr ⟨path :: before, place, hcomes.cons hvacant, hend⟩
    · exact .inr ⟨[], path, hhere, .inr hlong⟩

lemma firstFile_of_all_vacant (h : ∀ place ∈ places, around.Vacant place) :
    firstFile around places = .ok none := by
  induction places with
  | nil => rfl
  | cons place places ih =>
    obtain ⟨hplace, hplaces⟩ := List.forall_mem_cons.mp h
    rw [firstFile_of_vacant hplace, ih hplaces]

lemma ComesTo.firstFile_of_regular (h : ComesTo around places before place)
    (hregular : around.Regular place) : firstFile around places = .ok (some place) := by
  obtain ⟨after, hfirst⟩ := h.firstFile_eq
  rw [hfirst, ConfigSearch.firstFile_of_regular hregular]

lemma ComesTo.firstFile_of_nameTooLong (h : ComesTo around places before place)
    (hlong : around.lookup place = .nameTooLong) :
    firstFile around places = .error (.nameTooLong place.text) := by
  obtain ⟨after, hfirst⟩ := h.firstFile_eq
  rw [hfirst, ConfigSearch.firstFile_of_nameTooLong hlong]

/-- The first regular file is the answer, if no path before it is too long. -/
theorem firstFile_eq_some_iff :
    firstFile around places = .ok (some path) ↔
      ∃ before, ComesTo around places before path ∧ around.Regular path := by
  constructor
  · intro hfirst
    obtain hnone | ⟨before, place, hcomes, hregular | hlong⟩ := vacant_or_comesTo around places
    · rw [firstFile_of_all_vacant hnone] at hfirst
      cases hfirst
    · rw [hcomes.firstFile_of_regular hregular] at hfirst
      cases hfirst
      exact ⟨before, hcomes, hregular⟩
    · rw [hcomes.firstFile_of_nameTooLong hlong] at hfirst
      cases hfirst
  · rintro ⟨before, hcomes, hregular⟩
    exact hcomes.firstFile_of_regular hregular

/-- There is no answer if no place is a regular file or too long. -/
theorem firstFile_eq_none_iff :
    firstFile around places = .ok none ↔ ∀ place ∈ places, around.Vacant place := by
  refine ⟨fun hfirst => ?_, firstFile_of_all_vacant⟩
  obtain hnone | ⟨before, place, hcomes, hregular | hlong⟩ := vacant_or_comesTo around places
  · exact hnone
  · rw [hcomes.firstFile_of_regular hregular] at hfirst
    cases hfirst
  · rw [hcomes.firstFile_of_nameTooLong hlong] at hfirst
    cases hfirst

/-- A search fails at the first path that is too long, if no place before it is a regular file. -/
theorem firstFile_eq_error_iff {failure : ConfigFailure} :
    firstFile around places = .error failure ↔ ∃ before place,
      ComesTo around places before place ∧ around.lookup place = .nameTooLong ∧
        failure = .nameTooLong place.text := by
  constructor
  · intro hfirst
    obtain hnone | ⟨before, place, hcomes, hregular | hlong⟩ := vacant_or_comesTo around places
    · rw [firstFile_of_all_vacant hnone] at hfirst
      cases hfirst
    · rw [hcomes.firstFile_of_regular hregular] at hfirst
      cases hfirst
    · rw [hcomes.firstFile_of_nameTooLong hlong] at hfirst
      cases hfirst
      exact ⟨before, place, hcomes, hlong, rfl⟩
  · rintro ⟨before, place, hcomes, hlong, rfl⟩
    exact hcomes.firstFile_of_nameTooLong hlong

/-! ### The places in the three directories -/

/-- The names below the home directory that a configuration file can have. -/
def homeNames : List (List String) :=
  fileNames.map ([".config", "vxsig", ·]) ++ fileNames.map ([·])

lemma candidates_eq (around : Surroundings) :
    candidates around = fileNames.map (around.workingDirectory.extend [·])
      ++ homeNames.map around.homeDirectory.extend := by
  simp [candidates, directories, homeNames, Path.extend, Function.comp_def]

lemma plain_fileNames : ∀ name ∈ fileNames, FileTree.Plain name := by decide

lemma plain_homeNames : ∀ names ∈ homeNames, names ≠ [] ∧ ∀ name ∈ names, FileTree.Plain name := by
  decide

lemma anchored_of_mem_working (hsound : around.Sound)
    (h : place ∈ fileNames.map (around.workingDirectory.extend [·])) : around.Anchored place := by
  obtain ⟨name, hname, rfl⟩ := List.mem_map.mp h
  exact ⟨_, [name], rfl, hsound.hasDirectory,
    fun _ hsame => List.mem_singleton.mp hsame ▸ plain_fileNames name hname⟩

/-- The places before a regular file go down from directories that are there. -/
lemma anchored_of_mem_before (hsound : around.Sound)
    (hplaces : candidates around = before ++ path :: after) (hregular : around.Regular path)
    (h : place ∈ before) : around.Anchored place := by
  rw [candidates_eq] at hplaces
  obtain ⟨rest, rfl, hrest⟩ | ⟨rest, hworking, hrest⟩ := List.append_eq_append_iff.mp hplaces
  · -- the file is below the home directory, which is therefore there
    have hpath : path ∈ homeNames.map around.homeDirectory.extend := by
      rw [hrest]
      exact List.mem_append_right _ List.mem_cons_self
    obtain ⟨names, hnames, rfl⟩ := List.mem_map.mp hpath
    have hhome := hregular.hasDirectory (plain_homeNames names hnames).1
    obtain hworking | hbelow := List.mem_append.mp h
    · exact anchored_of_mem_working hsound hworking
    · have hplace : place ∈ homeNames.map around.homeDirectory.extend := by
        rw [hrest]
        exact List.mem_append_left _ hbelow
      obtain ⟨others, hothers, rfl⟩ := List.mem_map.mp hplace
      exact ⟨_, others, rfl, hhome, (plain_homeNames others hothers).2⟩
  · refine anchored_of_mem_working hsound ?_
    rw [hworking]
    exact List.mem_append_left _ h

/-- A name that does not begin with a tilde stands for itself. -/
lemma expandHome_of_head? {name : String} (h : name.toList.head? ≠ some '~') :
    expandHome around ⟨0, [name]⟩ = .ok ⟨0, [name]⟩ := by
  rw [expandHome]
  exact if_neg h

lemma explicit_of_environment {text : String}
    (htext : around.environmentValue pathVariable = some text) (hnonempty : text ≠ "") :
    explicit around none = some (Path.ofText text) := by
  simp [explicit, htext, hnonempty]

end ConfigSearch

namespace ConfigPlaces

lemma findConfig_eq (h : ConfigPlaces around given places) :
    findConfig around given = firstFile around places := by
  cases h with
  | given hexpand =>
    rw [findConfig, explicit]
    change (expandHome around _ >>= _) = _
    rw [hexpand]
    rfl
  | environment htext hnonempty hexpand =>
    rw [findConfig, explicit_of_environment htext hnonempty]
    change (expandHome around _ >>= _) = _
    rw [hexpand]
    rfl
  | directories hempty =>
    rw [findConfig, explicit]
    cases htext : around.environmentValue pathVariable with
    | none => rfl
    | some text =>
      cases hempty text htext
      rfl

/-- Where is looked does not depend on the files. -/
lemma put (h : ConfigPlaces around given places) (location : Location) (entry : Option Entry) :
    ConfigPlaces (around.put location entry) given places := by
  cases h with
  | given hexpand => exact .given hexpand
  | environment htext hnonempty hexpand => exact .environment htext hnonempty hexpand
  | directories hempty => exact .directories hempty

/-- What was looked at before a regular file goes down from directories that are there. -/
lemma anchored (h : ConfigPlaces around given (before ++ path :: after)) (hsound : around.Sound)
    (hregular : around.Regular path) (hplace : place ∈ before) : around.Anchored place := by
  generalize hplaces : before ++ path :: after = places at h
  cases h with
  | directories => exact anchored_of_mem_before hsound hplaces.symm hregular hplace
  | given | environment =>
    -- there is no place before the only one
    have hlength := congrArg List.length hplaces
    rw [List.length_append, List.length_cons, List.length_singleton] at hlength
    have hbefore : before = [] := List.length_eq_zero_iff.mp (by omega)
    rw [hbefore] at hplace
    cases hplace

end ConfigPlaces

/-- The configuration file is the first regular file among the places where it is looked for, and
there is none if none of them is a regular file, provided that no path that is looked at is too long
for the system.  The file that was found stays the answer whatever is made, removed or replaced
elsewhere than where the search has come to. -/
theorem findConfig_priority (h : ConfigPlaces around given places) :
    (∀ path, findConfig around given = .ok (some path) ↔
      ∃ before, ComesTo around places before path ∧ around.Regular path) ∧
    (findConfig around given = .ok none ↔ ∀ place ∈ places, around.Vacant place) ∧
    (∀ failure, findConfig around given = .error failure ↔
      ∃ before place, ComesTo around places before place ∧
        around.lookup place = .nameTooLong ∧ failure = .nameTooLong place.text) ∧
    ∀ before path, ComesTo around places before path → around.Regular path →
      (before ≠ [] → around.Sound) → ∀ location, around.files.entryAt location ≠ some .directory →
        (∀ place ∈ before ++ [path], around.resolve place ≠ location) →
          ∀ entry, findConfig (around.put location entry) given = .ok (some path) := by
  rw [h.findConfig_eq]
  refine ⟨fun path => firstFile_eq_some_iff, firstFile_eq_none_iff,
    fun failure => firstFile_eq_error_iff, ?_⟩
  rintro before path ⟨⟨after, rfl⟩, hvacant⟩ hregular hsound location hfile helsewhere entry
  rw [(h.put location entry).findConfig_eq, firstFile_eq_some_iff]
  -- after the change the search comes to the same path, past the same places
  refine ⟨before, ⟨⟨after, rfl⟩, fun place hplace => ?_⟩,
    hregular.put (helsewhere path (by simp)) hfile entry⟩
  have hsound := hsound (List.ne_nil_of_mem hplace)
  exact (h.anchored hsound hregular hplace).vacant_put hsound.grown (hvacant place hplace)
    (helsewhere place (List.mem_append_left _ hplace)) hfile entry

end

namespace Sample

/-- Surroundings with a directory in the first place where the configuration file is looked for, a
file in the second one and another in the last. -/
def twoFiles : Surroundings :=
  ⟨⟨[(["work", "vxsig.yaml"], .directory), (["work", "vxsig.yml"], .file (.bytes [])),
      (["home", ".vxsig.yml"], .file (.bytes []))]⟩,
    ⟨1, ["work"]⟩, ⟨1, ["home"]⟩, [("VXSIG_CONFIG", "")], []⟩

/-- A name that is too long. -/
def longName : String := String.ofList (List.replicate 256 'a')

/-- A path with this name. -/
def longPath : Path := ⟨0, [longName]⟩

lemma toList_longName : longName.toList = List.replicate 256 'a' := String.toList_ofList

lemma expandHome_longPath : expandHome twoFiles longPath = .ok longPath := by
  have hfirst : longName.toList.head? ≠ some '~' := by
    rw [toList_longName]
    decide
  exact expandHome_of_head? hfirst

lemma lookup_longPath : twoFiles.lookup longPath = .nameTooLong := by
  have hspeakable : Surroundings.Speakable longPath := by
    refine ⟨fun name hname => ?_, by decide +kernel⟩
    rw [List.mem_singleton.mp hname, toList_longName, List.mem_replicate]
    decide
  rw [Surroundings.lookup_of_speakable hspeakable]
  decide +kernel

end Sample

/-- In the sample the second place has the file, also when that in the last one is removed, and when
a directory is made between them. -/
theorem findConfig_priority_sample :
    ConfigPlaces Sample.twoFiles none (candidates Sample.twoFiles) ∧ Sample.twoFiles.Sound ∧
      findConfig Sample.twoFiles none = .ok (some ⟨1, ["work", "vxsig.yml"]⟩) ∧
      findConfig (Sample.twoFiles.put ["home", ".vxsig.yml"] none) none
        = .ok (some ⟨1, ["work", "vxsig.yml"]⟩) ∧
      findConfig (Sample.twoFiles.put ["home", ".config", "vxsig", "vxsig.yml"] (some .directory))
        none = .ok (some ⟨1, ["work", "vxsig.yml"]⟩) := by
  have hplaces : ConfigPlaces Sample.twoFiles none (candidates Sample.twoFiles) := by
    refine .directories fun text htext => ?_
    cases htext
    rfl
  have hsound : Sample.twoFiles.Sound := ⟨by decide, by decide⟩
  have hcomes : ComesTo Sample.twoFiles (candidates Sample.twoFiles) [⟨1, ["work", "vxsig.yaml"]⟩]
      ⟨1, ["work", "vxsig.yml"]⟩ := ⟨⟨_, rfl⟩, by decide⟩
  have hregular : Sample.twoFiles.Regular ⟨1, ["work", "vxsig.yml"]⟩ := by decide
  obtain ⟨hfound, -, -, helsewhere⟩ := findConfig_priority hplaces
  have hkept := helsewhere _ _ hcomes hregular fun _ => hsound
  exact ⟨hplaces, hsound, (hfound _).mpr ⟨_, hcomes, hregular⟩,
    hkept _ (by decide) (by decide) _, hkept _ (by decide) (by decide) _⟩

/-- A path that is given need not lead to a file for there to be no answer: if a name in it is too
long, the search fails. -/
theorem findConfig_refuses_long_name :
    expandHome Sample.twoFiles Sample.longPath = .ok Sample.longPath ∧
      ¬ Sample.twoFiles.Regular Sample.longPath ∧
      findConfig Sample.twoFiles (some Sample.longPath)
        = .error (.nameTooLong Sample.longPath.text) := by
  refine ⟨Sample.expandHome_longPath, ?_, ?_⟩
  · exact fun hregular => hregular.lookup_ne_nameTooLong Sample.lookup_longPath
  · rw [ConfigPlaces.findConfig_eq (.given Sample.expandHome_longPath),
      firstFile_of_nameTooLong Sample.lookup_longPath]

end BinaryDiff
