import BinaryDiff.Proofs.Config.Bounds

/-!
# Files that are no mappings

A configuration file that is found and can be read is judged by its document alone.  A mapping is
checked after its variables were put in, and is never complained about for what it is.  Of all other
documents the blank ones are passed over, as if there were no file: not only null, but also false, a
zero and whatever is empty.  What remains is rejected with a complaint that names the file
(`loadConfig_judges`).
-/

namespace BinaryDiff

namespace Document

/-- The documents that are mappings. -/
def IsMapping (document : Document) : Prop := ∃ members, document = mapping members

/-- The documents that are passed over: null, false, the zeros and whatever is empty. -/
inductive Blank : Document → Prop
  | null : Blank (scalar .null)
  | false : Blank (scalar (.bool false))
  | integer : Blank (scalar (.int 0))
  | real (negative : Bool) : Blank (scalar (.real (.finite negative 0)))
  | text : Blank (scalar (.text ""))
  | bytes : Blank (scalar (.bytes []))
  | list : Blank (list [])
  | mapping : Blank (mapping [])
  | set : Blank (set [])

lemma isEmpty_iff_blank {document : Document} : document.isEmpty ↔ document.Blank := by
  constructor
  · intro h
    cases document with
    | scalar value =>
      cases value with
      | null => exact .null
      | bool value =>
        cases value with
        | false => exact .false
        | true => cases h
      | int value =>
        cases (show value = 0 by simpa [isEmpty] using h)
        exact .integer
      | real value =>
        cases value with
        | finite negative units =>
          cases (show units = 0 by simpa [isEmpty] using h)
          exact .real negative
        | notANumber | infinity => cases h
      | text value =>
        cases (show value = "" by simpa [isEmpty] using h)
        exact .text
      | bytes value =>
        cases (show value = [] by simpa [isEmpty] using h)
        exact .bytes
      | date | moment => cases h
    | list items =>
      cases (show items = [] by simpa [isEmpty] using h)
      exact .list
    | mapping members =>
      cases (show members = [] by simpa [isEmpty] using h)
      exact .mapping
    | set items =>
      cases (show items = [] by simpa [isEmpty] using h)
      exact .set
    | entry | cycle => cases h
  · rintro ⟨⟩ <;> rfl

end Document

/-- Whether the configuration file is found at a path and can be read, and which document it holds;
a file without any holds null. -/
inductive ConfigFile (around : Surroundings) (given : Option Path) (path : Path) :
    Document → Prop
  | intro {content : Content} {text : String} {held : Option Document} :
      findConfig around given = .ok (some path) →
      around.lookup path = .found (.file content) →
      ConfigLoad.readText content = .ok text →
      ConfigLoad.readDocument text = .ok held →
      ConfigFile around given path (held.getD (.scalar .null))

section

variable {around : Surroundings} {given : Option Path} {path : Path} {document : Document}

namespace ConfigLoad

/-- What becomes of a document that is not passed over. -/
def judge (environment : Interpolation.Environment) (path : String) :
    Document → Except ConfigFailure Settings
  | .mapping members =>
    if Interpolation.endless (.mapping members) then .error .endless
    else settings environment (.mapping members)
  | other => .error (.notAMapping path other.typeName)

lemma judge_of_not_isMapping {environment : Interpolation.Environment} {path : String}
    (h : ¬ document.IsMapping) :
    judge environment path document = .error (.notAMapping path document.typeName) := by
  cases document with
  | mapping members => exact absurd ⟨members, rfl⟩ h
  | scalar | list | entry | set | cycle => rfl

lemma ofText_eq {environment : Interpolation.Environment} {path text : String}
    {held : Option Document} (h : readDocument text = .ok held) :
    ofText environment path text
      = if (held.getD (.scalar .null)).isEmpty then .ok .default
        else judge environment path (held.getD (.scalar .null)) := by
  rw [ofText, h]
  cases held with
  | none => rfl
  | some document =>
    cases document with
    | mapping members => rfl
    | scalar | list | entry | set | cycle => rfl

/-- An empty mapping stands for the defaults. -/
lemma settings_mapping_nil (environment : Interpolation.Environment) :
    settings environment (.mapping []) = .ok .default := by
  have hparts : Settings.default.OfParts [] [] := ⟨.missing, .missing, .missing, .missing⟩
  rw [settings, Interpolation.walk_mapping, List.map_nil,
    Settings.ofDocument_eq_ok_iff.mpr ⟨[], [], rfl, rfl, hparts⟩]

/-- A mapping fails by its values, or because it contains itself, but not for what it is. -/
lemma judge_mapping_ne_notAMapping {environment : Interpolation.Environment} {path shown : String}
    {typeName : String} (members : List (Scalar × Document)) :
    judge environment path (.mapping members) ≠ .error (.notAMapping shown typeName) := by
  rw [judge]
  split
  · simp
  · rw [settings]
    split <;> simp

end ConfigLoad

/-- The scalar that was read, if the document is one. -/
def ConfigLoad.scalar? : Except ConfigFailure (Option Document) → Option Scalar
  | .ok (some (.scalar value)) => some value
  | _ => none

lemma ConfigLoad.eq_of_scalar? {outcome : Except ConfigFailure (Option Document)} {value : Scalar}
    (h : scalar? outcome = some value) : outcome = .ok (some (.scalar value)) := by
  unfold scalar? at h
  split at h
  · cases h
    rfl
  · cases h

namespace ConfigFile

lemma loadConfig_eq (h : ConfigFile around given path document) :
    loadConfig around given
      = if document.isEmpty then .ok .default
        else ConfigLoad.judge around.environmentValue path.text document := by
  obtain ⟨hfind, hlookup, htext, hread⟩ := h
  rw [loadConfig, hfind]
  simp only [bind, Except.bind, hlookup, htext]
  exact ConfigLoad.ofText_eq hread

lemma loadConfig_of_blank (h : ConfigFile around given path document) (hblank : document.Blank) :
    loadConfig around given = .ok .default := by
  rw [h.loadConfig_eq, if_pos (Document.isEmpty_iff_blank.mpr hblank)]

lemma loadConfig_of_not_blank (h : ConfigFile around given path document)
    (hblank : ¬ document.Blank) :
    loadConfig around given = ConfigLoad.judge around.environmentValue path.text document := by
  rw [h.loadConfig_eq, if_neg (Document.isEmpty_iff_blank.not.mpr hblank)]

lemma loadConfig_of_mapping {members : List (Scalar × Document)}
    (h : ConfigFile around given path (.mapping members)) :
    loadConfig around given
      = if Interpolation.endless (.mapping members) then .error .endless
        else ConfigLoad.settings around.environmentValue (.mapping members) := by
  cases members with
  | nil =>
    rw [h.loadConfig_of_blank .mapping, ConfigLoad.settings_mapping_nil]
    rfl
  | cons member members => exact h.loadConfig_of_not_blank nofun

end ConfigFile

/-- A configuration file that is found and can be read is rejected by its name, with the type of its
document, exactly if this is neither a mapping nor blank.  A blank one is passed over in favour of
the defaults.  A mapping gives what its values stand for after variables were put in, unless it
contains itself and this never ends. -/
theorem loadConfig_judges (h : ConfigFile around given path document) :
    (¬ document.IsMapping → ¬ document.Blank → ∃ failure,
      loadConfig around given = .error failure ∧ failure.name = "ValueError" ∧
        failure.text = some
          s!"Config file {path.text} must contain a mapping, got {document.typeName}") ∧
    (document.Blank → loadConfig around given = .ok .default) ∧
    (document.IsMapping → loadConfig around given
      = if Interpolation.endless document then .error .endless
        else ConfigLoad.settings around.environmentValue document) ∧
    ∀ shown typeName, loadConfig around given = .error (.notAMapping shown typeName) ↔
      ¬ document.IsMapping ∧ ¬ document.Blank ∧ shown = path.text ∧
        typeName = document.typeName := by
  have hrejected : ¬ document.IsMapping → ¬ document.Blank →
      loadConfig around given = .error (.notAMapping path.text document.typeName) :=
    fun hmapping hblank =>
      (h.loadConfig_of_not_blank hblank).trans (ConfigLoad.judge_of_not_isMapping hmapping)
  refine ⟨fun hmapping hblank => ⟨_, hrejected hmapping hblank, rfl, rfl⟩,
    h.loadConfig_of_blank, ?_, fun shown typeName => ⟨fun hfailed => ?_, ?_⟩⟩
  · rintro ⟨members, rfl⟩
    exact h.loadConfig_of_mapping
  · have hblank : ¬ document.Blank := by
      intro hblank
      rw [h.loadConfig_of_blank hblank] at hfailed
      cases hfailed
    have hmapping : ¬ document.IsMapping := by
      rintro ⟨members, rfl⟩
      rw [h.loadConfig_of_not_blank hblank] at hfailed
      exact ConfigLoad.judge_mapping_ne_notAMapping members hfailed
    rw [hrejected hmapping hblank] at hfailed
    cases hfailed
    exact ⟨hmapping, hblank, rfl, rfl⟩
  · rintro ⟨hmapping, hblank, rfl, rfl⟩
    exact hrejected hmapping hblank

end

namespace Sample

/-- The configuration file in the working directory of a sample. -/
def configPath : Path := ⟨1, ["vxsig.yaml"]⟩

lemma configFile {text : String} {value : Scalar}
    (hread : ConfigLoad.scalar? (ConfigLoad.readDocument text) = some value)
    (htext : (ConfigLoad.readText (.bytes text.toUTF8.data.toList)).toOption = some text) :
    ConfigFile (Context.Sample.around text) none configPath (.scalar value) :=
  .intro rfl rfl (Except.eq_ok_of_toOption htext) (ConfigLoad.eq_of_scalar? hread)

end Sample

/-- In the sample the file holds a day of the calendar, which is rejected. -/
theorem loadConfig_judges_sample :
    ConfigFile (Context.Sample.around "2024-01-31") none Sample.configPath
        (.scalar (.date 2024 1 31)) ∧
      ¬ (Document.scalar (.date 2024 1 31)).IsMapping ∧
      ¬ (Document.scalar (.date 2024 1 31)).Blank ∧
      ∃ failure, loadConfig (Context.Sample.around "2024-01-31") none = .error failure ∧
        failure.name = "ValueError" ∧
        failure.text = some "Config file /vxsig.yaml must contain a mapping, got date" := by
  have hfile := Sample.configFile
    (show ConfigLoad.scalar? (ConfigLoad.readDocument "2024-01-31") = some (.date 2024 1 31) by
      decide +kernel) (by decide +kernel)
  have hmapping : ¬ (Document.scalar (.date 2024 1 31)).IsMapping := nofun
  exact ⟨hfile, hmapping, nofun, (loadConfig_judges hfile).1 hmapping nofun⟩

/-- A file that holds the truth value false is not rejected, but passed over. -/
theorem loadConfig_ignores_false :
    ∃ document, ConfigFile (Context.Sample.around "false") none Sample.configPath document ∧
      ¬ document.IsMapping ∧ document ≠ .scalar .null ∧ document.typeName = "bool" ∧
      loadConfig (Context.Sample.around "false") none = .ok .default := by
  have hfile := Sample.configFile
    (show ConfigLoad.scalar? (ConfigLoad.readDocument "false") = some (.bool false) by
      decide +kernel) (by decide +kernel)
  exact ⟨_, hfile, nofun, nofun, rfl, hfile.loadConfig_of_blank .false⟩

end BinaryDiff
