import BinaryDiff.Proofs.Config.Sharing
import BinaryDiff.Proofs.Config.Walking
import BinaryDiff.Proofs.Delivery.Bounds

/-!
# The bounds of the settings

A document gives settings exactly if it and its sections are mappings and every field that is given
stands for a value within its bounds; a section that is missing counts as an empty one, and a field
that is not given has its default (`Settings.ofDocument_eq_ok_iff`).  So the address width is from 8
to 64 and the time to wait above zero in whatever way a configuration is obtained, and what is read
with such a configuration has addresses of at most 64 bits (`settings_keep_bounds`).
-/

namespace BinaryDiff

/-- The doubles above zero. -/
inductive Binary64.Positive : Binary64 → Prop
  | infinity : Positive (.infinity false)
  | finite {units : Nat} : 0 < units → Positive (.finite false units)

lemma Binary64.isPositive_iff {number : Binary64} : number.isPositive ↔ number.Positive := by
  constructor
  · intro h
    match number, h with
    | .infinity false, _ => exact .infinity
    | .finite false units, h =>
      simp only [isPositive, Bool.not_false, Bool.true_and, bne_iff_ne] at h
      exact .finite (Nat.pos_of_ne_zero h)
  · rintro (_ | @⟨units, hunits⟩)
    · rfl
    · simpa [isPositive] using Nat.pos_iff_ne_zero.mp hunits

/-- The bounds of the settings for reading. -/
structure ReaderSettings.Bounded (settings : ReaderSettings) : Prop where
  least : 8 ≤ settings.addressWidth
  greatest : settings.addressWidth ≤ 64
  timeout : settings.timeout.Positive

namespace Document

/-- The members of a section, of which a section that is missing has none. -/
def part? (document : Document) (name : String) : Option (List (Scalar × Document)) :=
  match document with
  | mapping members =>
    match member? members name with
    | none => some []
    | some (mapping fields) => some fields
    | some _ => none
  | _ => none

/-- What a document says of a field of a section, if it says anything. -/
def given? (document : Document) (part name : String) : Option Document :=
  (document.part? part).bind fun fields => member? fields name

end Document

open Document

/-- The value of a field for what is said of it: its default if nothing is, and else what that
stands for. -/
inductive Filled {α : Type} (default : α) (read : Document → Except Flaw α) :
    Option Document → α → Prop
  | missing : Filled default read none default
  | given {document : Document} {value : α} : read document = .ok value →
      Filled default read (some document) value

namespace Settings

/-- Whether settings are what two sections say. -/
structure OfParts (reader logging : List (Scalar × Document)) (settings : Settings) : Prop where
  width : Filled ReaderSettings.default.addressWidth Coercion.addressWidth
    (member? reader "address_width") settings.reader.addressWidth
  timeout : Filled ReaderSettings.default.timeout Coercion.timeout
    (member? reader "timeout_seconds") settings.reader.timeout
  level : Filled LogSettings.default.level Coercion.text (member? logging "level")
    settings.logging.level
  json : Filled LogSettings.default.json Coercion.truth (member? logging "json_output")
    settings.logging.json

/-- Whether the fields that a document does not give have their defaults. -/
structure KeepsDefaults (document : Document) (settings : Settings) : Prop where
  width : document.given? "reader" "address_width" = none → settings.reader.addressWidth = 64
  timeout : document.given? "reader" "timeout_seconds" = none → settings.reader.timeout = .ofInt 5
  level : document.given? "logging" "level" = none → settings.logging.level = "INFO"
  json : document.given? "logging" "json_output" = none → settings.logging.json = false

end Settings

/-! ### Fields -/

namespace Coercion

lemma addressWidth_eq_ok_iff {value : Document} {width : Int} :
    addressWidth value = .ok width ↔ integer value = .ok width ∧ 8 ≤ width ∧ width ≤ 64 := by
  rw [addressWidth]
  cases integer value with
  | error flaw => simp [bind, Except.bind]
  | ok number =>
    have hleast : ReaderSettings.leastWidth = 8 := rfl
    have hgreatest : ReaderSettings.greatestWidth = 64 := rfl
    simp only [bind, Except.bind]
    split
    · simp only [reduceCtorEq, Except.ok.injEq, false_iff]
      omega
    · split
      · simp only [reduceCtorEq, Except.ok.injEq, false_iff]
        omega
      · simp only [pure, Except.pure, Except.ok.injEq]
        omega

lemma timeout_eq_ok_iff {value : Document} {seconds : Binary64} :
    timeout value = .ok seconds ↔ number value = .ok seconds ∧ seconds.Positive := by
  rw [timeout]
  cases number value with
  | error flaw => simp [bind, Except.bind]
  | ok number =>
    simp only [bind, Except.bind]
    split
    · rename_i hpositive
      simp only [pure, Except.pure, Except.ok.injEq]
      refine ⟨?_, And.left⟩
      rintro rfl
      exact ⟨rfl, Binary64.isPositive_iff.mp hpositive⟩
    · rename_i hpositive
      simp only [reduceCtorEq, Except.ok.injEq, false_iff]
      rintro ⟨rfl, h⟩
      exact hpositive (Binary64.isPositive_iff.mpr h)

end Coercion

namespace Checked

variable {α : Type}

lemma toExcept_eq_ok_iff {checked : Checked α} {value : α} :
    checked.toExcept = .ok value ↔ checked = ⟨[], value⟩ := by
  obtain ⟨problems, result⟩ := checked
  cases problems <;> simp [toExcept]

lemma field_eq_iff (location : List String) {members : List (Scalar × Document)} {name : String}
    {default value : α} {read : Document → Except Flaw α} :
    field location members name default read = ⟨[], value⟩ ↔
      Filled default read (member? members name) value := by
  rw [field]
  cases member? members name with
  | none =>
    simp only [mk.injEq, true_and]
    refine ⟨fun h => h ▸ .missing, ?_⟩
    rintro ⟨⟩
    rfl
  | some document =>
    simp only
    cases hread : read document with
    | error flaw =>
      simp only [mk.injEq, List.cons_ne_nil, false_and, false_iff]
      rintro (_ | hvalue)
      rw [hread] at hvalue
      cases hvalue
    | ok result =>
      simp only [mk.injEq, true_and]
      refine ⟨fun h => .given (h ▸ hread), ?_⟩
      rintro (_ | hvalue)
      rw [hread] at hvalue
      exact Except.ok.inj hvalue

/-- Nothing is wrong with two results put together if nothing is wrong with either. -/
lemma both_eq_iff {β γ : Type} {first : Checked α} {second : Checked β} {build : α → β → γ}
    (hbuild : Function.Injective2 build) {a : α} {b : β} :
    (⟨first.problems ++ second.problems, build first.value second.value⟩ : Checked γ)
        = ⟨[], build a b⟩ ↔
      first = ⟨[], a⟩ ∧ second = ⟨[], b⟩ := by
  obtain ⟨problems, value⟩ := first
  obtain ⟨others, other⟩ := second
  simp only [mk.injEq, List.append_eq_nil_iff, hbuild.eq_iff]
  exact and_and_and_comm

/-- A section is read from its members, and if it is missing from none. -/
lemma namedPart_eq_iff {members : List (Scalar × Document)} {name model : String}
    {default value : α}
    {read : List String → List (Scalar × Document) → Checked α}
    (hdefault : read [name] [] = ⟨[], default⟩) :
    namedPart members name model default read = ⟨[], value⟩ ↔
      ∃ fields, (Document.mapping members).part? name = some fields ∧
        read [name] fields = ⟨[], value⟩ := by
  rw [namedPart, part?]
  cases member? members name with
  | none => simp [hdefault]
  | some document => cases document <;> simp [part]

end Checked

/-! ### Sections and documents -/

namespace ReaderSettings

lemma read_eq_iff {location : List String} {fields : List (Scalar × Document)}
    {settings : ReaderSettings} :
    read location fields = ⟨[], settings⟩ ↔
      Filled default.addressWidth Coercion.addressWidth (member? fields "address_width")
          settings.addressWidth ∧
        Filled default.timeout Coercion.timeout (member? fields "timeout_seconds")
          settings.timeout := by
  rw [← Checked.field_eq_iff location, ← Checked.field_eq_iff location, read]
  exact Checked.both_eq_iff fun _ _ _ _ => mk.inj

lemma read_nil (location : List String) : read location [] = ⟨[], default⟩ :=
  read_eq_iff.mpr ⟨.missing, .missing⟩

end ReaderSettings

namespace LogSettings

lemma read_eq_iff {location : List String} {fields : List (Scalar × Document)}
    {settings : LogSettings} :
    read location fields = ⟨[], settings⟩ ↔
      Filled default.level Coercion.text (member? fields "level") settings.level ∧
        Filled default.json Coercion.truth (member? fields "json_output") settings.json := by
  rw [← Checked.field_eq_iff location, ← Checked.field_eq_iff location, read]
  exact Checked.both_eq_iff fun _ _ _ _ => mk.inj

lemma read_nil (location : List String) : read location [] = ⟨[], default⟩ :=
  read_eq_iff.mpr ⟨.missing, .missing⟩

end LogSettings

namespace Settings

variable {document : Document} {settings : Settings}

lemma read_eq_iff {members : List (Scalar × Document)} :
    read members = ⟨[], settings⟩ ↔ ∃ reader logging,
      (Document.mapping members).part? "reader" = some reader ∧
        (Document.mapping members).part? "logging" = some logging ∧
        settings.OfParts reader logging := by
  have hparts : read members = ⟨[], settings⟩ ↔ _ ∧ _ :=
    Checked.both_eq_iff fun _ _ _ _ => mk.inj
  rw [hparts, Checked.namedPart_eq_iff (ReaderSettings.read_nil _),
    Checked.namedPart_eq_iff (LogSettings.read_nil _)]
  simp only [ReaderSettings.read_eq_iff, LogSettings.read_eq_iff]
  constructor
  · rintro ⟨⟨reader, hreader, hwidth, htimeout⟩, logging, hlogging, hlevel, hjson⟩
    exact ⟨reader, logging, hreader, hlogging, hwidth, htimeout, hlevel, hjson⟩
  · rintro ⟨reader, logging, hreader, hlogging, hwidth, htimeout, hlevel, hjson⟩
    exact ⟨⟨reader, hreader, hwidth, htimeout⟩, logging, hlogging, hlevel, hjson⟩

/-- The documents that give settings, and which ones: the document and its sections must be
mappings, and each field must stand for a value if it is given. -/
theorem ofDocument_eq_ok_iff :
    ofDocument document = .ok settings ↔ ∃ reader logging,
      document.part? "reader" = some reader ∧ document.part? "logging" = some logging ∧
        settings.OfParts reader logging := by
  rw [ofDocument, Checked.toExcept_eq_ok_iff]
  cases document with
  | mapping members => exact read_eq_iff
  | _ => simp [Checked.part, part?]

end Settings

/-! ### Bounds and defaults -/

namespace Filled

variable {α : Type} {default value : α} {read : Document → Except Flaw α}

lemma of_forall {given : Option Document} {P : α → Prop} (h : Filled default read given value)
    (hdefault : P default) (hread : ∀ document value, read document = .ok value → P value) :
    P value := by
  cases h with
  | missing => exact hdefault
  | given hgiven => exact hread _ _ hgiven

lemma eq_default {given : Option Document} (h : Filled default read given value)
    (hnone : given = none) : value = default := by
  cases h with
  | missing => rfl
  | given => cases hnone

end Filled

lemma ReaderSettings.bounded_default : ReaderSettings.default.Bounded :=
  ⟨by decide, by decide, Binary64.isPositive_iff.mp (by decide +kernel)⟩

namespace Interpolation

variable {environment : Environment}

lemma member?_map_walk (members : List (Scalar × Document)) (name : String) :
    member? (members.map fun member => (member.1, walk environment member.2)) name
      = (member? members name).map (walk environment) := by
  rw [member?, member?, List.find?_map, Option.map_map, Option.map_map]
  rfl

lemma part?_walk (document : Document) (name : String) :
    (walk environment document).part? name
      = (document.part? name).map fun fields =>
          fields.map fun member => (member.1, walk environment member.2) := by
  cases document with
  | mapping members =>
    rw [walk_mapping]
    simp only [part?, member?_map_walk]
    cases member? members name with
    | none => rfl
    | some value =>
      cases value with
      | mapping fields => simp [walk_mapping]
      | list items => simp [walk_list]
      | scalar | entry | set | cycle => rfl
  | list items => rw [walk_list]; rfl
  | scalar | entry | set | cycle => rfl

/-- A walk gives no field and takes none away. -/
lemma given?_walk (document : Document) (part name : String) :
    (walk environment document).given? part name
      = (document.given? part name).map (walk environment) := by
  rw [given?, given?, part?_walk]
  cases document.part? part with
  | none => rfl
  | some fields => exact member?_map_walk fields name

end Interpolation

namespace Settings

variable {document : Document} {settings : Settings}

lemma OfParts.bounded {reader logging : List (Scalar × Document)}
    (h : settings.OfParts reader logging) : settings.reader.Bounded := by
  have hdefault := ReaderSettings.bounded_default
  have hwidth : 8 ≤ settings.reader.addressWidth ∧ settings.reader.addressWidth ≤ 64 :=
    h.width.of_forall ⟨hdefault.least, hdefault.greatest⟩ fun _ _ hread =>
      (Coercion.addressWidth_eq_ok_iff.mp hread).2
  have htimeout : settings.reader.timeout.Positive :=
    h.timeout.of_forall hdefault.timeout fun _ _ hread => (Coercion.timeout_eq_ok_iff.mp hread).2
  exact ⟨hwidth.1, hwidth.2, htimeout⟩

lemma keepsDefaults_default (document : Document) : default.KeepsDefaults document :=
  ⟨fun _ => rfl, fun _ => by rw [default, ReaderSettings.default], fun _ => rfl, fun _ => rfl⟩

lemma keepsDefaults_of_ofDocument (h : ofDocument document = .ok settings) :
    settings.KeepsDefaults document := by
  obtain ⟨reader, logging, hreader, hlogging, hparts⟩ := ofDocument_eq_ok_iff.mp h
  refine ⟨fun hnone => ?_, fun hnone => ?_, fun hnone => ?_, fun hnone => ?_⟩
  all_goals
    simp only [given?, hreader, hlogging, Option.bind_some] at hnone
  · exact hparts.width.eq_default hnone
  · rw [hparts.timeout.eq_default hnone, ReaderSettings.default]
  · exact hparts.level.eq_default hnone
  · exact hparts.json.eq_default hnone

lemma KeepsDefaults.of_walk {environment : Interpolation.Environment}
    (h : settings.KeepsDefaults (Interpolation.walk environment document)) :
    settings.KeepsDefaults document := by
  obtain ⟨hwidth, htimeout, hlevel, hjson⟩ := h
  simp only [Interpolation.given?_walk, Option.map_eq_none_iff] at hwidth htimeout hlevel hjson
  exact ⟨hwidth, htimeout, hlevel, hjson⟩

end Settings

/-! ### Loading -/

/-- Whether a document is what the configuration file holds. -/
inductive IsConfigDocument (around : Surroundings) (given : Option Path)
    (document : Document) : Prop
  | intro {path : Path} {content : Content} {text : String} :
      findConfig around given = .ok (some path) →
      around.lookup path = .found (.file content) →
      ConfigLoad.readText content = .ok text →
      ConfigLoad.readDocument text = .ok (some document) →
      IsConfigDocument around given document

section Loading

variable {around : Surroundings} {given : Option Path} {document : Document} {settings : Settings}

lemma IsConfigDocument.unique {other : Document} (h : IsConfigDocument around given document)
    (hother : IsConfigDocument around given other) : other = document := by
  obtain ⟨hpath, hcontent, htext, hdocument⟩ := h
  obtain ⟨hpath', hcontent', htext', hdocument'⟩ := hother
  cases hpath.symm.trans hpath'
  cases hcontent.symm.trans hcontent'
  cases htext.symm.trans htext'
  exact (Option.some.inj (Except.ok.inj (hdocument.symm.trans hdocument'))).symm

namespace ConfigLoad

lemma ofDocument_of_settings {environment : Interpolation.Environment}
    (h : ConfigLoad.settings environment document = .ok settings) :
    Settings.ofDocument (Interpolation.walk environment document) = .ok settings := by
  rw [ConfigLoad.settings] at h
  split at h
  · rename_i hsettings
    cases h
    exact hsettings
  · cases h

lemma of_ofText {environment : Interpolation.Environment} {path text : String}
    (h : ofText environment path text = .ok settings) :
    settings = .default ∨ ∃ document, readDocument text = .ok (some document) ∧
      ConfigLoad.settings environment document = .ok settings := by
  rw [ofText] at h
  cases hread : readDocument text with
  | error failure =>
    rw [hread] at h
    cases h
  | ok read =>
    simp only [hread, bind, Except.bind] at h
    cases read with
    | none => exact .inl (Except.ok.inj h).symm
    | some document =>
      simp only at h
      split at h
      · exact .inl (Except.ok.inj h).symm
      · split at h
        · split at h
          · cases h
          · exact .inr ⟨_, rfl, h⟩
        · cases h

end ConfigLoad

/-- What is loaded is the default, or what the configuration file stands for. -/
lemma document_of_loadConfig (h : loadConfig around given = .ok settings) :
    settings = .default ∨ ∃ document, IsConfigDocument around given document ∧
      ConfigLoad.settings around.environmentValue document = .ok settings := by
  rw [loadConfig] at h
  cases hfind : findConfig around given with
  | error failure =>
    rw [hfind] at h
    cases h
  | ok found =>
    simp only [hfind, bind, Except.bind] at h
    cases found with
    | none => exact .inl (Except.ok.inj h).symm
    | some path =>
      simp only at h
      split at h
      · rename_i content hlookup
        split at h
        · cases h
        · rename_i text htext
          rcases ConfigLoad.of_ofText h with hdefault | ⟨document, hdocument, hsettings⟩
          · exact .inl hdefault
          · exact .inr ⟨document, .intro hfind hlookup htext hdocument, hsettings⟩
      · exact .inl (Except.ok.inj h).symm

lemma bounded_of_settings {environment : Interpolation.Environment}
    (h : ConfigLoad.settings environment document = .ok settings) :
    settings.reader.Bounded ∧ settings.KeepsDefaults document := by
  have hdocument := ConfigLoad.ofDocument_of_settings h
  obtain ⟨reader, logging, -, -, hparts⟩ := Settings.ofDocument_eq_ok_iff.mp hdocument
  exact ⟨hparts.bounded, (Settings.keepsDefaults_of_ofDocument hdocument).of_walk⟩

lemma bounded_of_loadConfig (h : loadConfig around given = .ok settings) :
    settings.reader.Bounded ∧
      ∀ document, IsConfigDocument around given document → settings.KeepsDefaults document := by
  rcases document_of_loadConfig h with rfl | ⟨document, hdocument, hsettings⟩
  · exact ⟨ReaderSettings.bounded_default,
      fun document _ => Settings.keepsDefaults_default document⟩
  · obtain ⟨hbounded, hdefaults⟩ := bounded_of_settings hsettings
    exact ⟨hbounded, fun other hother => hdocument.unique hother ▸ hdefaults⟩

end Loading

/-! ### The shared configuration -/

namespace Context

variable {context : Context} {P : Settings → Prop}

/-- What holds of the configuration that is held, of one that is put in and of all that can be
loaded holds of what is held after an action, and of the answer. -/
lemma forall_act {action : Action}
    (hload : ∀ around settings, loadConfig around none = .ok settings → P settings)
    (hheld : ∀ settings ∈ context.settings, P settings)
    (hpreset : ∀ settings, action = .preset settings → P settings) (around : Surroundings) :
    (∀ settings ∈ (context.act around action).2.1.settings, P settings) ∧
      ∀ settings, (context.act around action).2.2 = some (.ok settings) → P settings := by
  cases action with
  | replaceFiles | setVariable => exact ⟨hheld, nofun⟩
  | forget => exact ⟨nofun, nofun⟩
  | preset settings =>
    refine ⟨fun other hother => ?_, nofun⟩
    cases hother
    exact hpreset settings rfl
  | ensure =>
    cases hsettings : context.settings with
    | some settings =>
      rw [act_ensure_of_some hsettings]
      refine ⟨hheld, fun other hother => ?_⟩
      cases hother
      exact hheld settings hsettings
    | none =>
      rw [act_ensure_of_none hsettings]
      cases hloaded : loadConfig around none with
      | error failure => exact ⟨nofun, nofun⟩
      | ok settings =>
        have hsettings := hload around settings hloaded
        refine ⟨fun other hother => ?_, fun other hother => ?_⟩
        · cases hother
          exact hsettings
        · cases hother
          exact hsettings

lemma forall_answers {actions : List Action}
    (hload : ∀ around settings, loadConfig around none = .ok settings → P settings)
    (hheld : ∀ settings ∈ context.settings, P settings)
    (hpreset : ∀ settings, .preset settings ∈ actions → P settings) (around : Surroundings) :
    ∀ settings, .ok settings ∈ answers around context actions → P settings := by
  induction actions generalizing around context with
  | nil => simp [answers]
  | cons action actions ih =>
    obtain ⟨hkept, hanswer⟩ := forall_act hload hheld
      (fun settings hfirst => hpreset settings (hfirst ▸ List.mem_cons_self)) around
    intro settings h
    rw [answers] at h
    rcases List.mem_append.mp h with h | h
    · exact hanswer settings (Option.mem_toList.mp h)
    · exact ih hkept (fun settings hmem => hpreset settings (List.mem_cons_of_mem _ hmem)) _
        settings h

end Context

/-! ### What reaches the reader -/

/-- A configuration is within its bounds however it is obtained: by default, from a document with
environment variables put in, from a file, or from a shared configuration into which none outside
the bounds is put; and the fields that the document does not give have their defaults.  With such a
configuration no stored integer is tested against a negative width, by no cursor and in no parse,
and all addresses that cursors and parses hand out have at most 64 bits. -/
theorem settings_keep_bounds :
    Settings.default.reader.Bounded ∧
      (∀ environment document settings, ConfigLoad.settings environment document = .ok settings →
        settings.reader.Bounded ∧ settings.KeepsDefaults document) ∧
      (∀ around given settings, loadConfig around given = .ok settings →
        settings.reader.Bounded ∧
          ∀ document, IsConfigDocument around given document → settings.KeepsDefaults document) ∧
      (∀ around actions, (∀ settings, .preset settings ∈ actions → settings.reader.Bounded) →
        ∀ settings, .ok settings ∈ Context.answers around .empty actions →
          settings.reader.Bounded) ∧
      ∀ reader : ReaderSettings, reader.Bounded →
        (∀ raw, RowReader.widthChecked raw reader.addressWidth
          = .ok (toAddress raw reader.addressWidth.toNat)) ∧
        (∀ path granularity index rows,
          let feed := RowReader.feed ⟨path, granularity, reader.addressWidth⟩ index rows
          feed.failure ≠ some .negativeWidth ∧ ∀ pair ∈ feed.pairs, pair.Within 64) ∧
        ∀ {σ : Type} (sinks : Granularity → Sink σ) (state : σ) around given wanted,
          let report := parse around ⟨given, wanted, reader.addressWidth⟩ (recording sinks)
            ⟨state, []⟩
          report.outcome ≠ .error .negativeWidth ∧
            ∀ call ∈ report.state.calls, call.offer.pair.Within 64 := by
  refine ⟨ReaderSettings.bounded_default, fun _ _ _ => bounded_of_settings,
    fun _ _ _ => bounded_of_loadConfig, fun around actions hpreset => ?_, fun reader h => ?_⟩
  · exact Context.forall_answers (P := fun settings => settings.reader.Bounded)
      (fun _ _ hloaded => (bounded_of_loadConfig hloaded).1) (by simp [Context.empty]) hpreset
        around
  · have hleast := h.least
    have hgreatest := h.greatest
    have hwidth : 0 ≤ reader.addressWidth := by omega
    have hbits : reader.addressWidth.toNat ≤ 64 := by omega
    refine ⟨RowReader.widthChecked_of_nonneg hwidth, fun path granularity index rows => ?_,
      fun sinks state around given wanted => ?_⟩
    · exact ⟨RowReader.feed_ne_negativeWidth hwidth index rows,
        fun pair hpair => (RowReader.within_of_mem_feed hpair).mono hbits⟩
    · exact ⟨parse_ne_negativeWidth hwidth (recording sinks) _,
        fun call hcall => (within_of_mem_calls hcall).mono hbits⟩

namespace Sample

/-- Surroundings with a configuration file that leaves the width to a variable, and has no limit to
the time to wait. -/
def configured : Surroundings :=
  ⟨⟨[(["vxsig.yaml"], .file (.bytes
      "reader: \x7baddress_width: '$\x7bW\x7d', timeout_seconds: .inf\x7d".toUTF8.data.toList))]⟩,
    ⟨1, []⟩, ⟨1, ["home"]⟩, [("W", " +3_2 ")], []⟩

/-- What the file says. -/
def written : Document :=
  .mapping [(.text "reader", .mapping
    [(.text "address_width", .text "$\x7bW\x7d"),
     (.text "timeout_seconds", .scalar (.real (.infinity false)))])]

/-- What it stands for. -/
def loaded : Settings := ⟨⟨32, .infinity false⟩, .default⟩

end Sample

/-- In the sample the width comes from the environment, with a sign and an underscore; with it the
first match of the store is delivered. -/
theorem settings_keep_bounds_sample :
    let report := parse Sample.around ⟨.ofText "a.db", true, Sample.loaded.reader.addressWidth⟩
      (recording (Sample.refuseCall 4)) ⟨0, []⟩
    ConfigLoad.settings Sample.configured.environmentValue Sample.written = .ok Sample.loaded ∧
      Sample.loaded.KeepsDefaults Sample.written ∧
      loadConfig Sample.configured none = .ok Sample.loaded ∧
      .ok Sample.loaded ∈ Context.answers Sample.configured .empty [.ensure] ∧
      Sample.loaded.reader.Bounded ∧
      report.state.calls = [.accepted ⟨.function, 16, 32⟩] ∧
      ∀ call ∈ report.state.calls, call.offer.pair.Within 64 := by
  intro report
  obtain ⟨-, hdocument, hload, hshared, hreader⟩ := settings_keep_bounds
  have hsettings : ConfigLoad.settings Sample.configured.environmentValue Sample.written
      = .ok Sample.loaded := Except.eq_ok_of_toOption (by decide +kernel)
  have hloaded : loadConfig Sample.configured none = .ok Sample.loaded :=
    Except.eq_ok_of_toOption (by decide +kernel)
  have hanswer : .ok Sample.loaded ∈ Context.answers Sample.configured .empty [.ensure] := by
    have hnone : Context.empty.settings = none := rfl
    rw [Context.answers, Context.act_ensure_of_none hnone, hloaded]
    exact List.mem_cons_self
  have hbounded := (hload _ _ _ hloaded).1
  have hprepared : Prepared Sample.around
      ⟨.ofText "a.db", true, Sample.loaded.reader.addressWidth⟩ Sample.store
      (some Sample.metadata) :=
    ⟨Sample.prepared.opened, Sample.prepared.checked, Sample.prepared.recorded⟩
  refine ⟨hsettings, (hdocument _ _ _ hsettings).2, hloaded, hanswer,
    hshared Sample.configured [.ensure] (by simp) _ hanswer, ?_, ?_⟩
  · refine (hprepared.calls_eq (by decide) (Sample.refuseCall 4) 0).trans ?_
    decide
  · exact ((hreader _ hbounded).2.2 (Sample.refuseCall 4) 0 Sample.around (.ofText "a.db") true).2

end BinaryDiff
