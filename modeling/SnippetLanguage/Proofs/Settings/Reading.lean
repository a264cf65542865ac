import SnippetLanguage.Proofs.Service.Feedback
import SnippetLanguage.Proofs.Settings.Standard

/-!
# Settings that can be read

Reading settings is reading their fields one by one (`read_eq_ok_iff`), and each field is its default or what its reader
accepts (`readField_eq_ok_iff`). The defaults pass the checks of the fields, so everything that is read does
(`checked_of_read`). Conversely the checks leave what passes them as it is: the names of styles are in lower case and those
of levels in upper case. So settings that pass the checks, given by the names of their fields, are read as themselves
wherever no unknown name is given (`read_asKeywords`). The service knows the style of such settings, so it answers every
text within their limit (`detect_total_of_read`).

All of this rests on what is known of the library that settings are read with, `Reader.Documented`.
-/

namespace SnippetLanguage.Settings

open Schema Text

variable {α : Type} {R : Reader} {sources : Sources R.Raw} {s : Settings} {v : R.Raw}

theorem eq_ok_of_toOption {ε : Type} {x : Except ε α} {a : α} (h : x.toOption = some a) : x = .ok a := by
  cases x with
  | ok b => exact congrArg Except.ok (Option.some.inj h)
  | error e => cases h

/-! ## Checks -/

theorem checkLabelStyle_eq_ok_iff {text style : String} :
    checkLabelStyle text = .ok style ↔ lowercase text = style ∧ style ∈ LabelStyle.names := by
  unfold checkLabelStyle
  dsimp only
  split
  · rename_i hmem
    exact ⟨fun h => Except.ok.inj h ▸ ⟨rfl, hmem⟩, fun h => congrArg Except.ok h.1⟩
  · rename_i hmem
    exact iff_of_false (fun h => by cases h) fun h => hmem (h.1 ▸ h.2)

theorem checkLogLevel_eq_ok_iff {text level : String} :
    checkLogLevel text = .ok level ↔ uppercase text = level ∧ level ∈ levelNames := by
  unfold checkLogLevel
  dsimp only
  split
  · rename_i hmem
    exact ⟨fun h => Except.ok.inj h ▸ ⟨rfl, hmem⟩, fun h => congrArg Except.ok h.1⟩
  · rename_i hmem
    exact iff_of_false (fun h => by cases h) fun h => hmem (h.1 ▸ h.2)

/-- The name of a style passes as it is. -/
theorem checkLabelStyle_of_mem {style : String} (h : style ∈ LabelStyle.names) : checkLabelStyle style = .ok style := by
  have hlower : ∀ style ∈ LabelStyle.names, lowercase style = style := by decide
  exact checkLabelStyle_eq_ok_iff.2 ⟨hlower style h, h⟩

theorem checkLogLevel_of_mem {level : String} (h : level ∈ levelNames) : checkLogLevel level = .ok level := by
  have hupper : ∀ level ∈ levelNames, uppercase level = level := by decide +kernel
  exact checkLogLevel_eq_ok_iff.2 ⟨hupper level h, h⟩

variable {check : String → Except Fault String}

/-- A checked text is a text that passes the check. -/
theorem readChecked_eq_ok_iff {result : String} :
    R.readChecked check v = .ok result ↔ ∃ text, R.readText v = .ok text ∧ check text = .ok result := by
  unfold Reader.readChecked
  cases R.readText v with
  | ok text =>
    constructor
    · exact fun h => ⟨text, rfl, h⟩
    · rintro ⟨_, heq, h⟩
      obtain rfl := Except.ok.inj heq
      exact h
  | error fault =>
    refine iff_of_false (fun h => by cases h) ?_
    rintro ⟨_, h, _⟩
    cases h

/-! ## Fields -/

section Fields

variable {name : String} {default a : α} {read : R.Raw → Except Fault α}

/-- A field is its default if nothing is given for it, and else what its reader accepts. -/
theorem readField_eq_ok_iff : readField R sources name default read = .ok a ↔
    R.given? sources name = none ∧ default = a ∨ ∃ v, R.given? sources name = some v ∧ read v = .ok a := by
  unfold readField
  cases R.given? sources name with
  | none => simp
  | some v => cases hread : read v <;> simp [Except.mapError, hread]

/-- What holds of the default and of all that the reader accepts holds of the field. -/
theorem of_readField {P : α → Prop} (h : readField R sources name default read = .ok a) (hdefault : P default)
    (hread : ∀ v a, read v = .ok a → P a) : P a := by
  obtain ⟨_, rfl⟩ | ⟨v, _, hv⟩ := readField_eq_ok_iff.1 h
  · exact hdefault
  · exact hread v a hv

end Fields

/-- The settings that all that is given stands for, field by field; no unknown name is given. -/
structure StandFor (R : Reader) (sources : Sources R.Raw) (s : Settings) : Prop where
  appName : readField R sources "app_name" ({} : Settings).appName R.readText = .ok s.appName
  labelStyle : readField R sources "label_style" ({} : Settings).labelStyle (R.readChecked checkLabelStyle) =
    .ok s.labelStyle
  maxContentLength : readField R sources "max_content_length" ({} : Settings).maxContentLength
    (R.readInteger 1000 1000000) = .ok s.maxContentLength
  corsOrigins : readField R sources "cors_origins" ({} : Settings).corsOrigins R.readText = .ok s.corsOrigins
  backendHost : readField R sources "backend_host" ({} : Settings).backendHost R.readText = .ok s.backendHost
  backendPort : readField R sources "backend_port" ({} : Settings).backendPort (R.readInteger 1024 65535) =
    .ok s.backendPort
  logLevel : readField R sources "log_level" ({} : Settings).logLevel (R.readChecked checkLogLevel) = .ok s.logLevel
  names : R.unknown sources = []

theorem read_eq_ok_iff : read R sources = .ok s ↔ StandFor R sources s := by
  constructor
  · intro h
    unfold read at h
    dsimp only at h
    split at h
    · rename_i happ hstyle hlength horigins hhost hport hlevel hnames
      obtain rfl := Except.ok.inj h
      exact ⟨happ, hstyle, hlength, horigins, hhost, hport, hlevel, hnames⟩
    · cases h
  · intro h
    unfold read
    dsimp only
    rw [h.appName, h.labelStyle, h.maxContentLength, h.corsOrigins, h.backendHost, h.backendPort, h.logLevel, h.names]

/-! ## What is checked -/

/-- Settings that pass the checks of their fields. -/
structure Checked (s : Settings) : Prop where
  labelStyle : s.labelStyle ∈ LabelStyle.names
  maxContentLength : 1000 ≤ s.maxContentLength ∧ s.maxContentLength ≤ 1000000
  backendPort : 1024 ≤ s.backendPort ∧ s.backendPort ≤ 65535
  logLevel : s.logLevel ∈ levelNames

theorem checked_default : Checked {} := by
  constructor <;> decide

theorem checked_of_read (hR : R.Documented) (h : read R sources = .ok s) : s.Checked := by
  have hfields := read_eq_ok_iff.1 h
  have hdefault := checked_default
  constructor
  · refine of_readField hfields.labelStyle hdefault.labelStyle fun v style hv => ?_
    obtain ⟨_, _, hstyle⟩ := readChecked_eq_ok_iff.1 hv
    exact (checkLabelStyle_eq_ok_iff.1 hstyle).2
  · exact of_readField (P := fun n => 1000 ≤ n ∧ n ≤ 1000000) hfields.maxContentLength hdefault.maxContentLength
      fun _ _ => hR.readInteger_bounds
  · exact of_readField (P := fun n => 1024 ≤ n ∧ n ≤ 65535) hfields.backendPort hdefault.backendPort
      fun _ _ => hR.readInteger_bounds
  · refine of_readField hfields.logLevel hdefault.logLevel fun v level hv => ?_
    obtain ⟨_, _, hlevel⟩ := readChecked_eq_ok_iff.1 hv
    exact (checkLogLevel_eq_ok_iff.1 hlevel).2

/-! ## Settings given by name -/

/-- The fields of settings as values with their names. -/
def asKeywords (R : Reader) (s : Settings) : List (String × R.Raw) := [
  ("app_name", R.ofText s.appName), ("label_style", R.ofText s.labelStyle),
  ("max_content_length", R.ofInt s.maxContentLength), ("cors_origins", R.ofText s.corsOrigins),
  ("backend_host", R.ofText s.backendHost), ("backend_port", R.ofInt s.backendPort), ("log_level", R.ofText s.logLevel)]

theorem mem_fieldNames_of_mem_asKeywords {k : String × R.Raw} (h : k ∈ asKeywords R s) : k.1 ∈ fieldNames := by
  have hnames : (asKeywords R s).map Prod.fst = fieldNames := rfl
  rw [← hnames]
  exact List.mem_map_of_mem h

/-- A field that is given by name is read from this value, whatever the other sources hold. -/
theorem readField_asKeywords {name : String} {default a : α} {readValue : R.Raw → Except Fault α} (hR : R.Documented)
    (hlookup : (asKeywords R s).lookup name = some v) (hread : readValue v = .ok a) :
    readField R { sources with keywords := asKeywords R s } name default readValue = .ok a :=
  readField_eq_ok_iff.2 (.inr ⟨v,
    hR.given?_keyword { sources with keywords := asKeywords R s } name v
      (fun _ => mem_fieldNames_of_mem_asKeywords) hlookup, hread⟩)

/-- Settings that pass the checks are read as themselves, if no unknown name is given. -/
theorem read_asKeywords (hR : R.Documented) (h : s.Checked) (hknown : R.unknown sources = []) :
    read R { sources with keywords := asKeywords R s } = .ok s :=
  read_eq_ok_iff.2 {
    appName := readField_asKeywords hR rfl (hR.readText_ofText _)
    labelStyle := readField_asKeywords hR rfl
      (readChecked_eq_ok_iff.2 ⟨_, hR.readText_ofText _, checkLabelStyle_of_mem h.labelStyle⟩)
    maxContentLength := readField_asKeywords hR rfl
      (hR.readInteger_ofInt h.maxContentLength.1 h.maxContentLength.2)
    corsOrigins := readField_asKeywords hR rfl (hR.readText_ofText _)
    backendHost := readField_asKeywords hR rfl (hR.readText_ofText _)
    backendPort := readField_asKeywords hR rfl (hR.readInteger_ofInt h.backendPort.1 h.backendPort.2)
    logLevel := readField_asKeywords hR rfl
      (readChecked_eq_ok_iff.2 ⟨_, hR.readText_ofText _, checkLogLevel_of_mem h.logLevel⟩)
    names := hR.unknown_keywords sources (asKeywords R s) (fun _ => mem_fieldNames_of_mem_asKeywords) hknown }

/-! ## Detection under settings that were read -/

/-- The service knows the style of settings that pass the checks. -/
theorem Checked.exists_style (h : s.Checked) : ∃ known : LabelStyle, s.labelStyle = known.name := by
  have hnames : ∀ style ∈ LabelStyle.names, ∃ known : LabelStyle, style = known.name := by
    intro style hstyle
    simp only [LabelStyle.names, List.mem_cons, List.not_mem_nil, or_false] at hstyle
    rcases hstyle with rfl | rfl
    · exact ⟨.emoji, rfl⟩
    · exact ⟨.plain, rfl⟩
  exact hnames _ h.labelStyle

/-- **Settings that can be read make detection total.** The settings are read with a library that does what is known of it.
For all that may be given for them and is read as settings:

* the label style is one of the two, by its name in lower case, and a request that names no style is answered in it,
  whatever the table, the declared language and the text are, if the text has no more characters than the limit;
* the log level is one of the five, and the limit of a text and the port lie between their bounds;
* the settings, given by the names of their fields, are read as themselves: in the same environment, and in every other one
  that sets no unknown name. -/
theorem detect_total_of_read (hR : R.Documented) (h : read R sources = .ok s) :
    (∃ known : LabelStyle, LabelStyle.ofName? s.labelStyle = some known ∧
      ∀ (t : Table) (content : String) (declared : Option String), (content.length : Int) ≤ s.maxContentLength →
        ∀ style, style = none ∨ style = some "" →
          ∃ d, Service.detect s t content declared style = (.ok d, [.detected d.language d.method content.length]) ∧
            d.displayLabel = labelFor d.language known) ∧
    s.logLevel ∈ ["DEBUG", "INFO", "WARNING", "ERROR", "CRITICAL"] ∧
    (1000 ≤ s.maxContentLength ∧ s.maxContentLength ≤ 1000000) ∧ (1024 ≤ s.backendPort ∧ s.backendPort ≤ 65535) ∧
    read R { sources with keywords := asKeywords R s } = .ok s ∧
    ∀ sources', R.unknown sources' = [] → read R { sources' with keywords := asKeywords R s } = .ok s := by
  have hchecked := checked_of_read hR h
  obtain ⟨known, hknown⟩ := hchecked.exists_style
  refine ⟨⟨known, LabelStyle.ofName?_eq_some_iff.2 hknown, fun t content declared hshort style hnone => ?_⟩,
    hchecked.logLevel, hchecked.maxContentLength, hchecked.backendPort,
    read_asKeywords hR hchecked (read_eq_ok_iff.1 h).names, fun _ => read_asKeywords hR hchecked⟩
  have hstyle : Service.styleInForce s style = known.name := by
    rcases hnone with rfl | rfl <;> exact hknown
  exact ⟨_, Service.detect_of_known_style hstyle hshort, Service.displayLabel_resultOf⟩

/-- Variables and values in mixed letter case, and a variable in the file that the environment sets otherwise. The upper case
of a dotless i is that of an i, and the length is a text with a sign and a fraction. -/
def mixedCase : Sources Json where
  keywords := [("MAX_content_length", .text " +01_000.0")]
  environment := [("Label_Style", "EMOJI"), ("LOG_LEVEL", "\u0131nfo")]
  file := [("label_style", "neon")]

theorem detect_total_of_mixed_case :
    Reader.standard.Documented ∧
      read Reader.standard mixedCase = .ok { labelStyle := "emoji", maxContentLength := 1000 } ∧
      ∃ d, (Service.detect { labelStyle := "emoji", maxContentLength := 1000 } Table.default "" (some "") none).1 =
        .ok d := by
  have hread : read Reader.standard mixedCase = .ok { labelStyle := "emoji", maxContentLength := 1000 } :=
    eq_ok_of_toOption (by decide +kernel)
  obtain ⟨⟨known, _, hanswers⟩, _⟩ := detect_total_of_read documented_standard hread
  obtain ⟨d, hd, _⟩ := hanswers Table.default "" (some "") (by decide) none (.inl rfl)
  exact ⟨documented_standard, hread, d, congrArg Prod.fst hd⟩

end SnippetLanguage.Settings
