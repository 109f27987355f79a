import Scaffold.Proofs.CommandLine.ExitStatus
import Scaffold.Proofs.Description.Misuse
import Scaffold.Proofs.Json.Limits
import Scaffold.Proofs.Yaml.Reader

/-! What a run makes of the two files that it reads before it generates, whatever bytes they hold.
What cannot be read in them is told as an error and leaves the files alone, up to some contents
that interrupt the run. -/
namespace Scaffold.CommandLine

open Console FileTree Model

variable {screen : Screen} {a : Arguments} {environment : List (String × String)} {took : Seconds}
  {disk : FileTree} {path : FilePath} {content project config : ByteArray} {s : Settings}
  {c : Component} {own : Ownership} {cause : Interruption}

/-! ### Contents -/

/-- A content that settings are read from. -/
def GivesSettings (content : ByteArray) (s : Settings) : Prop :=
  ∃ text, decode content = .ok text ∧ Settings.ofJson text = .ok s

/-- The settings that a run starts from whose settings file, if one is given, has a content. -/
def StartsFrom (a : Arguments) (environment : List (String × String)) (content : ByteArray)
    (s : Settings) : Prop :=
  match given? a.config with
  | none => s = .ofEnvironment environment
  | some _ => GivesSettings content s

/-- A content at a path that a component is read from. -/
def GivesComponent (path : FilePath) (content : ByteArray) (c : Component) (own : Ownership) :
    Prop :=
  ∃ text data, decode content = .ok text ∧ readDocument path text = .ok data ∧
    componentOf .empty data path.text = (.ok c, own)

/-- What interrupts a run that reads a content at a path as a description: bytes that are no text, a
document whose fault is not its form, or a misuse. -/
inductive Interrupts (path : FilePath) (content : ByteArray) : Interruption → Prop
  | notText : ¬ IsText content → Interrupts path content (.file .notText)
  | document {text : String} {fault : DocumentFault} : decode content = .ok text →
      readDocument path text = .error fault → fault ≠ .json .malformed →
      fault ≠ .yaml .malformed → Interrupts path content (.document fault)
  | misuse {text : String} {data : Value} {cause : Misuse} {own : Ownership} :
      decode content = .ok text → readDocument path text = .ok data →
      componentOf .empty data path.text = (.error (.misuse cause), own) →
      Interrupts path content (.misuse cause)

/-- What a text must hold to interrupt a run as a description: in JSON, more digits in a row or more
opening brackets than can be read, and in YAML what this may be refused for besides its form; or the
mapping of a type that is misused. -/
inductive MayInterrupt (path : FilePath) (text : String) : Interruption → Prop
  | digits {digits : List Char} : path.suffix = ".json" → digits <:+: text.toList →
      (∀ c ∈ digits, c.isDigit = true) → Number.maxDigits < digits.length →
      MayInterrupt path text (.document (.json (.tooManyDigits digits.length)))
  | openings {inObject : Bool} : path.suffix = ".json" →
      Json.descriptions.depth < Json.openings text.toList →
      MayInterrupt path text (.document (.json (.tooDeep inObject)))
  | yaml {fault : Yaml.Fault} : path.suffix ≠ ".json" → fault ≠ .malformed →
      Yaml.Forbids text.toList fault → MayInterrupt path text (.document (.yaml fault))
  | misuse {data spec : Value} {cause : Misuse} : readDocument path text = .ok data →
      spec ∈ typesOfComponent data → cause.IsIn spec → MayInterrupt path text (.misuse cause)

/-- A document that is refused for more than its form holds what it is refused for. -/
theorem mayInterrupt_of_document {text : String} {fault : DocumentFault}
    (h : readDocument path text = .error fault) (hjson : fault ≠ .json .malformed)
    (hyaml : fault ≠ .yaml .malformed) : MayInterrupt path text (.document fault) := by
  unfold readDocument at h
  split at h
  · next hsuffix =>
    obtain ⟨e, hread, rfl⟩ := mapError_eq_error_iff.mp h
    cases Json.forbids_of_read (map_eq_error_iff.mp hread) with
    | malformed => exact absurd rfl hjson
    | tooManyDigits hin hdigits hfits =>
      refine .digits hsuffix hin hdigits ?_
      simp only [Json.descriptions, Bool.or_eq_false_iff, decide_eq_false_iff_not] at hfits
      omega
    | tooDeep hdepth =>
      rw [Nat.zero_add] at hdepth
      exact .openings hsuffix hdepth
  · next hsuffix =>
    obtain ⟨e, hread, rfl⟩ := mapError_eq_error_iff.mp h
    exact .yaml hsuffix (fun heq => hyaml (heq ▸ rfl)) (Yaml.forbids_of_read hread)

/-- A text that interrupts a run holds what it does so for. -/
theorem Interrupts.mayInterrupt (h : Interrupts path content cause) (htext : IsText content) :
    ∃ text, decode content = .ok text ∧ MayInterrupt path text cause := by
  cases h with
  | notText hnot => exact absurd htext hnot
  | document hdecode hdocument hjson hyaml =>
    exact ⟨_, hdecode, mayInterrupt_of_document hdocument hjson hyaml⟩
  | misuse hdecode hdocument hcomponent =>
    obtain ⟨spec, hspec, hin⟩ := exists_isIn_of_misuse hcomponent
    exact ⟨_, hdecode, .misuse hdocument hspec hin⟩

/-! ### Reading the settings -/

theorem load_of_decode {text : String} (hbytes : disk.readBytes path = .ok config)
    (hdecode : decode config = .ok text) :
    Settings.load disk path = (Settings.ofJson text).mapError .invalid := by
  rw [Settings.load, readText_of_readBytes hbytes, hdecode]

section
variable {sp : String} (hgiven : given? a.config = some sp)
  (hbytes : disk.readBytes (.ofString sp) = .ok config)
include hgiven hbytes

theorem baseSettings_of_gives (h : GivesSettings config s) :
    baseSettings a environment disk = .ok s := by
  obtain ⟨text, hdecode, hsettings⟩ := h
  have hload : Settings.load disk (.ofString sp) = .ok s := by
    rw [load_of_decode hbytes hdecode, hsettings]
    rfl
  unfold baseSettings
  simp only [hgiven, hload]

theorem baseSettings_of_not_isText (h : ¬ IsText config) :
    baseSettings a environment disk = .error (.interruption (.file .notText)) := by
  have hload : Settings.load disk (.ofString sp) = .error (.unreadable .notText) := by
    rw [Settings.load, readText_of_readBytes hbytes, decode_of_not_isText h]
  unfold baseSettings
  simp only [hgiven, hload]

/-- A text without settings is told with the fault that the reader of settings finds. -/
theorem baseSettings_of_refused (htext : IsText config) (h : ∀ s, ¬ GivesSettings config s) :
    ∃ detail, baseSettings a environment disk =
      .error (.failure ("cannot read settings from " ++ sp ++ ": " ++ detail)) := by
  obtain ⟨text, hdecode⟩ := htext.exists_decode
  cases hsettings : Settings.ofJson text with
  | ok s => exact absurd ⟨text, hdecode, hsettings⟩ (h s)
  | error fault =>
    have hload : Settings.load disk (.ofString sp) = .error (.invalid fault) := by
      rw [load_of_decode hbytes hdecode, hsettings]
      rfl
    refine ⟨(Settings.LoadFault.invalid fault).message, ?_⟩
    unfold baseSettings
    simp only [hgiven, hload]

end

/-- Settings are had from their file, or without one from the environment. -/
theorem baseSettings_of_startsFrom
    (hbytes : ∀ sp, given? a.config = some sp → disk.readBytes (.ofString sp) = .ok config)
    (h : StartsFrom a environment config s) : baseSettings a environment disk = .ok s := by
  unfold StartsFrom at h
  split at h
  · next hnone =>
    subst h
    unfold baseSettings
    simp only [hnone]
  · next sp hgiven => exact baseSettings_of_gives hgiven (hbytes sp hgiven) h

/-! ### Reading the description -/

section
variable (hbytes : disk.readBytes path = .ok project)
include hbytes

theorem loadComponent_of_fault {text : String} {fault : DocumentFault}
    (hdecode : decode project = .ok text) (hdocument : readDocument path text = .error fault) :
    loadComponent own disk path = (.error (.ofDocument path fault), own) := by
  unfold loadComponent
  simp only [readText_of_readBytes hbytes, hdecode, hdocument]

theorem loadComponent_of_data {text : String} {data : Value} {own' : Ownership}
    {r : Except ComponentError Component} (hdecode : decode project = .ok text)
    (hdocument : readDocument path text = .ok data)
    (hcomponent : componentOf own data path.text = (r, own')) :
    loadComponent own disk path = (r.mapError .undescribed, own') := by
  unfold loadComponent
  simp only [readText_of_readBytes hbytes, hdecode, hdocument, hcomponent]

theorem loadComponent_of_gives (h : GivesComponent path project c own) :
    loadComponent .empty disk path = (.ok c, own) := by
  obtain ⟨text, data, hdecode, hdocument, hcomponent⟩ := h
  exact loadComponent_of_data hbytes hdecode hdocument hcomponent

theorem loadComponent_of_interrupts (h : Interrupts path project cause) :
    ∃ e own, loadComponent .empty disk path = (.error e, own) ∧
      Stop.ofLoadFault e = .interruption cause := by
  cases h with
  | notText hnot =>
    rw [loadComponent, readText_of_readBytes hbytes, decode_of_not_isText hnot]
    exact ⟨_, _, rfl, rfl⟩
  | @document text fault hdecode hdocument hjson hyaml =>
    refine ⟨_, _, loadComponent_of_fault hbytes hdecode hdocument, ?_⟩
    unfold LoadFault.ofDocument
    split
    · exact absurd rfl hjson
    · exact absurd rfl hyaml
    · rfl
  | misuse hdecode hdocument hcomponent =>
    exact ⟨_, _, loadComponent_of_data hbytes hdecode hdocument hcomponent, rfl⟩

/-- A content that neither gives a component nor interrupts the run is told with its path. -/
theorem loadComponent_of_refused (hnone : ∀ c own, ¬ GivesComponent path project c own)
    (h : ∀ cause, ¬ Interrupts path project cause) :
    ∃ e own detail, loadComponent .empty disk path = (.error e, own) ∧
      Stop.ofLoadFault e = .failure (path.text ++ ": " ++ detail) := by
  have htext : IsText project := by
    by_contra hnot
    exact h _ (.notText hnot)
  obtain ⟨text, hdecode⟩ := htext.exists_decode
  cases hdocument : readDocument path text with
  | error fault =>
    refine ⟨_, _, DescriptionFault.unparsable.message,
      loadComponent_of_fault hbytes hdecode hdocument, ?_⟩
    by_cases hjson : fault = .json .malformed
    · subst hjson
      rfl
    by_cases hyaml : fault = .yaml .malformed
    · subst hyaml
      rfl
    exact absurd (.document hdecode hdocument hjson hyaml) (h (.document fault))
  | ok data =>
    rcases hcomponent : componentOf .empty data path.text with ⟨(⟨source, fault⟩ | misuse) | c, own⟩
    · have hsource : source = path.text := by
        unfold componentOf at hcomponent
        split at hcomponent <;> cases hcomponent
        rfl
      subst hsource
      exact ⟨_, _, fault.message, loadComponent_of_data hbytes hdecode hdocument hcomponent, rfl⟩
    · exact absurd (.misuse hdecode hdocument hcomponent) (h (.misuse misuse))
    · exact absurd ⟨text, data, hdecode, hdocument, hcomponent⟩ (hnone c own)

end

/-! ### Runs over contents -/

theorem runFor_of_unconfigured {stop : Stop}
    (hproject : disk.readBytes (.ofString a.project) = .ok project)
    (h : baseSettings a environment disk = .error stop) :
    runFor screen a environment took disk = stop.outcome screen disk := by
  unfold runFor
  simp only [hasEntry_of_readBytes hproject, h]

section
variable (hproject : disk.readBytes (.ofString a.project) = .ok project)
  (hbase : baseSettings a environment disk = .ok s)
include hproject hbase

theorem runFor_of_undescribed {e : LoadFault}
    (h : loadComponent .empty disk (.ofString a.project) = (.error e, own)) :
    runFor screen a environment took disk = (Stop.ofLoadFault e).outcome screen disk := by
  unfold runFor
  simp only [hasEntry_of_readBytes hproject, hbase, h]

theorem runFor_of_described
    (h : loadComponent .empty disk (.ofString a.project) = (.ok c, own)) :
    runFor screen a environment took disk =
      generate screen c own (a.override s) took disk := by
  unfold runFor
  simp only [hasEntry_of_readBytes hproject, hbase, h]

end

/-- A project with a description of a component and a settings file of some content. -/
def projectWith (config : ByteArray) : FileTree :=
  projectOf (Json.write Json.indented sampleDescription).toUTF8 config

theorem readBytes_projectWith (config : ByteArray) :
    (projectWith config).readBytes (.ofString "nav.json") =
      .ok (Json.write Json.indented sampleDescription).toUTF8 ∧
    (projectWith config).readBytes (.ofString "conf.json") = .ok config :=
  readBytes_projectOf _ config

end Scaffold.CommandLine
