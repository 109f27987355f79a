import Scaffold.Proofs.Catalog.Session
import Scaffold.Proofs.Generation.Rendered
import Scaffold.Proofs.Template.Outline
import Scaffold.Template.Rendering

/-! Templates of a registry that is in use while files change.  A path is looked up in the files
until it has a template; from then on the registry gives that one.  A lookup that fails leaves no
trace, a rendering that fails after its lookup does, and paths do not get in each other's way. -/
namespace Scaffold

open FileTree Model

namespace Template

variable {disk : FileTree} {folder : Folder} {path : String} {t : Template}

/-! ### Templates from files -/

namespace Folder

/-- The file that a path of a folder names, as it is asked for. -/
def fileAt (folder : Folder) (path : String) : FilePath := folder.path.join (.ofString path)

/-- It can be told whether there is a file at a path of a folder. -/
def CanAsk (disk : FileTree) (folder : Folder) (path : String) : Prop :=
  (folder.tree disk).CanAsk (folder.fileAt path)

/-- Whether there is a file at a path of a folder. -/
def holds (disk : FileTree) (folder : Folder) (path : String) : Bool :=
  (folder.tree disk).holdsFile (folder.fileAt path)

theorem source_eq_none_iff : folder.source disk path = .ok none ↔
    (folder.tree disk).isFile (folder.fileAt path) = .ok false := by
  have hsource : folder.source disk path = ((folder.tree disk).isFile (folder.fileAt path)).bind
      fun there => if there then ((folder.tree disk).readText (folder.fileAt path)).map some
        else .ok none := rfl
  rw [hsource]
  rcases (folder.tree disk).isFile (folder.fileAt path) with e | _ | _
  · simp [Except.bind]
  · simp [Except.bind]
  · cases (folder.tree disk).readText (folder.fileAt path) <;> simp [Except.bind, Except.map]

/-- A template is had if there is a file with the text of one, and it has the name of its path. -/
theorem load_eq_ok_iff : folder.load disk path = .ok t ↔
    ∃ source, (folder.tree disk).readText (folder.fileAt path) = .ok source ∧
      parse source path = .ok t := by
  constructor
  · intro h
    rw [load] at h
    split at h
    · next source hsource =>
      refine ⟨source, source_eq_some_iff.mp hsource, ?_⟩
      cases hparse : parse source path with
      | error fault =>
        rw [hparse] at h
        cases h
      | ok t' =>
        rw [hparse] at h
        cases h
        rfl
    · cases h
    · cases h
  · rintro ⟨source, hread, hparse⟩
    rw [load, source_eq_some_iff.mpr hread]
    dsimp only
    rw [hparse]
    rfl

theorem load_eq_notFound_iff_isFile : folder.load disk path = .error (.notFound path folder) ↔
    (folder.tree disk).isFile (folder.fileAt path) = .ok false := by
  rw [← source_eq_none_iff, load]
  rcases folder.source disk path with e | _ | source
  · simp
  · simp
  · cases hparse : parse source path <;> simp [Except.mapError, hparse]

/-- A template is not found if there is no file, and only then. -/
theorem load_eq_notFound_iff (hask : folder.CanAsk disk path) :
    folder.load disk path = .error (.notFound path folder) ↔ folder.holds disk path = false := by
  rw [load_eq_notFound_iff_isFile, isFile_of_canAsk hask, Except.ok.injEq, holds]

end Folder

namespace Registry

/-! ### Sessions -/

/-- A registry in use, with the files around it. -/
structure Session where
  disk : FileTree
  registry : Registry

/-- What is done in a session: something with the registry, or a change of the files. -/
inductive Step where
  | get (path : String)
  | render (own : Ownership) (path : String) (model : Value) (extra : Bindings)
  | change (disk : FileTree)

/-- The path whose template a step looks up.  A rendering with a further binding that must not be
is refused before it does. -/
def Step.path? : Step → Option String
  | .get path => some path
  | .render _ path _ extra =>
    match Entrance.path.admit extra with
    | .ok () => some path
    | .error _ => none
  | .change _ => none

/-- The files after a step. -/
def Step.leaves (disk : FileTree) : Step → FileTree
  | .get _ | .render .. => disk
  | .change disk' => disk'

/-- Whether a step looks up a path or changes the files. -/
def Step.concerns (path : String) : Step → Bool
  | .change _ => true
  | step => step.path? == some path

namespace Session

def get (s : Session) (path : String) : Except LookupFault Template × Registry :=
  s.registry.get s.disk path

def render (s : Session) (own : Ownership) (path : String) (model : Value) (extra : Bindings) :
    Except RenderingFault String × Registry :=
  s.registry.render s.disk own .path path model extra

/-- The session after a step. -/
def take (s : Session) : Step → Session
  | .get path => { s with registry := (s.get path).2 }
  | .render own path model extra => { s with registry := (s.render own path model extra).2 }
  | .change disk => { s with disk }

/-- The session after some steps. -/
def run (s : Session) (steps : List Step) : Session := steps.foldl take s

/-! ### What a step does -/

variable {s : Session} {step : Step} {steps : List Step} {own : Ownership} {model : Value}
  {extra : Bindings} {e : LookupFault}

theorem get_of_known (h : s.registry.known.lookup path = some t) :
    s.get path = (.ok t, s.registry) := by
  rw [get, Registry.get, h]

theorem get_of_unknown (h : s.registry.known.lookup path = none) :
    (s.get path).1 = s.registry.folder.load s.disk path := by
  rw [get, Registry.get, h]
  dsimp only
  cases s.registry.folder.load s.disk path <;> rfl

/-- A lookup that fails leaves the registry as it was. -/
theorem registry_of_error (h : (s.get path).1 = .error e) : (s.get path).2 = s.registry := by
  rw [get, Registry.get] at h ⊢
  cases hknown : s.registry.known.lookup path with
  | some t => rfl
  | none =>
    rw [hknown] at h
    dsimp only at h ⊢
    cases hload : s.registry.folder.load s.disk path with
    | ok t =>
      rw [hload] at h
      cases h
    | error e => rfl

/-- A rendering is refused for its bindings, or looks up its template and renders that. -/
theorem render_eq (s : Session) (own : Ownership) (path : String) (model : Value)
    (extra : Bindings) : s.render own path model extra =
      match Entrance.path.admit extra with
      | .error fault => (.error fault, s.registry)
      | .ok () => (((s.get path).1.mapError .lookup).bind (renderModel own · model extra),
          (s.get path).2) := by
  rw [render, Registry.render]
  cases Entrance.path.admit extra with
  | error fault => rfl
  | ok _ =>
    dsimp only
    rw [get]
    rcases s.registry.get s.disk path with ⟨e | t, r⟩ <;> rfl

/-- A step does with the registry what the lookup of its path does. -/
theorem registry_take (s : Session) (step : Step) : (s.take step).registry =
    match step.path? with
    | some path => (s.get path).2
    | none => s.registry := by
  cases step with
  | get path => rfl
  | change disk => rfl
  | render own path model extra =>
    have htake : (s.take (.render own path model extra)).registry =
      (s.render own path model extra).2 := rfl
    rw [htake, render_eq, Step.path?]
    cases Entrance.path.admit extra <;> rfl

theorem disk_take (s : Session) (step : Step) : (s.take step).disk = step.leaves s.disk := by
  cases step <;> rfl

theorem folder_take (s : Session) (step : Step) :
    (s.take step).registry.folder = s.registry.folder := by
  rw [registry_take]
  split
  · exact folder_get s.disk s.registry _
  · rfl

theorem folder_run (s : Session) (steps : List Step) :
    (s.run steps).registry.folder = s.registry.folder :=
  List.foldlRecOn (motive := fun s' => s'.registry.folder = s.registry.folder) steps take rfl
    fun s' h step _ => (folder_take s' step).trans h

end Session

/-! ### The first template that was had -/

/-- The template that a step has for a path. -/
def Step.had? (folder : Folder) (disk : FileTree) (path : String) (step : Step) : Option Template :=
  if step.path? = some path then (folder.load disk path).toOption else none

/-- The template that the first step to have one for a path has, out of the files of that time. -/
def firstHad (folder : Folder) (path : String) : FileTree → List Step → Option Template
  | _, [] => none
  | disk, step :: rest =>
    (step.had? folder disk path).or (firstHad folder path (step.leaves disk) rest)

namespace Session

theorem lookup_get (s : Session) (path other : String) :
    (s.get path).2.known.lookup other = (s.registry.known.lookup other).or
      (if path = other then (s.registry.folder.load s.disk other).toOption else none) := by
  cases hknown : s.registry.known.lookup path with
  | some t =>
    rw [get_of_known hknown]
    by_cases hpath : path = other
    · rw [← hpath, hknown, Option.some_or]
    · rw [if_neg hpath, Option.or_none]
  | none =>
    rw [get, Registry.get, hknown]
    dsimp only
    by_cases hpath : path = other
    · rw [if_pos hpath, ← hpath, hknown, Option.none_or]
      cases s.registry.folder.load s.disk path with
      | error e => exact hknown
      | ok t => exact List.lookup_cons_self
    · rw [if_neg hpath, Option.or_none]
      cases s.registry.folder.load s.disk path with
      | error e => rfl
      | ok t =>
        have hne : (other == path) = false := beq_false_of_ne (Ne.symm hpath)
        simp only [know, List.lookup_cons, hne]

theorem lookup_take (s : Session) (step : Step) (path : String) :
    (s.take step).registry.known.lookup path =
      (s.registry.known.lookup path).or (step.had? s.registry.folder s.disk path) := by
  rw [registry_take, Step.had?]
  cases step.path? with
  | none => simp
  | some other => simp [lookup_get]

/-- What is known of a path is the first template that was had for it. -/
theorem lookup_run (s : Session) (steps : List Step) (path : String) :
    (s.run steps).registry.known.lookup path =
      (s.registry.known.lookup path).or (firstHad s.registry.folder path s.disk steps) := by
  induction steps generalizing s with
  | nil => simp [run, firstHad]
  | cons step rest ih =>
    have hrun : s.run (step :: rest) = (s.take step).run rest := rfl
    rw [hrun, ih, lookup_take, folder_take, disk_take, Option.or_assoc, firstHad]

theorem disk_run (s : Session) (steps : List Step) :
    (s.run steps).disk = steps.foldl Step.leaves s.disk := by
  induction steps generalizing s with
  | nil => rfl
  | cons step rest ih =>
    have hrun : s.run (step :: rest) = (s.take step).run rest := rfl
    rw [hrun, ih, disk_take, List.foldl_cons]

end Session

/-! ### Steps for other paths -/

theorem Step.of_not_concerns {step : Step} (h : step.concerns path = false) :
    step.path? ≠ some path ∧ ∀ disk, step.leaves disk = disk := by
  cases step with
  | change disk => cases h
  | get path' => exact ⟨beq_eq_false_iff_ne.mp h, fun _ => rfl⟩
  | render own path' model extra => exact ⟨beq_eq_false_iff_ne.mp h, fun _ => rfl⟩

theorem firstHad_filter (folder : Folder) (path : String) (disk : FileTree) (steps : List Step) :
    firstHad folder path disk (steps.filter (·.concerns path)) =
      firstHad folder path disk steps := by
  induction steps generalizing disk with
  | nil => rfl
  | cons step rest ih =>
    cases h : step.concerns path with
    | true => rw [List.filter_cons_of_pos h, firstHad, firstHad, ih]
    | false =>
      obtain ⟨hpath, hdisk⟩ := Step.of_not_concerns h
      rw [List.filter_cons_of_neg (by simp [h]), ih, firstHad, Step.had?, if_neg hpath, hdisk,
        Option.none_or]

theorem foldl_leaves_filter (path : String) (disk : FileTree) (steps : List Step) :
    (steps.filter (·.concerns path)).foldl Step.leaves disk = steps.foldl Step.leaves disk := by
  induction steps generalizing disk with
  | nil => rfl
  | cons step rest ih =>
    cases h : step.concerns path with
    | true => rw [List.filter_cons_of_pos h, List.foldl_cons, List.foldl_cons, ih]
    | false =>
      rw [List.filter_cons_of_neg (by simp [h]), ih, List.foldl_cons, (Step.of_not_concerns h).2]

/-! ### Whole sessions -/

section
variable {folder : Folder} {steps : List Step} {s : Session}
  (hs : s = Session.run ⟨disk, fresh folder⟩ steps)
include hs

theorem folder_of_run : s.registry.folder = folder := by
  rw [hs, Session.folder_run]
  rfl

theorem lookup_of_run (path : String) :
    s.registry.known.lookup path = firstHad folder path disk steps := by
  rw [hs, Session.lookup_run]
  rfl

/-- A path gives the first template that was had for it, and without such a one what its file gives
now. -/
theorem get_of_run (path : String) : (s.get path).1 =
    match firstHad folder path disk steps with
    | some t => .ok t
    | none => folder.load s.disk path := by
  have hlookup := lookup_of_run hs path
  cases hhad : firstHad folder path disk steps with
  | some t => rw [Session.get_of_known (hlookup.trans hhad)]
  | none =>
    rw [Session.get_of_unknown (hlookup.trans hhad), folder_of_run hs]

end

theorem get_filter (folder : Folder) (disk : FileTree) (steps : List Step) (path : String) :
    ((Session.run ⟨disk, fresh folder⟩ steps).get path).1 =
      ((Session.run ⟨disk, fresh folder⟩ (steps.filter (·.concerns path))).get path).1 := by
  rw [get_of_run rfl, get_of_run rfl, firstHad_filter, Session.disk_run, Session.disk_run,
    foldl_leaves_filter]

/-- In every session that starts with a fresh registry, whatever is done with it and with the files:
a path gives the first template that was had for it, now and later, and before there is one what its
file gives at the time, which is not found exactly if there is no file.  A lookup that fails leaves
the registry as it was; a rendering is refused for its further bindings and leaves it too, or does
with the registry what the lookup does and renders that template; and nothing that is done with other
paths makes a difference. -/
theorem session_templates (folder : Folder) (disk : FileTree) (steps : List Step) {s : Session}
    (hs : s = Session.run ⟨disk, fresh folder⟩ steps) (path : String) :
    (∀ t, firstHad folder path disk steps = some t →
      ∀ later, ((s.run later).get path).1 = .ok t) ∧
    (firstHad folder path disk steps = none →
      (s.get path).1 = folder.load s.disk path) ∧
    (∀ disk t, folder.load disk path = .ok t ↔
      ∃ source, (folder.tree disk).readText (folder.fileAt path) = .ok source ∧
        parse source path = .ok t) ∧
    (∀ disk, folder.CanAsk disk path →
      (folder.load disk path = .error (.notFound path folder) ↔
        folder.holds disk path = false)) ∧
    (∀ e, (s.get path).1 = .error e → s.take (.get path) = s) ∧
    (∀ own model extra, match Entrance.path.admit extra with
      | .error fault => s.render own path model extra = (.error fault, s.registry)
      | .ok () => s.render own path model extra =
        (((s.get path).1.mapError .lookup).bind (renderModel own · model extra),
          (s.take (.get path)).registry)) ∧
    (s.get path).1 =
      ((Session.run ⟨disk, fresh folder⟩ (steps.filter (·.concerns path))).get path).1 := by
  refine ⟨?_, ?_, ?_, ?_, ?_, ?_, ?_⟩
  · intro t hhad later
    have hknown := (lookup_of_run hs path).trans hhad
    have hlater : (s.run later).registry.known.lookup path = some t := by
      rw [Session.lookup_run, hknown, Option.some_or]
    rw [Session.get_of_known hlater]
  · intro hhad
    rw [get_of_run hs, hhad]
  · intro disk t
    exact Folder.load_eq_ok_iff
  · intro disk hask
    exact Folder.load_eq_notFound_iff hask
  · intro e he
    have hregistry := Session.registry_of_error he
    change { s with registry := (s.get path).2 } = s
    rw [hregistry]
  · intro own model extra
    have hrender := Session.render_eq s own path model extra
    cases hextra : Entrance.path.admit extra with
    | error fault | ok _ =>
      rw [hextra] at hrender
      exact hrender
  · rw [hs]
    exact get_filter folder disk steps path

/-! ### A rendering that fails -/

/-- Files with one template. -/
def filesWith (source : String) : FileTree :=
  ⟨["w"], [(["w", "t"], .directory), (["w", "t", "x.tmpl"], .file source.toUTF8)]⟩

/-- A template that needs a binding. -/
def needy : List Outline := [.line [.inset (.path ⟨"a", []⟩)]]

def sampleFolder : Folder := .directory (.ofString "t")

theorem load_filesWith {os : List Outline} (hwritable : bodyIsWritable os = true)
    (hreturns : '\r' ∉ (sourceOf os).toList) :
    sampleFolder.load (filesWith (sourceOf os)) "x.tmpl" = .ok ⟨"x.tmpl", outlineChunks os⟩ := by
  have hbytes : (filesWith (sourceOf os)).readBytes
      ((FilePath.ofString "t").join (.ofString "x.tmpl")) = .ok (sourceOf os).toUTF8 := by
    rfl
  have hread := readText_eq_ok_iff.mpr ⟨_, hbytes, decode_toUTF8 hreturns⟩
  exact Folder.load_eq_ok_iff.mpr ⟨_, hread, parse_sourceOf hwritable "x.tmpl"⟩

theorem load_needy : sampleFolder.load (filesWith (sourceOf needy)) "x.tmpl" =
    .ok ⟨"x.tmpl", outlineChunks needy⟩ := by
  apply load_filesWith
  · decide
  · rw [sourceOf, String.toList_ofList]
    decide

/-- A session with that template. -/
def sampleSession : Session := ⟨filesWith (sourceOf needy), fresh sampleFolder⟩

/-- Renders the template without the binding. -/
def failing : Step := .render .empty "x.tmpl" (.dict []) []

theorem get_sampleSession :
    (sampleSession.get "x.tmpl").1 = .ok ⟨"x.tmpl", outlineChunks needy⟩ := by
  have hload : sampleFolder.load sampleSession.disk "x.tmpl" = _ := load_needy
  rw [Session.get_of_unknown rfl]
  exact hload

theorem firstHad_sample {step : Step} (h : step.path? = some "x.tmpl") (rest : List Step) :
    firstHad sampleFolder "x.tmpl" (filesWith (sourceOf needy)) (step :: rest) =
      some ⟨"x.tmpl", outlineChunks needy⟩ := by
  rw [firstHad, Step.had?, if_pos h, load_needy]
  rfl

/-- The template is given when its file is gone. -/
theorem session_templates_sample :
    ((sampleSession.run [.get "x.tmpl", .change (.emptyAt ["w"])]).get "x.tmpl").1 =
      .ok ⟨"x.tmpl", outlineChunks needy⟩ := by
  have hs : sampleSession.run [.get "x.tmpl"] =
      Session.run ⟨filesWith (sourceOf needy), fresh sampleFolder⟩ [.get "x.tmpl"] := rfl
  obtain ⟨hkept, -⟩ := session_templates _ _ _ hs "x.tmpl"
  exact hkept _ (firstHad_sample rfl []) [.change (.emptyAt ["w"])]

/-- A rendering that fails teaches the registry its template, which is given from then on, also when
the file has another one. -/
theorem failed_rendering_is_remembered : ∃ fault,
    (sampleSession.render .empty "x.tmpl" (.dict []) []).1 = .error (.render fault) ∧
    sampleSession.take failing ≠ sampleSession ∧
    ((sampleSession.run [failing, .change (filesWith (sourceOf []))]).get "x.tmpl").1 ≠
      sampleFolder.load (filesWith (sourceOf [])) "x.tmpl" := by
  refine ⟨⟨"x.tmpl", 1, .unresolved "a" "a" .scope⟩, ?_, ?_, ?_⟩
  · have hrender : renderModel .empty ⟨"x.tmpl", outlineChunks needy⟩ (.dict []) [] =
        .error (.render ⟨"x.tmpl", 1, .unresolved "a" "a" .scope⟩) := by
      decide
    rw [Session.render_eq]
    change ((sampleSession.get "x.tmpl").1.mapError _).bind _ = _
    rw [get_sampleSession]
    exact hrender
  · intro heq
    have hs : sampleSession.take failing =
        Session.run ⟨filesWith (sourceOf needy), fresh sampleFolder⟩ [failing] := rfl
    have hlookup := lookup_of_run hs "x.tmpl"
    rw [firstHad_sample rfl, heq] at hlookup
    cases hlookup
  · have hmended : sampleFolder.load (filesWith (sourceOf [])) "x.tmpl" =
        .ok ⟨"x.tmpl", outlineChunks []⟩ :=
      load_filesWith (by decide) (by decide)
    have hget : ((sampleSession.run [failing, .change (filesWith (sourceOf []))]).get "x.tmpl").1 =
        .ok ⟨"x.tmpl", outlineChunks needy⟩ := by
      have hs : sampleSession.run [failing, .change (filesWith (sourceOf []))] =
          Session.run ⟨filesWith (sourceOf needy), fresh sampleFolder⟩
            [failing, .change (filesWith (sourceOf []))] := rfl
      have hfirst := get_of_run hs "x.tmpl"
      rw [firstHad_sample rfl] at hfirst
      exact hfirst
    rw [hget, hmended]
    intro heq
    have hchunks : (outlineChunks needy).length = (outlineChunks []).length :=
      congrArg (fun t => t.chunks.length) (Except.ok.inj heq)
    exact absurd hchunks (by decide)

end Registry

end Template

end Scaffold
