import Scaffold.Generation.Basic
import Scaffold.Proofs.Files.Content

/-! What a run renders.  A registry that keeps only what its folder holds changes nothing, so each
rendering is a function of its task, its template and the files as they were before the run. -/
namespace Scaffold

open FileTree Model Template

/-! ### Registries -/

/-- A registry knows nothing but templates of a list, each as its folder holds it. -/
def Template.Registry.IsFaithful (disk : FileTree) (templates : List String) (r : Registry) :
    Prop :=
  ∀ path t, r.known.lookup path = some t → path ∈ templates ∧ r.folder.load disk path = .ok t

namespace Template.Registry

variable {disk : FileTree} {templates : List String} {r : Registry}

theorem isFaithful_fresh (disk : FileTree) (templates : List String) (folder : Folder) :
    (fresh folder).IsFaithful disk templates := fun _ _ h => by cases h

theorem folder_get (disk : FileTree) (r : Registry) (path : String) :
    (r.get disk path).2.folder = r.folder := by
  rw [Registry.get]
  cases r.known.lookup path with
  | some t => rfl
  | none =>
    dsimp only
    cases r.folder.load disk path <;> rfl

/-- A faithful registry gives what the folder holds, and stays faithful. -/
theorem IsFaithful.get {path : String} (h : r.IsFaithful disk templates)
    (hpath : path ∈ templates) : ∃ r', r.get disk path = (r.folder.load disk path, r') ∧
      r'.folder = r.folder ∧ r'.IsFaithful disk templates := by
  rw [Registry.get]
  cases hknown : r.known.lookup path with
  | some t => exact ⟨r, by rw [(h path t hknown).2], rfl, h⟩
  | none =>
    cases hload : r.folder.load disk path with
    | error e => exact ⟨r, rfl, rfl, h⟩
    | ok t =>
      refine ⟨r.know path t, rfl, rfl, fun path' t' ht' => ?_⟩
      rw [know, List.lookup_cons] at ht'
      split at ht'
      · next heq =>
        rw [eq_of_beq heq, ← Option.some.inj ht']
        exact ⟨hpath, hload⟩
      · exact h path' t' ht'

theorem IsFaithful.of_load {disk' : FileTree} (h : r.IsFaithful disk templates)
    (hload : ∀ path ∈ templates, r.folder.load disk' path = r.folder.load disk path) :
    r.IsFaithful disk' templates := by
  intro path t ht
  obtain ⟨hpath, hl⟩ := h path t ht
  exact ⟨hpath, (hload path hpath).trans hl⟩

end Template.Registry

/-! ### Templates that are read -/

theorem Template.Folder.source_eq_some_iff {disk : FileTree} {folder : Folder} {path x : String} :
    folder.source disk path = .ok (some x) ↔
      (folder.tree disk).readText (folder.path.join (.ofString path)) = .ok x := by
  rw [source]
  constructor
  · intro h
    rcases hfile : (folder.tree disk).isFile (folder.path.join (.ofString path)) with e | b
    · rw [hfile] at h
      cases h
    · rw [hfile] at h
      cases b with
      | false => cases h
      | true =>
        cases hr : (folder.tree disk).readText (folder.path.join (.ofString path)) with
        | error e => simp [hr, bind, Except.bind, Except.map] at h
        | ok y =>
          simp only [hr, bind, Except.bind, Except.map, if_true] at h
          rw [Option.some.inj (Except.ok.inj h)]
  · intro h
    obtain ⟨content, hr, -⟩ := readText_eq_ok_iff.mp h
    simp only [isFile, look_of_readBytes hr, h, bind, Except.bind, Except.map, if_true]

/-! ### Output paths -/

/-- A pattern whose fields are all the same name, as it is. -/
def Pattern.usesOnly (name pattern : String) : Bool :=
  (Pattern.pieces pattern.toList).all fun
    | .literal _ => true
    | .field f => f = ⟨name.toList, none, []⟩
    | .fault _ => false

theorem Pattern.fillField_basename (basename : String) :
    fillField [("basename", basename)] ⟨"basename".toList, none, []⟩ (.ok []) =
      .ok basename.toList := by
  have hhead : "basename".toList.takeWhile (!endsHead ·) = "basename".toList := by decide
  have hrest : "basename".toList.dropWhile (!endsHead ·) = [] := by decide
  have hnumber : wholeNumber? "basename".toList = .ok none := by rfl
  have hempty : "basename".toList.isEmpty = false := by decide
  have hname : List.lookup (String.ofList "basename".toList) [("basename", basename)] =
      some basename := by
    rw [String.ofList_toList, List.lookup_cons_self]
  simp only [fillField, hhead, hrest, headOf, hnumber, hempty, hname, select, convert]
  rfl

/-- A pattern of the basename alone can be filled in. -/
theorem Pattern.fill_of_usesOnly {pattern : String} (h : usesOnly "basename" pattern = true)
    (basename : String) : ∃ path, fill pattern [("basename", basename)] = .ok path := by
  suffices ∃ cs, fillTo [("basename", basename)] 2 pattern.toList = .ok cs by
    obtain ⟨cs, hcs⟩ := this
    exact ⟨String.ofList cs, by rw [fill, hcs]; rfl⟩
  rw [fillTo]
  unfold usesOnly at h
  generalize pieces pattern.toList = ps at h ⊢
  induction ps with
  | nil => exact ⟨[], rfl⟩
  | cons piece rest ih =>
    rw [List.all_cons, Bool.and_eq_true] at h
    obtain ⟨hpiece, hrest⟩ := h
    obtain ⟨cs, hcs⟩ := ih hrest
    cases piece with
    | literal c => exact ⟨c :: cs, by rw [fillPieces, hcs]; rfl⟩
    | field f =>
      obtain rfl : f = ⟨"basename".toList, none, []⟩ := of_decide_eq_true hpiece
      refine ⟨basename.toList ++ cs, ?_⟩
      rw [fillPieces, hcs]
      simp only [List.contains_nil, Bool.false_eq_true, if_false, fillField_basename]
      rfl
    | fault e => cases hpiece

theorem Pattern.fillPieces_literals (fillOne : Field → Except PatternFault (List Char)) (cs : List Char)
    {rest : List Piece} {text : List Char} (h : fillPieces fillOne rest = .ok text) :
    fillPieces fillOne (cs.map .literal ++ rest) = .ok (cs ++ text) := by
  induction cs with
  | nil => exact h
  | cons c cs ih =>
    rw [List.map_cons, List.cons_append, fillPieces, ih]
    rfl

/-- A pattern with one field for the basename. -/
theorem Pattern.fill_of_pieces {pattern : String} {before after : List Char}
    (h : pieces pattern.toList =
      before.map .literal ++ .field ⟨"basename".toList, none, []⟩ :: after.map .literal)
    (basename : String) : fill pattern [("basename", basename)] =
      .ok (String.ofList before ++ basename ++ String.ofList after) := by
  have hafter (fillOne : Field → Except PatternFault (List Char)) :
      fillPieces fillOne (after.map .literal) = .ok after := by
    have hnil : fillPieces fillOne [] = .ok [] := rfl
    have hall := fillPieces_literals fillOne after hnil
    rwa [List.append_nil, List.append_nil] at hall
  have hfill : fillTo [("basename", basename)] 2 pattern.toList =
      .ok (before ++ (basename.toList ++ after)) := by
    rw [fillTo, h]
    apply fillPieces_literals
    rw [fillPieces, hafter]
    simp only [List.contains_nil, Bool.false_eq_true, if_false, fillField_basename]
    rfl
  rw [fill, hfill]
  show Except.ok (String.ofList (before ++ (basename.toList ++ after))) = _
  rw [String.ofList_append, String.ofList_append, String.ofList_toList, String.append_assoc]

namespace Generator

variable {own : Ownership} {disk : FileTree} {c : Component} {s : Settings} {t : Task}
  {r : Registry}

/-! ### Renderings -/

/-- What a template makes of a task: the path of the output as seen from the output directory, and
its text. -/
def rendering (own : Ownership) (disk : FileTree) (s : Settings) (t : Task) (template : String) :
    Except TaskFault (FilePath × String) := do
  let path ← (s.outputPath template t.basename).mapError .output
  let parsed ← ((folderOf s).load disk template).mapError .template
  let text ← (parsed.render own [taskBindings own t]).mapError .render
  return (path, text)

/-- What all templates make of a task, in their order, or the first fault. -/
def renderings (own : Ownership) (disk : FileTree) (s : Settings) (t : Task) :
    Except TaskFault Renderings :=
  s.taskTemplates.templates.mapM (rendering own disk s t)

/-- The output paths of a task; a template that has none is left out. -/
def outputsOf (s : Settings) (t : Task) : List FilePath :=
  s.taskTemplates.templates.filterMap fun template =>
    (s.outputPath template t.basename).toOption

/-- Tasks are rendered alike where the templates are the same. -/
theorem renderings_congr (own : Ownership) {disk' : FileTree}
    (h : ∀ template ∈ s.taskTemplates.templates,
      (folderOf s).load disk' template = (folderOf s).load disk template) :
    renderings own disk' s = renderings own disk s := by
  funext t
  unfold renderings
  apply mapM_congr
  intro template ht
  unfold rendering
  rw [h template ht]

theorem outputPath_of_usesOnly {template : String}
    (h : ∀ e ∈ s.taskTemplates.entries, Pattern.usesOnly "basename" e.2 = true)
    (ht : template ∈ s.taskTemplates.templates) (basename : String) :
    ∃ path, s.outputPath template basename = .ok path := by
  obtain ⟨e, he, rfl⟩ := List.mem_map.mp ht
  unfold Settings.outputPath TemplateTable.pattern?
  cases hpattern : s.taskTemplates.entries.lookup e.1 with
  | none =>
    have hne := List.lookup_eq_none_iff.mp hpattern e he
    simp at hne
  | some pattern =>
    obtain ⟨before, after, hentries, -⟩ := List.lookup_eq_some_iff.mp hpattern
    have hmem : (e.1, pattern) ∈ s.taskTemplates.entries := by simp [hentries]
    obtain ⟨path, hpath⟩ := Pattern.fill_of_usesOnly (h _ hmem) basename
    exact ⟨.ofString path, by simp only [hpath]⟩

theorem outputPath_of_rendering {template text : String} {path : FilePath}
    (h : rendering own disk s t template = .ok (path, text)) :
    s.outputPath template t.basename = .ok path := by
  rw [rendering] at h
  rcases ho : s.outputPath template t.basename with e | path'
  · rw [ho] at h
    cases h
  · rw [ho] at h
    rcases hl : (folderOf s).load disk template with e | parsed
    · rw [hl] at h
      cases h
    · rw [hl] at h
      rcases hx : parsed.render own [taskBindings own t] with e | text'
      · simp [hx, Except.mapError, bind, Except.bind] at h
      · simp [hx, Except.mapError, bind, Except.bind, pure, Except.pure] at h
        rw [h.1]

theorem name_of_load {folder : Folder} {path : String} {parsed : Template}
    (h : folder.load disk path = .ok parsed) : parsed.name = path := by
  unfold Folder.load at h
  split at h
  · next source _ =>
    unfold Template.parse at h
    split at h
    · cases h
      rfl
    · cases h
  · cases h
  · cases h

theorem template_of_render {parsed : Template} {scope : Scope} {e : RenderFault}
    (h : parsed.render own scope = .error e) : e.template = parsed.name := by
  unfold Template.render at h
  split at h
  · cases h
  · cases h
    rfl

theorem rendering_eq {template : String} {path : FilePath} {parsed : Template}
    (hpath : s.outputPath template t.basename = .ok path)
    (hload : (folderOf s).load disk template = .ok parsed) :
    rendering own disk s t template = match parsed.render own [taskBindings own t] with
      | .ok text => .ok (path, text)
      | .error e => .error (.render e) := by
  unfold rendering
  rw [hpath, hload]
  cases hr : parsed.render own [taskBindings own t] <;>
    simp only [Except.mapError, bind, Except.bind, hr]
  rfl

/-- What can become of a task and a template that can be had: a rendering, or a fault of the
template at one of its tags. -/
theorem rendering_cases (own : Ownership) {template : String}
    (hpath : ∃ path, s.outputPath template t.basename = .ok path)
    (hload : ∃ parsed, (folderOf s).load disk template = .ok parsed) :
    (∃ x, rendering own disk s t template = .ok x) ∨
      ∃ e, rendering own disk s t template = .error (.render e) ∧ e.template = template := by
  obtain ⟨path, hpath⟩ := hpath
  obtain ⟨parsed, hload⟩ := hload
  rw [rendering_eq hpath hload]
  cases hr : parsed.render own [taskBindings own t] with
  | ok text => exact .inl ⟨(path, text), rfl⟩
  | error e => exact .inr ⟨e, rfl, (template_of_render hr).trans (name_of_load hload)⟩

theorem setRendering_of_notMem {path : FilePath} {text : String} {done : Renderings}
    (h : path ∉ done.map (·.1)) : setRendering path text done = done ++ [(path, text)] := by
  induction done with
  | nil => rfl
  | cons x rest ih =>
    simp only [List.map_cons, List.mem_cons, not_or] at h
    rw [setRendering, if_neg (Ne.symm h.1), ih h.2, List.cons_append]

/-- The renderings that are kept: of those with one path the last text, in the place of the first. -/
def collected (texts : Renderings) : Renderings :=
  texts.foldl (fun done x => setRendering x.1 x.2 done) []

theorem mem_of_mem_setRendering {path : FilePath} {text : String} {x : FilePath × String}
    {done : Renderings} (h : x ∈ setRendering path text done) : x = (path, text) ∨ x ∈ done := by
  induction done with
  | nil => exact .inl (List.mem_singleton.mp h)
  | cons first rest ih =>
    rw [setRendering] at h
    split at h
    · rcases List.mem_cons.mp h with h | h
      · exact .inl h
      · exact .inr (List.mem_cons_of_mem _ h)
    · rcases List.mem_cons.mp h with rfl | h
      · exact .inr List.mem_cons_self
      · exact (ih h).imp_right (List.mem_cons_of_mem _)

theorem collected_subset (texts : Renderings) : collected texts ⊆ texts := by
  suffices ∀ done : Renderings,
      texts.foldl (fun done x => setRendering x.1 x.2 done) done ⊆ done ++ texts by
    simpa [collected] using this []
  induction texts with
  | nil => simp
  | cons first rest ih =>
    intro done x hx
    rcases List.mem_append.mp (ih _ hx) with hx | hx
    · rcases mem_of_mem_setRendering hx with rfl | hx <;> simp_all
    · simp [hx]

/-- Renderings with different paths are kept side by side. -/
theorem foldl_setRendering_of_nodup {done texts : Renderings}
    (h : (done.map (·.1) ++ texts.map (·.1)).Nodup) :
    texts.foldl (fun done x => setRendering x.1 x.2 done) done = done ++ texts := by
  induction texts generalizing done with
  | nil => simp
  | cons x rest ih =>
    have hpath : x.1 ∉ done.map (·.1) := fun hm =>
      (List.nodup_append.mp h).2.2 x.1 hm x.1 List.mem_cons_self rfl
    have hdone : ((done ++ [(x.1, x.2)]).map (·.1) ++ rest.map (·.1)).Nodup := by
      simpa using h
    rw [List.foldl_cons, setRendering_of_notMem hpath, ih hdone, List.append_assoc]
    rfl

theorem collected_of_nodup {texts : Renderings} (h : (texts.map (·.1)).Nodup) :
    collected texts = texts :=
  foldl_setRendering_of_nodup h

theorem renderFrom_eq (own : Ownership) (t : Task) {all templates : List String}
    (done : Renderings) (hf : r.IsFaithful disk all) (hr : r.folder = folderOf s)
    (hsub : templates ⊆ all) : (renderFrom own disk s t r templates done).1 =
      (templates.mapM (rendering own disk s t)).map
        (·.foldl (fun done x => setRendering x.1 x.2 done) done) := by
  induction templates generalizing r done with
  | nil => simp [renderFrom, pure, Except.pure, Except.map]
  | cons template rest ih =>
    obtain ⟨htemplate, hrest⟩ := List.cons_subset.mp hsub
    obtain ⟨r', hg, hr', hf'⟩ := hf.get htemplate
    rw [hr] at hg hr'
    rw [renderFrom, List.mapM_cons, rendering, hg]
    rcases s.outputPath template t.basename with e | path
    · rfl
    rcases (folderOf s).load disk template with e | parsed
    · rfl
    rcases hx : parsed.render own [taskBindings own t] with e | text
    · simp only [hx, Except.mapError, bind, Except.bind, Except.map]
    · simp only [hx, Except.mapError, bind, Except.bind, pure, Except.pure]
      rw [ih _ hf' hr' hrest]
      cases rest.mapM (rendering own disk s t) <;> simp [Except.map]

/-- Whatever a registry knows, what is rendered has output paths of the task. -/
theorem mem_paths_of_renderFrom {templates : List String} {done texts : Renderings}
    (h : (renderFrom own disk s t r templates done).1 = .ok texts) : ∀ x ∈ texts,
      x.1 ∈ done.map (·.1) ∨
        x.1 ∈ templates.filterMap fun template => (s.outputPath template t.basename).toOption := by
  induction templates generalizing r done with
  | nil =>
    obtain rfl : done = texts := Except.ok.inj h
    exact fun x hx => .inl (List.mem_map_of_mem hx)
  | cons template rest ih =>
    rw [renderFrom] at h
    split at h
    · cases h
    · next path hpath =>
      have hpaths : path ∈ (template :: rest).filterMap fun template =>
          (s.outputPath template t.basename).toOption :=
        List.mem_filterMap.mpr ⟨template, List.mem_cons_self, by rw [hpath]; rfl⟩
      split at h
      · cases h
      · split at h
        · cases h
        · intro x hx
          rcases ih h x hx with hdone | hrest
          · obtain ⟨y, hy, heq⟩ := List.mem_map.mp hdone
            rcases mem_of_mem_setRendering hy with rfl | hy
            · exact .inr (heq ▸ hpaths)
            · exact .inl (heq ▸ List.mem_map_of_mem hy)
          · obtain ⟨other, hother, hx'⟩ := List.mem_filterMap.mp hrest
            exact .inr (List.mem_filterMap.mpr ⟨other, List.mem_cons_of_mem _ hother, hx'⟩)

theorem renderTask_eq (hf : r.IsFaithful disk s.taskTemplates.templates)
    (hr : r.folder = folderOf s) :
    (renderTask own disk ⟨c, s, r⟩ t).1 = (renderings own disk s t).map collected :=
  renderFrom_eq own t [] hf hr fun _ h => h

/-! ### Reading the templates first -/

theorem folder_readTemplates (disk : FileTree) (r : Registry) (templates : List String) :
    (readTemplates disk r templates).2.folder = r.folder := by
  induction templates generalizing r with
  | nil => rfl
  | cons template rest ih =>
    have hget := Registry.folder_get disk r template
    rw [readTemplates]
    generalize r.get disk template = got at hget ⊢
    obtain ⟨e | parsed, r'⟩ := got
    · exact hget
    · exact (ih r').trans hget

/-- What reading templates comes to: each is had, or one of them is not. -/
theorem readTemplates_cases {all templates : List String} (hf : r.IsFaithful disk all)
    (hsub : templates ⊆ all) : ∃ result r', readTemplates disk r templates = (result, r') ∧
      r'.folder = r.folder ∧ r'.IsFaithful disk all ∧
      ((result = .ok () ∧
          ∀ template ∈ templates, ∃ parsed, r.folder.load disk template = .ok parsed) ∨
        ∃ template ∈ templates, ∃ e, r.folder.load disk template = .error e ∧
          result = .error e) := by
  induction templates generalizing r with
  | nil => exact ⟨.ok (), r, rfl, rfl, hf, .inl ⟨rfl, by simp⟩⟩
  | cons first rest ih =>
    obtain ⟨hfirst, hrest⟩ := List.cons_subset.mp hsub
    obtain ⟨r₁, hg, hr₁, hf₁⟩ := hf.get hfirst
    rw [readTemplates, hg]
    cases hload : r.folder.load disk first with
    | error e => exact ⟨.error e, r₁, rfl, hr₁, hf₁, .inr ⟨first, List.mem_cons_self, e, hload, rfl⟩⟩
    | ok parsed =>
      obtain ⟨result, r', hrun, hr', hf', h⟩ := ih hf₁ hrest
      rw [hr₁] at hr' h
      refine ⟨result, r', hrun, hr', hf', ?_⟩
      rcases h with ⟨hok, hall⟩ | ⟨template, ht, e, he, herror⟩
      · exact .inl ⟨hok, List.forall_mem_cons.mpr ⟨⟨parsed, hload⟩, hall⟩⟩
      · exact .inr ⟨template, List.mem_cons_of_mem first ht, e, he, herror⟩

end Generator

end Scaffold
