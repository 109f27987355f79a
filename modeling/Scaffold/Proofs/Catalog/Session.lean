import Mathlib.Data.String.Basic
import Scaffold.Catalog
import Scaffold.Proofs.Description.Loading
import Scaffold.Proofs.Files.Spelling

/-! Lookups in a catalog, whatever else is done with it and with the files.  A component is known
under its own name, from its first successful lookup on, and a lookup that fails teaches nothing. -/
namespace Scaffold

open FileTree Model

/-! ### Paths that can be asked for -/

namespace FileTree

variable {t : FileTree} {p : FilePath} {ps : List FilePath}

/-- It can be told whether there is something at a path: none of its names is too long. -/
def CanAsk (t : FileTree) (p : FilePath) : Prop := ∃ e, t.look p = .ok e

instance (t : FileTree) (p : FilePath) : Decidable (t.CanAsk p) :=
  match h : t.look p with
  | .ok e => isTrue ⟨e, h⟩
  | .error _ => isFalse fun ⟨_, he⟩ => nomatch h.symm.trans he

/-- Whether there is a file at a path. -/
def holdsFile (t : FileTree) (p : FilePath) : Bool :=
  match t.look p with
  | .ok (some (.file _)) => true
  | _ => false

theorem canAsk_of_holdsFile (h : t.holdsFile p = true) : t.CanAsk p := by
  unfold holdsFile at h
  split at h
  · next content he => exact ⟨_, he⟩
  · cases h

theorem isFile_of_canAsk (h : t.CanAsk p) : t.isFile p = .ok (t.holdsFile p) := by
  obtain ⟨e, he⟩ := h
  unfold isFile holdsFile
  rw [he]
  rcases e with _ | _ | _ <;> rfl

theorem isFile_of_not_canAsk (h : ¬ t.CanAsk p) : t.isFile p = .error (.obstacle .tooLong p) := by
  have hlook : t.look p = .error (.obstacle .tooLong p) := by
    unfold CanAsk at h
    unfold look at h ⊢
    grind
  rw [isFile, hlook]
  rfl

/-- A search finds the first file, if nothing before it is in the way of asking. -/
theorem findM?_isFile (h : ∀ p ∈ ps.takeWhile (!t.holdsFile ·), t.CanAsk p) :
    ps.findM? t.isFile = .ok (ps.find? t.holdsFile) := by
  induction ps with
  | nil => rfl
  | cons p ps ih =>
    rw [List.findM?, List.find?_cons]
    rw [List.takeWhile_cons] at h
    cases hp : t.holdsFile p with
    | true =>
      rw [isFile_of_canAsk (canAsk_of_holdsFile hp), hp]
      rfl
    | false =>
      rw [hp] at h
      obtain ⟨hask, hps⟩ := List.forall_mem_cons.mp h
      rw [isFile_of_canAsk hask, hp]
      exact ih hps

theorem findM?_isFile_of_not (h : ¬ ∀ p ∈ ps.takeWhile (!t.holdsFile ·), t.CanAsk p) :
    ∃ p ∈ ps, ps.findM? t.isFile = .error (.obstacle .tooLong p) := by
  induction ps with
  | nil => exact absurd (List.forall_mem_nil _) h
  | cons p ps ih =>
    rw [List.findM?]
    by_cases hask : t.CanAsk p
    · rw [List.takeWhile_cons] at h
      cases hp : t.holdsFile p with
      | true =>
        rw [hp] at h
        exact absurd (List.forall_mem_nil _) h
      | false =>
        rw [hp] at h
        obtain ⟨q, hq, herror⟩ := ih fun hps => h (List.forall_mem_cons.mpr ⟨hask, hps⟩)
        rw [isFile_of_canAsk hask, hp]
        exact ⟨q, List.mem_cons_of_mem _ hq, herror⟩
    · rw [isFile_of_not_canAsk hask]
      exact ⟨p, List.mem_cons_self, rfl⟩

/-- It cannot be told what is at a name that is too long, in a directory that is there. -/
theorem look_of_long {place : Place} {name : String} (hplace : t.placeOf p = .ok place)
    (hdirectory : t.entry? place = some .directory) (hnull : p.hasNull = false)
    (hname : IsPart name)
    (hplain : '\x00' ∉ name.toList) (hlong : nameLimit < name.utf8ByteSize) :
    t.look (p.join (.ofString name)) = .error (.obstacle .tooLong (p.join (.ofString name))) := by
  have hroot : (p.join (.ofString name)).root = p.root := by
    rw [FilePath.ofString_of_isPart hname]
    rfl
  have hparts : (p.join (.ofString name)).parts = p.parts ++ [name] := by
    rw [FilePath.ofString_of_isPart hname]
    rfl
  have hnull' : (p.join (.ofString name)).hasNull = false := by
    unfold FilePath.hasNull at hnull ⊢
    rw [hparts, List.any_append, hnull]
    simpa using hplain
  have htooLong : t.placeOf (p.join (.ofString name)) = .error .tooLong := by
    rw [placeOf, hroot, hparts]
    split
    · rfl
    · rw [placeOf] at hplace
      split at hplace
      · cases hplace
      · rw [descend_append hplace, descend, hdirectory]
        simp only [hlong, if_true]
  rw [look, hnull', htooLong]
  rfl

end FileTree

namespace Catalog

variable {disk : FileTree} {c : Catalog} {own own' : Ownership} {name other : String}
  {x y : Component} {e : CatalogFault}

/-! ### What a lookup does -/

/-- The first of the places for the description of a component at which there is a file. -/
def described (disk : FileTree) (c : Catalog) (name : String) : Option FilePath :=
  (c.candidates name).find? disk.holdsFile

/-- Nothing is in the way of asking before there is a file. -/
def CanSearch (disk : FileTree) (c : Catalog) (name : String) : Prop :=
  ∀ p ∈ (c.candidates name).takeWhile (!disk.holdsFile ·), disk.CanAsk p

instance (disk : FileTree) (c : Catalog) (name : String) : Decidable (c.CanSearch disk name) :=
  inferInstanceAs (Decidable (∀ p ∈ (c.candidates name).takeWhile _, _))

theorem find?_eq_described (h : c.CanSearch disk name) :
    c.find? disk name = .ok (c.described disk name) :=
  findM?_isFile h

/-- What a lookup of a component comes to. -/
inductive LooksUp (disk : FileTree) (c : Catalog) (own : Ownership) (name : String) :
    Except CatalogFault Component × Catalog × Ownership → Prop
  | known {x : Component} : c.known.lookup name = some x → LooksUp disk c own name (.ok x, c, own)
  | unasked {e : FileFault} : c.known.lookup name = none → c.find? disk name = .error e →
      LooksUp disk c own name (.error (.load (.unreadable e)), c, own)
  | missing : c.known.lookup name = none → c.find? disk name = .ok none →
      LooksUp disk c own name (.error (.notFound (.component name)), c, own)
  | unloaded {path : FilePath} {e : LoadFault} {own' : Ownership} :
      c.known.lookup name = none → c.find? disk name = .ok (some path) →
      loadComponent own disk path = (.error e, own') →
      LooksUp disk c own name (.error (.load e), c, own')
  | misnamed {path : FilePath} {x : Component} {own' : Ownership} :
      c.known.lookup name = none → c.find? disk name = .ok (some path) →
      loadComponent own disk path = (.ok x, own') → x.name ≠ name →
      LooksUp disk c own name
        (.error (.load (.ofDescription path (.otherName x.name name))), c, own')
  | loaded {path : FilePath} {x : Component} {own' : Ownership} :
      c.known.lookup name = none → c.find? disk name = .ok (some path) →
      loadComponent own disk path = (.ok x, own') → x.name = name →
      LooksUp disk c own name (.ok x, c.register x, own')

theorem component_cases (disk : FileTree) (c : Catalog) (own : Ownership) (name : String) :
    LooksUp disk c own name (c.component disk own name) := by
  rw [component]
  cases hknown : c.known.lookup name with
  | some x => exact .known hknown
  | none =>
    dsimp only
    rcases hfind : c.find? disk name with e | _ | path
    · exact .unasked hknown hfind
    · exact .missing hknown hfind
    · dsimp only
      rcases hload : loadComponent own disk path with ⟨e | x, own'⟩
      · exact .unloaded hknown hfind hload
      · dsimp only
        by_cases hname : x.name = name
        · rw [if_pos hname]
          exact .loaded hknown hfind hload hname
        · rw [if_neg hname]
          exact .misnamed hknown hfind hload hname

theorem component_of_known (h : c.known.lookup name = some x) :
    c.component disk own name = (.ok x, c, own) := by
  rw [component, h]

/-- A lookup that fails leaves the catalog as it was. -/
theorem catalog_of_error (h : (c.component disk own name).1 = .error e) :
    (c.component disk own name).2.1 = c := by
  have hcases := component_cases disk c own name
  generalize c.component disk own name = result at h hcases
  cases hcases <;> first | rfl | cases h

theorem directories_component (disk : FileTree) (c : Catalog) (own : Ownership) (name : String) :
    (c.component disk own name).2.1.directories = c.directories := by
  have hcases := component_cases disk c own name
  generalize c.component disk own name = result at hcases
  cases hcases <;> rfl

/-- The owner and the base name in a qualified name. -/
def qualified? (name : String) : Option (String × String) :=
  match splitQualified? name.toList with
  | none | some (_, []) => none
  | some (owner, basename) => some (String.ofList owner, String.ofList basename)

/-- The search for a task does with the catalog what the lookup of its component does, and nothing
if the name is not qualified. -/
theorem catalog_task (disk : FileTree) (c : Catalog) (own : Ownership) (name : String) :
    (c.task disk own name).2 = match qualified? name with
      | none => (c, own)
      | some (owner, _) => (c.component disk own owner).2 := by
  unfold task qualified?
  rcases splitQualified? name.toList with _ | ⟨owner, _ | ⟨first, basename⟩⟩
  · rfl
  · rfl
  · dsimp only
    rcases c.component disk own (String.ofList owner) with ⟨e | x, c', own'⟩ <;> rfl

/-! ### What is known -/

theorem lookup_setComponent (l : List (String × Component)) :
    (setComponent name x l).lookup other = if other = name then some x else l.lookup other := by
  induction l with
  | nil => grind [setComponent]
  | cons first rest ih => grind [setComponent]

theorem lookup_register : (c.register x).known.lookup other =
    if other = x.name then some x else c.known.lookup other :=
  lookup_setComponent c.known

/-- Each component is known under its own name, and under no other. -/
structure IsSound (c : Catalog) : Prop where
  named : ∀ e ∈ c.known, e.2.name = e.1
  nodup : c.names.Nodup

theorem isSound_fresh (directories : List FilePath) : (fresh directories).IsSound :=
  ⟨List.forall_mem_nil _, List.nodup_nil⟩

theorem map_setComponent (l : List (String × Component)) :
    (setComponent name x l).map (·.1) =
      if name ∈ l.map (·.1) then l.map (·.1) else l.map (·.1) ++ [name] := by
  induction l with
  | nil => rfl
  | cons first rest ih => grind [setComponent]

theorem forall_mem_setComponent {P : String × Component → Prop} {l : List (String × Component)}
    (hx : P (name, x)) (hl : ∀ e ∈ l, P e) : ∀ e ∈ setComponent name x l, P e := by
  induction l with
  | nil => simpa [setComponent] using hx
  | cons first rest ih =>
    obtain ⟨hfirst, hrest⟩ := List.forall_mem_cons.mp hl
    rw [setComponent]
    split
    · exact List.forall_mem_cons.mpr ⟨hx, hrest⟩
    · exact List.forall_mem_cons.mpr ⟨hfirst, ih hrest⟩

theorem IsSound.register (h : c.IsSound) (x : Component) : (c.register x).IsSound where
  named := forall_mem_setComponent rfl h.named
  nodup := by
    have hnames : (c.register x).names = _ := map_setComponent c.known
    rw [hnames]
    split
    · exact h.nodup
    · next hnot => exact List.nodup_append.mpr ⟨h.nodup, by simp, by grind⟩

theorem IsSound.component (h : c.IsSound) (disk : FileTree) (own : Ownership) (name : String) :
    (c.component disk own name).2.1.IsSound := by
  have hcases := component_cases disk c own name
  generalize c.component disk own name = result at hcases
  cases hcases with
  | loaded => exact h.register _
  | known | unasked | missing | unloaded | misnamed => exact h

theorem known_of_ok (h : (c.component disk own name).1 = .ok x) :
    (c.component disk own name).2.1.known.lookup name = some x := by
  have hcases := component_cases disk c own name
  generalize c.component disk own name = result at h hcases
  cases hcases with
  | known hknown =>
    cases h
    exact hknown
  | loaded _ _ _ hname =>
    cases h
    exact lookup_register.trans (if_pos hname.symm)
  | unasked | missing | unloaded | misnamed => cases h

/-- No lookup changes what is known under a name. -/
theorem lookup_component (h : c.known.lookup other = some x) (disk : FileTree) (own : Ownership)
    (name : String) : (c.component disk own name).2.1.known.lookup other = some x := by
  have hcases := component_cases disk c own name
  generalize c.component disk own name = result at hcases
  cases hcases with
  | @loaded path y own' hnone _ _ hname =>
    have hne : other ≠ y.name := by
      rintro rfl
      rw [hname, hnone] at h
      cases h
    rw [lookup_register, if_neg hne, h]
  | known | unasked | missing | unloaded | misnamed => exact h

/-! ### Components that are not known -/

theorem described_eq_none_iff : c.described disk name = none ↔
    ∀ p ∈ c.candidates name, disk.holdsFile p = false := by
  simp [described]

section
variable (hnone : c.known.lookup name = none) (hsearch : c.CanSearch disk name)
include hnone hsearch

/-- A component that is not known comes from the first of its files. -/
theorem ok_iff_of_unknown : (c.component disk own name).1 = .ok x ↔
    ∃ path, c.described disk name = some path ∧ (loadComponent own disk path).1 = .ok x ∧
      x.name = name := by
  have hfind := find?_eq_described hsearch
  have hcases := component_cases disk c own name
  generalize c.component disk own name = result at hcases
  cases hcases with
  | known hknown => simp [hnone] at hknown
  | unasked _ hfault => simp [hfind] at hfault
  | missing _ hmissing =>
    rw [hfind] at hmissing
    simp [Except.ok.inj hmissing]
  | unloaded _ hpath hload =>
    rw [hfind] at hpath
    simp [Except.ok.inj hpath, hload]
  | misnamed _ hpath hload hname =>
    rw [hfind] at hpath
    simp only [Except.ok.inj hpath, reduceCtorEq, false_iff]
    rintro ⟨path, hsome, hx, hname'⟩
    cases hsome
    rw [hload] at hx
    cases hx
    exact hname hname'
  | loaded _ hpath hload hname =>
    rw [hfind] at hpath
    simp only [Except.ok.inj hpath, Option.some.injEq, Except.ok.injEq, exists_eq_left', hload]
    exact ⟨fun h => ⟨h, h ▸ hname⟩, fun h => h.1⟩

/-- A component that is not known is not found if it has no file, and only then. -/
theorem notFound_iff_of_unknown {e : NotFound} :
    (c.component disk own name).1 = .error (.notFound e) ↔
      e = .component name ∧ ∀ p ∈ c.candidates name, disk.holdsFile p = false := by
  have hfind := find?_eq_described hsearch
  have hcases := component_cases disk c own name
  rw [← described_eq_none_iff]
  generalize c.component disk own name = result at hcases
  cases hcases with
  | known hknown => simp [hnone] at hknown
  | unasked _ hfault => simp [hfind] at hfault
  | missing _ hmissing =>
    rw [hfind] at hmissing
    simp [Except.ok.inj hmissing, eq_comm]
  | unloaded _ hpath | misnamed _ hpath | loaded _ hpath =>
    rw [hfind] at hpath
    simp [Except.ok.inj hpath]

end

/-- Where a name is too long to be asked for, before there is a file, a lookup is refused. -/
theorem unreadable_of_unknown (hnone : c.known.lookup name = none)
    (hsearch : ¬ c.CanSearch disk name) : ∃ p ∈ c.candidates name,
      (c.component disk own name).1 = .error (.load (.unreadable (.obstacle .tooLong p))) := by
  obtain ⟨p, hp, hfault⟩ := findM?_isFile_of_not hsearch
  have hfind : c.find? disk name = .error (.obstacle .tooLong p) := hfault
  refine ⟨p, hp, ?_⟩
  rw [component, hnone]
  dsimp only
  rw [hfind]

section
variable {d : FilePath} {place : Place} (hplace : disk.placeOf d = .ok place)
  (hdirectory : disk.entry? place = some .directory) (hnull : d.hasNull = false)
  (hslash : '/' ∉ name.toList) (hplain : '\x00' ∉ name.toList)
  (hlong : nameLimit < name.utf8ByteSize)
include hplace hdirectory hnull hslash hplain hlong

/-- It cannot be told whether a component is described in a directory, if its name is too long. -/
theorem look_description_of_long {suffix : String} (hsuffix : suffix ∈ descriptionSuffixes) :
    disk.look (d.join (.ofString (name ++ suffix))) =
      .error (.obstacle .tooLong (d.join (.ofString (name ++ suffix)))) := by
  have hsuffixes : ∀ s ∈ descriptionSuffixes, '/' ∉ s.toList ∧ '\x00' ∉ s.toList := by decide
  obtain ⟨hslash', hplain'⟩ := hsuffixes suffix hsuffix
  have hlong' : nameLimit < (name ++ suffix).utf8ByteSize := by
    rw [String.utf8ByteSize_append]
    omega
  have hpart : IsPart (name ++ suffix) := by
    refine ⟨fun heq => ?_, fun heq => ?_, by simp [hslash, hslash']⟩ <;>
      (rw [heq] at hlong'; exact absurd hlong' (by decide))
  exact look_of_long hplace hdirectory hnull hpart (by simp [hplain, hplain']) hlong'

/-- A name that is too long for a file cannot be searched for where the first directory is. -/
theorem not_canSearch_of_long {ds : List FilePath} (hd : c.directories = d :: ds) :
    ¬ c.CanSearch disk name := by
  obtain ⟨rest, hrest⟩ : ∃ rest, c.candidates name = d.join (.ofString (name ++ ".yml")) :: rest :=
    ⟨_, by rw [candidates, hd]; rfl⟩
  have hlook := look_description_of_long hplace hdirectory hnull hslash hplain hlong
    (List.mem_cons_self : ".yml" ∈ descriptionSuffixes)
  intro hsearch
  rw [CanSearch, hrest, List.takeWhile_cons, holdsFile, hlook] at hsearch
  obtain ⟨e, he⟩ := hsearch _ List.mem_cons_self
  rw [hlook] at he
  cases he

end

/-! ### Sessions -/

/-- A catalog in use, with the files and the owners of tasks around it. -/
structure Session where
  disk : FileTree
  catalog : Catalog
  own : Ownership

/-- What is done in a session: something with the catalog, or a change around it. -/
inductive Step where
  | component (name : String)
  | task (name : String)
  | has (name : String)
  | register (x : Component)
  | change (disk : FileTree) (own : Ownership)

namespace Session

def component (s : Session) (name : String) : Except CatalogFault Component × Catalog × Ownership :=
  s.catalog.component s.disk s.own name

def task (s : Session) (name : String) : Except CatalogFault Task × Catalog × Ownership :=
  s.catalog.task s.disk s.own name

/-- The session after a step. -/
def take (s : Session) : Step → Session
  | .component name => ⟨s.disk, (s.component name).2.1, (s.component name).2.2⟩
  | .task name => ⟨s.disk, (s.task name).2.1, (s.task name).2.2⟩
  | .has _ => s
  | .register x => { s with catalog := s.catalog.register x }
  | .change disk own => { s with disk, own }

/-- The session after some steps. -/
def run (s : Session) (steps : List Step) : Session := steps.foldl take s

variable {s : Session} {step : Step} {steps : List Step}

/-- A step does nothing to a catalog, or what a lookup does, or registers a component. -/
theorem take_cases (s : Session) (step : Step) :
    (s.take step).catalog = s.catalog ∨
      (∃ name, (s.take step).catalog = (s.component name).2.1) ∨
      ∃ x, step = .register x ∧ (s.take step).catalog = s.catalog.register x := by
  cases step with
  | component name => exact .inr (.inl ⟨name, rfl⟩)
  | task name =>
    have htask : (s.take (.task name)).catalog = (s.task name).2.1 := rfl
    rw [htask, Session.task, catalog_task]
    split
    · exact .inl rfl
    · next owner _ _ => exact .inr (.inl ⟨owner, rfl⟩)
  | has => exact .inl rfl
  | register x => exact .inr (.inr ⟨x, rfl, rfl⟩)
  | change => exact .inl rfl

theorem directories_take (s : Session) (step : Step) :
    (s.take step).catalog.directories = s.catalog.directories := by
  rcases take_cases s step with h | ⟨name, h⟩ | ⟨x, -, h⟩ <;> rw [h]
  · exact directories_component _ _ _ _
  · rfl

theorem directories_run (s : Session) (steps : List Step) :
    (s.run steps).catalog.directories = s.catalog.directories :=
  List.foldlRecOn (motive := fun s' => s'.catalog.directories = s.catalog.directories) steps take
    rfl fun s' h step _ => (directories_take s' step).trans h

theorem isSound_take (h : s.catalog.IsSound) (step : Step) : (s.take step).catalog.IsSound := by
  rcases take_cases s step with heq | ⟨name, heq⟩ | ⟨x, -, heq⟩ <;> rw [heq]
  · exact h
  · exact h.component s.disk s.own name
  · exact h.register x

theorem isSound_run (h : s.catalog.IsSound) (steps : List Step) : (s.run steps).catalog.IsSound :=
  List.foldlRecOn (motive := fun s' => s'.catalog.IsSound) steps take h
    fun _ h step _ => isSound_take h step

/-- What is known under a name stays, unless another component of that name is registered. -/
theorem lookup_take {name : String} {x : Component} (h : s.catalog.known.lookup name = some x)
    (hstep : ∀ y, step = .register y → y.name ≠ name) :
    (s.take step).catalog.known.lookup name = some x := by
  rcases take_cases s step with heq | ⟨other, heq⟩ | ⟨y, hy, heq⟩ <;> rw [heq]
  · exact h
  · exact lookup_component h s.disk s.own other
  · rw [lookup_register, if_neg (hstep y hy).symm, h]

theorem lookup_run {name : String} {x : Component} (h : s.catalog.known.lookup name = some x)
    (hsteps : ∀ y, .register y ∈ steps → y.name ≠ name) :
    (s.run steps).catalog.known.lookup name = some x :=
  List.foldlRecOn (motive := fun s' => s'.catalog.known.lookup name = some x) steps take h
    fun _ h _ hmem => lookup_take h fun y hy => hsteps y (hy ▸ hmem)

end Session

/-- In every session that starts with a fresh catalog, whatever is done in it: each component is
known under its own name; a lookup that fails teaches nothing, and the search for a task teaches
what the lookup of its component does, or nothing if the name is not qualified; what is known stays,
over all changes of the files, until its name is registered anew; and a component that is not known
comes from the first of its files, of which it must have the name, or is not found if there is
none.  A name that is too long to be asked for is refused before that. -/
theorem session_lookups (directories : List FilePath) (disk : FileTree) (own : Ownership)
    (steps : List Step) {s : Session} (hs : s = Session.run ⟨disk, fresh directories, own⟩ steps) :
    s.catalog.directories = directories ∧
    (∀ e ∈ s.catalog.known, e.2.name = e.1) ∧
    (∀ name e, (s.component name).1 = .error e →
      (s.take (.component name)).catalog = s.catalog) ∧
    (∀ name, (s.take (.task name)).catalog = match qualified? name with
      | none => s.catalog
      | some (owner, _) => (s.take (.component owner)).catalog) ∧
    (∀ x, (s.take (.register x)).catalog.known.lookup x.name = some x) ∧
    (∀ name x, (s.component name).1 = .ok x →
      (s.take (.component name)).catalog.known.lookup name = some x) ∧
    (∀ name x, s.catalog.known.lookup name = some x → ∀ later : List Step,
      (∀ y, .register y ∈ later → y.name ≠ name) → ((s.run later).component name).1 = .ok x) ∧
    (∀ name, s.catalog.known.lookup name = none → ¬ s.catalog.CanSearch s.disk name →
      ∃ p ∈ s.catalog.candidates name,
        (s.component name).1 = .error (.load (.unreadable (.obstacle .tooLong p)))) ∧
    ∀ name, s.catalog.known.lookup name = none → s.catalog.CanSearch s.disk name →
      (∀ x, (s.component name).1 = .ok x ↔ ∃ path, s.catalog.described s.disk name = some path ∧
        (loadComponent s.own s.disk path).1 = .ok x ∧ x.name = name) ∧
      ∀ e, (s.component name).1 = .error (.notFound e) ↔ e = .component name ∧
        ∀ p ∈ s.catalog.candidates name, s.disk.holdsFile p = false := by
  obtain rfl := hs
  have hsound := Session.isSound_run (s := ⟨disk, fresh directories, own⟩)
    (isSound_fresh directories) steps
  have hdirectories := Session.directories_run ⟨disk, fresh directories, own⟩ steps
  generalize Session.run ⟨disk, fresh directories, own⟩ steps = s at hsound hdirectories
  refine ⟨hdirectories, hsound.named, fun name e h => catalog_of_error h, fun name => ?_,
    fun x => ?_, fun name x h => known_of_ok h, fun name x h later hlater => ?_,
    fun name hnone hnot => unreadable_of_unknown hnone hnot,
    fun name hnone hsearch => ⟨fun x => ok_iff_of_unknown hnone hsearch,
      fun e => notFound_iff_of_unknown hnone hsearch⟩⟩
  · have htask : (s.take (.task name)).catalog = (s.task name).2.1 := rfl
    rw [htask, Session.task, catalog_task]
    cases qualified? name <;> rfl
  · exact lookup_register.trans (if_pos rfl)
  · rw [Session.component, component_of_known (Session.lookup_run h hlater)]

def navDescription : Value := .dict [(.text "name", .text "nav")]

/-- A session in which nothing was done yet. -/
def sampleSession : Session where
  disk := ⟨["w"], [(["w", "d"], .directory),
    (["w", "d", "nav.json"], .file (Json.write Json.indented navDescription).toUTF8)]⟩
  catalog := fresh [.ofString "d"]
  own := .empty

def nav : Component := ⟨0, "nav", [], ""⟩

theorem loadComponent_sample : loadComponent .empty sampleSession.disk (.ofString "d/nav.json") =
    (.ok nav, ⟨1, [], []⟩) := by
  have hsuffix : (FilePath.ofString "d/nav.json").suffix = ".json" := by decide
  have hfits (room : Nat) : Json.fits (room + 1) navDescription = true := by rfl
  have hbytes : sampleSession.disk.readBytes (.ofString "d/nav.json") =
      .ok (Json.write Json.indented navDescription).toUTF8 := by rfl
  have hcomponent : componentOf .empty navDescription.settled
      (FilePath.ofString "d/nav.json").text = (.ok nav, ⟨1, [], []⟩) := by rfl
  exact loadComponent_of_readBytes hsuffix (hfits 984) hbytes hcomponent

/-- The component that was loaded stays known when its description is gone. -/
theorem session_lookups_sample : (sampleSession.component "nav").1 = .ok nav ∧
    ((sampleSession.run [.component "nav", .change (.emptyAt ["w"]) .empty]).component "nav").1 =
      .ok nav ∧
    (sampleSession.component "arm").1 = .error (.notFound (.component "arm")) := by
  have hstart : sampleSession = Session.run
      ⟨sampleSession.disk, fresh [.ofString "d"], .empty⟩ [] := rfl
  have hnext : sampleSession.take (.component "nav") = Session.run
      ⟨sampleSession.disk, fresh [.ofString "d"], .empty⟩ [.component "nav"] := rfl
  obtain ⟨-, -, -, -, -, hknown, -, -, hunknown⟩ := session_lookups _ _ _ _ hstart
  obtain ⟨-, -, -, -, -, -, hstays, -, -⟩ := session_lookups _ _ _ _ hnext
  have hnav : (sampleSession.component "nav").1 = .ok nav := by
    have hsearch : sampleSession.catalog.CanSearch sampleSession.disk "nav" := by decide
    have hdescribed : sampleSession.catalog.described sampleSession.disk "nav" =
        some (.ofString "d/nav.json") := by
      decide
    have hload : (loadComponent sampleSession.own sampleSession.disk (.ofString "d/nav.json")).1 =
        .ok nav :=
      congrArg Prod.fst loadComponent_sample
    exact ((hunknown "nav" rfl hsearch).1 nav).mpr ⟨_, hdescribed, hload, rfl⟩
  have hsearch : sampleSession.catalog.CanSearch sampleSession.disk "arm" := by decide
  have hnone : ∀ p ∈ sampleSession.catalog.candidates "arm",
      sampleSession.disk.holdsFile p = false := by
    decide
  exact ⟨hnav, hstays "nav" nav (hknown "nav" nav hnav) [.change (.emptyAt ["w"]) .empty] (by simp),
    ((hunknown "arm" rfl hsearch).2 (.component "arm")).mpr ⟨rfl, hnone⟩⟩

/-- A name of so many letters. -/
def letters (n : Nat) : String := String.ofList (List.replicate n 'a')

theorem utf8ByteSize_letters (n : Nat) : (letters n).utf8ByteSize = n := by
  rw [letters, String.utf8ByteSize_ofList]
  induction n with
  | zero => rfl
  | succ n ih => exact congrArg (· + 1) ih

/-- A component whose name is too long for the name of a file is not reported as not found. -/
theorem long_name_refused : sampleSession.catalog.known.lookup (letters 300) = none ∧
    (∀ p ∈ sampleSession.catalog.candidates (letters 300),
      sampleSession.disk.holdsFile p = false) ∧
    ∀ e, (sampleSession.component (letters 300)).1 ≠ .error (.notFound e) := by
  have hlong : nameLimit < (letters 300).utf8ByteSize := by
    rw [utf8ByteSize_letters]
    decide
  have hletters {x : Char} (hx : x ≠ 'a') : x ∉ (letters 300).toList := by
    rw [letters, String.toList_ofList, List.mem_replicate]
    exact fun h => hx h.2
  generalize letters 300 = name at hlong hletters ⊢
  have hslash : '/' ∉ name.toList := hletters (by decide)
  have hplain : '\x00' ∉ name.toList := hletters (by decide)
  have hplace : sampleSession.disk.placeOf (.ofString "d") = .ok ["w", "d"] := by decide
  have hdirectory : sampleSession.disk.entry? ["w", "d"] = some .directory := by decide
  have hnull : (FilePath.ofString "d").hasNull = false := by decide
  refine ⟨rfl, fun p hp => ?_, fun e he => ?_⟩
  · obtain ⟨d, hd, hp⟩ := List.mem_flatMap.mp hp
    obtain rfl := List.mem_singleton.mp hd
    obtain ⟨suffix, hsuffix, rfl⟩ := List.mem_map.mp hp
    rw [holdsFile, look_description_of_long hplace hdirectory hnull hslash hplain hlong hsuffix]
  · have hsearch : ¬ sampleSession.catalog.CanSearch sampleSession.disk name :=
      not_canSearch_of_long hplace hdirectory hnull hslash hplain hlong rfl
    obtain ⟨p, -, herror⟩ : ∃ p ∈ sampleSession.catalog.candidates name,
        (sampleSession.catalog.component sampleSession.disk sampleSession.own name).1 =
          .error (.load (.unreadable (.obstacle .tooLong p))) := unreadable_of_unknown rfl hsearch
    rw [Session.component, herror] at he
    cases he

end Catalog

end Scaffold
