import Scaffold.Proofs.Model.Course

/-! What constructors and descriptions do, as a course of events: a construction of a class builds
what it is given as fields, all of classes further down, and then either adds the entity asked for
or leaves it at that. -/
namespace Scaffold

open Model Naming Text

/-! ### Entities that fields supply -/

/-- The fields of a class that hold entities, and the classes of these. -/
def Model.EntityClass.slots : EntityClass → List (String × EntityClass)
  | .dataType => []
  | .argument => [("type", .dataType)]
  | .operation => [("return_types", .dataType), ("arguments", .argument)]
  | .task => [("self_operations", .operation)]
  | .component => [("tasks", .task)]

/-- An entity that a value supplies where one of a class is asked for, or several are: the entity
itself, one within a sequence, or one that is supplied to the fields of another. -/
inductive Value.Supplies : Value → EntityClass → Entity → Prop
  | entity {e : Entity} {c : EntityClass} : e.kind = c → Supplies (.entity e) c e
  | list {vs : List Value} {v : Value} {c : EntityClass} {e : Entity} : v ∈ vs → v.Supplies c e →
      Supplies (.list vs) c e
  | tuple {vs : List Value} {v : Value} {c : EntityClass} {e : Entity} : v ∈ vs → v.Supplies c e →
      Supplies (.tuple vs) c e
  | dict {fields : Fields} {name : String} {v : Value} {c d : EntityClass} {e : Entity} :
      (name, d) ∈ c.slots → fieldOf? fields name = some v → v.Supplies d e →
      Supplies (.dict fields) c e

/-- What a value supplies is mentioned in it. -/
theorem Value.Supplies.mentions {v : Value} {c : EntityClass} {e : Entity} (h : v.Supplies c e) :
    v.Mentions e := by
  induction h with
  | entity => exact .entity _
  | list hv _ ih => exact .list hv ih
  | tuple hv _ ih => exact .tuple hv ih
  | dict _ hf _ ih =>
    obtain ⟨⟨k, w⟩, hm, rfl⟩ := Option.map_eq_some_iff.mp hf
    exact .dict (List.mem_of_find?_eq_some hm) ih

namespace Model.Stock

/-- All that a value supplies is there. -/
def Supplied (s : Stock) (c : EntityClass) (v : Value) : Prop := ∀ e, v.Supplies c e → e ∈ s.built

variable {s s' : Stock} {c d : EntityClass}

theorem Supplied.mono {v : Value} (h : s.Supplied c v) (hs : s.built ⊆ s'.built) :
    s'.Supplied c v :=
  fun e he => hs (h e he)

theorem Supplied.element {v w : Value} {vs : List Value} (h : s.Supplied c v)
    (hv : v = .list vs ∨ v = .tuple vs) (hw : w ∈ vs) : s.Supplied c w := by
  rcases hv with rfl | rfl
  · exact fun e he => h e (.list hw he)
  · exact fun e he => h e (.tuple hw he)

theorem Supplied.field {fields : Fields} {name : String} {v : Value}
    (h : s.Supplied c (.dict fields)) (hd : (name, d) ∈ c.slots)
    (hv : fieldOf? fields name = some v) : s.Supplied d v :=
  fun e he => h e (.dict hd hv he)

theorem supplied_entity {e : Entity} (h : e ∈ s.built) : s.Supplied c (.entity e) := by
  rintro _ ⟨⟩
  exact h

theorem supplied_dict {fields : Fields} (h : ∀ slot ∈ c.slots, ∀ v,
    fieldOf? fields slot.1 = some v → s.Supplied slot.2 v) : s.Supplied c (.dict fields) := by
  rintro e (_ | _ | _ | ⟨hd, hv, he⟩)
  exact h _ hd _ hv e he

theorem supplied_list {α : Type} {f : α → Entity} {as : List α} (h : ∀ a ∈ as, f a ∈ s.built) :
    s.Supplied c (.list (as.map fun a => .entity (f a))) := by
  rintro e (_ | ⟨hv, he⟩)
  obtain ⟨a, ha, rfl⟩ := List.mem_map.mp hv
  exact supplied_entity (h a ha) e he

/-! ### Computations that follow a course -/

section
variable {ε α β : Type} {n m : Nat} {b : ExceptT ε (StateM Ownership) α} {P Q : Stock → α → Prop}

/-- A computation takes a course of events below level `n`, and a result that it has satisfies `Q`
at the end. -/
def Follows (n : Nat) (s : Stock) (b : ExceptT ε (StateM Ownership) α) (Q : Stock → α → Prop) :
    Prop :=
  ∃ s', Course n s s' ∧ s'.own = (b.run s.own).2 ∧ ∀ a, (b.run s.own).1 = .ok a → Q s' a

theorem Follows.pure {a : α} (h : Q s a) : Follows (ε := ε) n s (Pure.pure a) Q := by
  refine ⟨s, .refl, rfl, fun a' ha => ?_⟩
  cases ha
  exact h

theorem Follows.throw {e : ε} : Follows n s (throw e : ExceptT ε (StateM Ownership) α) Q :=
  ⟨s, .refl, rfl, fun _ ha => by cases ha⟩

/-- One computation after the other. -/
theorem Follows.bind {f : α → ExceptT ε (StateM Ownership) β} {R : Stock → β → Prop}
    (h : Follows n s b P) (hf : ∀ s' a, Course n s s' → P s' a → Follows n s' (f a) R) :
    Follows n s (b >>= f) R := by
  obtain ⟨s₁, hcourse, hown, hp⟩ := h
  rw [Follows, run_bind]
  generalize b.run s.own = r at hown hp
  obtain ⟨e | a, own₁⟩ := r
  · exact ⟨s₁, hcourse, hown, fun _ h => by cases h⟩
  · obtain ⟨s₂, hcourse₂, hown₂, hr⟩ := hf s₁ a hcourse (hp a rfl)
    cases hown
    exact ⟨s₂, hcourse.trans hcourse₂, hown₂, hr⟩

theorem Follows.map {f : α → β} {R : Stock → β → Prop} (h : Follows n s b P)
    (hf : ∀ s' a, Course n s s' → P s' a → R s' (f a)) : Follows n s (do return f (← b)) R :=
  h.bind fun s' a hcourse hp => .pure (hf s' a hcourse hp)

end

section
variable {α β : Type} {n : Nat} {Q : Stock → α → Prop}

/-- A predicate that holds of a checked value, if it is fine. -/
def WhenFine (Q : Stock → α → Prop) (s : Stock) (c : Check α) : Prop := ∀ a, c = .ok a → Q s a

theorem follows_settle {c : Check α} (h : WhenFine Q s c) : Follows n s (settle c) Q := by
  cases c with
  | ok a => exact .pure (h a rfl)
  | error fs => exact .throw

theorem run_findings (b : Build α) (own : Ownership) :
    (findings b).run own = match b.run own with
      | (.ok a, own') => (.ok (.ok a), own')
      | (.error (.invalid fs), own') => (.ok (.error fs), own')
      | (.error e, own') => (.error e, own') := by
  rw [findings, run_tryCatch, run_bind]
  generalize b.run own = r
  obtain ⟨(fs | ⟨t, m⟩ | _) | a, own'⟩ := r <;> rfl

theorem follows_findings {b : Build α} (h : Follows n s b Q) :
    Follows n s (findings b) (WhenFine Q) := by
  obtain ⟨s', hcourse, hown, hq⟩ := h
  rw [Follows, run_findings]
  generalize b.run s.own = r at hown hq
  obtain ⟨(fs | ⟨t, m⟩ | _) | a, own'⟩ := r
  · exact ⟨s', hcourse, hown, fun c hc a ha => by cases hc; cases ha⟩
  · exact ⟨s', hcourse, hown, fun c hc => by cases hc⟩
  · exact ⟨s', hcourse, hown, fun c hc => by cases hc⟩
  · refine ⟨s', hcourse, hown, fun c hc a' ha => ?_⟩
    cases hc
    cases ha
    exact hq a rfl

theorem whenFine_under {part : String} {c : Check α} (h : WhenFine Q s c) :
    WhenFine Q s (c.under part) := by
  intro a ha
  cases c with
  | ok a' => exact h a ha
  | error fs => cases ha

theorem follows_required {fields : Fields} {name : String} {check : Value → Build α}
    (h : ∀ v, fieldOf? fields name = some v → Follows n s (check v) Q) :
    Follows n s (required fields name check) (WhenFine Q) := by
  rw [required]
  cases hf : fieldOf? fields name with
  | none => exact .pure fun a ha => by cases ha
  | some v => exact (follows_findings (h v hf)).map fun _ _ _ hc => whenFine_under hc

theorem follows_optional {fields : Fields} {name : String} {default : α} {check : Value → Build α}
    (hd : Q s default) (h : ∀ v, fieldOf? fields name = some v → Follows n s (check v) Q) :
    Follows n s (optional fields name default check) (WhenFine Q) := by
  rw [optional]
  cases hf : fieldOf? fields name with
  | none =>
    refine .pure fun a ha => ?_
    cases ha
    exact hd
  | some v => exact (follows_findings (h v hf)).map fun _ _ _ hc => whenFine_under hc

theorem Check.map_eq_ok {f : α → β} {c : Check α} {b : β} :
    c.map f = .ok b ↔ ∃ a, c = .ok a ∧ f a = b := by
  cases c <;> simp [Check.map]

theorem Check.ap_eq_ok {f : Check (α → β)} {c : Check α} {b : β} :
    f.ap c = .ok b ↔ ∃ g a, f = .ok g ∧ c = .ok a ∧ g a = b := by
  constructor
  · intro h
    cases f with
    | error fs => cases c <;> cases h
    | ok g =>
      cases c with
      | error fs => cases h
      | ok a => exact ⟨g, a, rfl, rfl, Except.ok.inj h⟩
  · rintro ⟨g, a, rfl, rfl, rfl⟩
    rfl

theorem Check.under_eq_ok {part : String} {c : Check α} {a : α} :
    c.under part = .ok a ↔ c = .ok a := by
  cases c <;> simp [Check.under]

/-- Entities built one after the other: those built first are there to the end. -/
theorem follows_buildAll {build : Value → Build α} {f : α → Entity} {vs : List Value} (i : Nat)
    (h : ∀ v ∈ vs, ∀ s', Course n s s' → Follows n s' (build v) fun s a => f a ∈ s.built) :
    Follows n s (buildAll build i vs) (WhenFine fun s as => ∀ a ∈ as, f a ∈ s.built) := by
  induction vs generalizing i s with
  | nil =>
    refine .pure fun as has => ?_
    cases has
    simp
  | cons v vs ih =>
    rw [buildAll]
    refine (follows_findings (h v List.mem_cons_self s .refl)).bind fun s₁ c hcourse hc => ?_
    refine (ih (i + 1) fun w hw s₂ h₂ =>
      h w (List.mem_cons_of_mem v hw) s₂ (hcourse.trans h₂)).map fun s₂ d hcourse₂ hd as has => ?_
    obtain ⟨g, rest, hg, rfl, rfl⟩ := Check.ap_eq_ok.mp has
    obtain ⟨a, ha, rfl⟩ := Check.map_eq_ok.mp hg
    rintro b (_ | ⟨_, hb⟩)
    · exact hcourse₂.built_subset (hc a (Check.under_eq_ok.mp ha))
    · exact hd rest rfl b hb

theorem follows_tuple {build : Value → Build α} {f : α → Entity} {v : Value}
    (hv : s.Supplied c v) (h : ∀ w s', s'.Supplied c w →
      Follows n s' (build w) fun s a => f a ∈ s.built) :
    Follows n s (tuple build v) fun s as => ∀ a ∈ as, f a ∈ s.built := by
  have hsettle : ∀ vs, v = .list vs ∨ v = .tuple vs →
      Follows n s (do settle (← buildAll build 0 vs)) fun s as => ∀ a ∈ as, f a ∈ s.built := by
    intro vs hvs
    refine (follows_buildAll 0 fun w hw s' hcourse => h w s' ?_).bind fun _ _ _ hc =>
      follows_settle hc
    exact (hv.element hvs hw).mono hcourse.built_subset
  unfold tuple
  split
  next vs => exact hsettle vs (.inl rfl)
  next vs => exact hsettle vs (.inr rfl)
  next => exact follows_settle fun _ h => by cases h

theorem firstRepeated?_eq_none {seen names : List String} :
    firstRepeated? seen names = none ↔ names.Nodup ∧ ∀ s ∈ names, s ∉ seen := by
  induction names generalizing seen with
  | nil => simp [firstRepeated?]
  | cons s names ih =>
    rw [firstRepeated?]
    by_cases hs : s ∈ seen
    · simp [hs]
    · rw [if_neg (by simpa using hs), ih, List.nodup_cons]
      simp only [List.mem_cons, not_or, forall_eq_or_imp]
      constructor
      · rintro ⟨hnodup, hrest⟩
        exact ⟨⟨fun h => (hrest s h).1 rfl, hnodup⟩, hs, fun t ht => (hrest t ht).2⟩
      · rintro ⟨⟨hfirst, hnodup⟩, -, hrest⟩
        exact ⟨hnodup, fun t ht => ⟨fun h => hfirst (h ▸ ht), hrest t ht⟩⟩

/-- What comes out is what went in, and no name occurs in it twice. -/
theorem follows_distinct {name : α → String} {rule : String → Rule} {as : List α}
    {P : Stock → List α → Prop} (h : P s as) :
    Follows n s (distinct name rule as) fun s as => P s as ∧ (as.map name).Nodup := by
  unfold distinct
  split
  next => exact follows_settle fun _ h => by cases h
  next hnone => exact .pure ⟨h, (firstRepeated?_eq_none.mp hnone).1⟩

theorem follows_identifier (v : Value) :
    Follows n s (identifier v) fun _ name => isIdentifier name = true := by
  refine (follows_settle (Q := fun _ _ => True) fun _ _ => trivial).bind fun s₁ name _ _ => ?_
  split
  next h => exact .pure h
  next => exact follows_settle fun _ h => by cases h

theorem follows_text (v : Value) : Follows n s (text v) fun _ _ => True :=
  follows_settle fun _ _ => trivial

theorem follows_truth (v : Value) : Follows n s (truth v) fun _ _ => True :=
  follows_settle fun _ _ => trivial

theorem follows_spelling (v : Value) :
    Follows n s (spelling v) fun _ name => allBlank name.toList = false := by
  refine (follows_text v).bind fun s₁ name _ _ => ?_
  split
  next => exact follows_settle fun _ h => by cases h
  next h => exact .pure (Bool.eq_false_of_not_eq_true h)

theorem follows_deriveCxxName (fields : Fields) :
    Follows n s (deriveCxxName fields) fun _ _ => True := by
  have hfine (fields : Fields) : Follows n s (pure fields : Build Fields) fun _ _ => True :=
    .pure trivial
  unfold deriveCxxName
  split
  · split
    · exact hfine fields
    · split
      · exact hfine _
      · exact hfine _
      · exact .throw
      · exact .throw
  · exact hfine fields

end

/-! ### Constructors -/

section
variable {α β : Type} {n m : Nat} {Q : Stock → α → Prop} {f : α → Entity} {b : Build α}

/-- A construction takes a course below the level of what it builds; it fails at the end of it, or
it adds what it builds. -/
def Completes (c : EntityClass) (s : Stock) (b : Build α) (f : α → Entity) : Prop :=
  ∃ s', Course c.level s s' ∧ ((∃ r, b.run s.own = (.error r, s'.own)) ∨
    ∃ a, b.run s.own = (.ok a, (s'.add (f a)).own) ∧ s'.Allows (f a) ∧ (f a).kind = c)

/-- What is completed goes into a course of a higher level. -/
theorem Completes.follows (h : Completes c s b f) (hn : c.level < n) :
    Follows n s b fun s a => f a ∈ s.built := by
  obtain ⟨s', hcourse, ⟨r, hr⟩ | ⟨a, ha, hallows, hkind⟩⟩ := h
  · exact ⟨s', hcourse.mono hn.le, by rw [hr], fun a h => by rw [hr] at h; cases h⟩
  · refine ⟨s'.add (f a), (hcourse.mono hn.le).tail (.add (by rwa [hkind]) hallows), by rw [ha],
      fun a' h => ?_⟩
    rw [ha] at h
    cases h
    exact Set.mem_insert _ _

/-- A construction after what goes on below its level. -/
theorem Completes.after {b : Build β} {P : Stock → β → Prop} {g : β → Build α}
    (h : Follows c.level s b P)
    (hg : ∀ s' x, Course c.level s s' → P s' x → Completes c s' (g x) f) :
    Completes c s (b >>= g) f := by
  obtain ⟨s₁, hcourse, hown, hp⟩ := h
  rw [Completes, run_bind]
  generalize b.run s.own = r at hown hp
  obtain ⟨e | x, own₁⟩ := r
  · cases hown
    exact ⟨s₁, hcourse, .inl ⟨e, rfl⟩⟩
  · obtain ⟨s₂, hcourse₂, hend⟩ := hg s₁ x hcourse (hp x rfl)
    cases hown
    exact ⟨s₂, hcourse.trans hcourse₂, hend⟩

/-- The end of a construction: a mark is drawn, and either nothing comes of it or the entity that
carries it takes possession of its parts. -/
theorem Completes.newMark {g : Mark → Build α}
    (h : (∃ r, (g s.own.fresh).run s.own.drawn = (.error r, s.own.drawn)) ∨
      ∃ a, (g s.own.fresh).run s.own.drawn = (.ok a, s.own.drawn.give (f a)) ∧ s.Allows (f a) ∧
        (f a).kind = c) :
    Completes c s (Model.newMark >>= g) f := by
  have hrun : (Model.newMark >>= g).run s.own = (g s.own.fresh).run s.own.drawn := rfl
  rcases h with ⟨r, hr⟩ | ⟨a, ha, hallows⟩
  · exact ⟨s.draw, .single (.draw s), .inl ⟨r, hrun.trans hr⟩⟩
  · exact ⟨s, .refl, .inr ⟨a, hrun.trans ha, hallows⟩⟩

theorem Completes.map (h : Completes c s b f) : Completes c s (f <$> b) id := by
  have hrun : (f <$> b).run s.own = ((b.run s.own).1.map f, (b.run s.own).2) := by
    rw [map_eq_pure_bind, run_bind]
    generalize b.run s.own = r
    obtain ⟨e | a, own⟩ := r <;> rfl
  obtain ⟨s', hcourse, ⟨r, hr⟩ | ⟨a, ha, hallows⟩⟩ := h
  · exact ⟨s', hcourse, .inl ⟨r, by rw [hrun, hr]; rfl⟩⟩
  · exact ⟨s', hcourse, .inr ⟨f a, by rw [hrun, ha]; rfl, hallows⟩⟩

end

variable {n : Nat} {fields : Fields}

theorem completes_dataType_build : Completes .dataType s (DataType.build fields) .dataType := by
  refine .after (follows_deriveCxxName fields) fun s₁ fields _ _ => ?_
  refine .after (follows_required fun v _ => follows_spelling v) fun s₂ cxxName _ hcxxName => ?_
  refine .after (follows_optional trivial fun v _ => follows_text v) fun s₃ name _ _ => ?_
  -- The mark is drawn once all fields were read, whether or not they are fine.
  refine .newMark ?_
  cases ht : (cxxName.map (DataType.mk s₃.own.fresh)).ap name with
  | error fs => exact .inl ⟨_, rfl⟩
  | ok t =>
    obtain ⟨_, _, hc, -, rfl⟩ := Check.ap_eq_ok.mp ht
    obtain ⟨spelling, hspelling, rfl⟩ := Check.map_eq_ok.mp hc
    refine .inr ⟨_, rfl, ⟨rfl, hcxxName spelling hspelling, ?_, ?_⟩, rfl⟩
    · simp [Entity.parts]
    · simp [Entity.holdings]

theorem follows_dataType_accept {v : Value} (hv : s.Supplied .dataType v) (hn : 0 < n) :
    Follows n s (DataType.accept v) fun s t => .dataType t ∈ s.built := by
  unfold DataType.accept
  split
  next t => exact .pure (hv _ (.entity rfl))
  next fields => exact completes_dataType_build.follows hn
  next => exact follows_settle fun _ h => by cases h

theorem completes_argument_build (hf : s.Supplied .argument (.dict fields)) :
    Completes .argument s (Argument.build fields) .argument := by
  refine .after (follows_required fun v _ => follows_identifier v) fun s₁ name h₁ hname => ?_
  refine .after (follows_required fun v hv => follows_dataType_accept
    ((hf.field (by decide) hv).mono h₁.built_subset) (by decide)) fun s₂ type h₂ htype => ?_
  refine .after (follows_optional trivial fun v _ => follows_text v) fun s₃ doc h₃ _ => ?_
  refine .newMark ?_
  cases ha : ((name.map (Argument.mk s₃.own.fresh)).ap type).ap doc with
  | error fs => exact .inl ⟨_, rfl⟩
  | ok a =>
    simp only [Check.ap_eq_ok, Check.map_eq_ok] at ha
    obtain ⟨_, _, ⟨_, t, ⟨word, hword, rfl⟩, ht, rfl⟩, -, rfl⟩ := ha
    refine .inr ⟨_, rfl, ⟨rfl, hname word hword, ?_, ?_⟩, rfl⟩
    · simpa [Entity.parts] using h₃.built_subset (htype t ht)
    · simp [Entity.holdings]

theorem follows_argument_accept {v : Value} (hv : s.Supplied .argument v) (hn : 1 < n) :
    Follows n s (Argument.accept v) fun s a => .argument a ∈ s.built := by
  unfold Argument.accept
  split
  next a => exact .pure (hv _ (.entity rfl))
  next fields => exact (completes_argument_build hv).follows hn
  next => exact follows_settle fun _ h => by cases h

theorem completes_operation_build (hf : s.Supplied .operation (.dict fields)) :
    Completes .operation s (Operation.build fields) .operation := by
  have htypes {s' : Stock} (h : s.built ⊆ s'.built) {v : Value}
      (hv : fieldOf? fields "return_types" = some v) :
      Follows 2 s' (tuple DataType.accept v) fun s ts => ∀ t ∈ ts, .dataType t ∈ s.built :=
    follows_tuple ((hf.field (by decide) hv).mono h) fun _ _ hw =>
      follows_dataType_accept hw (by decide)
  have harguments {s' : Stock} (h : s.built ⊆ s'.built) {v : Value}
      (hv : fieldOf? fields "arguments" = some v) :
      Follows 2 s' (tuple Argument.accept v) fun s as => ∀ a ∈ as, .argument a ∈ s.built :=
    follows_tuple ((hf.field (by decide) hv).mono h) fun _ _ hw =>
      follows_argument_accept hw (by decide)
  refine .after (follows_required fun v _ => follows_identifier v) fun s₁ name h₁ hname => ?_
  refine .after (follows_optional (by simp) fun v hv => htypes h₁.built_subset hv)
    fun s₂ types h₂ ht => ?_
  refine .after (follows_optional trivial fun v _ => follows_truth v) fun s₃ hasValue h₃ _ => ?_
  have h₁₃ := (h₁.trans h₂).trans h₃
  refine .after (follows_optional (by simp) fun v hv => harguments h₁₃.built_subset hv)
    fun s₄ arguments h₄ ha => ?_
  refine .after (follows_optional trivial fun v _ => follows_text v) fun s₅ doc h₅ _ => ?_
  refine .newMark ?_
  cases ho : ((((name.map (Operation.mk s₅.own.fresh)).ap types).ap hasValue).ap arguments).ap doc
    with
  | error fs => exact .inl ⟨_, rfl⟩
  | ok o =>
    simp only [Check.ap_eq_ok, Check.map_eq_ok] at ho
    obtain ⟨_, _, ⟨_, as, ⟨_, _, ⟨_, ts, ⟨word, hword, rfl⟩, hts, rfl⟩, -, rfl⟩, has, rfl⟩, -,
      rfl⟩ := ho
    simp only [settle, pure_bind]
    split
    next => exact .inl ⟨_, rfl⟩
    next hvalue =>
      refine .inr ⟨_, rfl, ⟨rfl, ⟨hname word hword, fun h hnil => hvalue ?_⟩, ?_, ?_⟩, rfl⟩
      · simp_all
      · simp only [Entity.parts, List.mem_append, List.mem_map]
        rintro _ (⟨t, hm, rfl⟩ | ⟨a, hm, rfl⟩)
        · exact ((h₃.trans h₄).trans h₅).built_subset (ht ts hts t hm)
        · exact h₅.built_subset (ha as has a hm)
      · simp [Entity.holdings]

theorem follows_operation_accept {v : Value} (hv : s.Supplied .operation v) (hn : 2 < n) :
    Follows n s (Operation.accept v) fun s o => .operation o ∈ s.built := by
  unfold Operation.accept
  split
  next o => exact .pure (hv _ (.entity rfl))
  next fields => exact (completes_operation_build hv).follows hn
  next => exact follows_settle fun _ h => by cases h

/-- A task takes possession of its operations if none of them has an owner. -/
theorem run_task_claim (t : Task) (own : Ownership) :
    (∃ o ∈ t.operations, own.task? o ≠ none) ∧ (∃ r, t.claim.run own = (.error r, own)) ∨
      (∀ o ∈ t.operations, own.task? o = none) ∧ t.claim.run own = (.ok t, own.giveTask t) := by
  rw [Task.claim, run_bind_of_ok (run_getThe own)]
  split
  next o owner howned =>
    obtain ⟨o, ho, howner⟩ := List.exists_of_findSome?_eq_some howned
    refine .inl ⟨⟨o, ho, fun hnone => ?_⟩, _, rfl⟩
    rw [hnone] at howner
    cases howner
  next hnone =>
    refine .inr ⟨fun o ho => ?_, rfl⟩
    simpa using List.findSome?_eq_none_iff.mp hnone o ho

/-- A component takes possession of its tasks if none of them has an owner. -/
theorem run_component_claim (c : Component) (own : Ownership) :
    (∃ t ∈ c.tasks, own.component? t ≠ none) ∧ (∃ r, c.claim.run own = (.error r, own)) ∨
      (∀ t ∈ c.tasks, own.component? t = none) ∧
        c.claim.run own = (.ok c, own.giveComponent c) := by
  rw [Component.claim, run_bind_of_ok (run_getThe own)]
  split
  next t owner howned =>
    obtain ⟨t, ht, howner⟩ := List.exists_of_findSome?_eq_some howned
    refine .inl ⟨⟨t, ht, fun hnone => ?_⟩, _, rfl⟩
    rw [hnone] at howner
    cases howner
  next hnone =>
    refine .inr ⟨fun t ht => ?_, rfl⟩
    simpa using List.findSome?_eq_none_iff.mp hnone t ht

theorem completes_task_build (hf : s.Supplied .task (.dict fields)) :
    Completes .task s (Task.build fields) .task := by
  have hoperations {s' : Stock} (h : s.built ⊆ s'.built) {v : Value}
      (hv : fieldOf? fields "self_operations" = some v) :
      Follows 3 s' (do distinct Operation.methodName .operationTwice (← tuple Operation.accept v))
        fun s os => (∀ o ∈ os, .operation o ∈ s.built) ∧
          (os.map Operation.methodName).Nodup := by
    have htuple := follows_tuple ((hf.field (by decide) hv).mono h) fun _ _ hw =>
      follows_operation_accept hw (by decide : 2 < 3)
    exact htuple.bind fun _ os _ hos => follows_distinct hos
  refine .after (follows_required fun v _ => follows_identifier v) fun s₁ name h₁ hname => ?_
  refine .after (follows_optional trivial fun v _ => follows_truth v) fun s₂ fixed h₂ _ => ?_
  refine .after (follows_optional (by simp) fun v hv =>
    hoperations (h₁.trans h₂).built_subset hv) fun s₃ operations h₃ ho => ?_
  refine .after (follows_optional trivial fun v _ => follows_text v) fun s₄ doc h₄ _ => ?_
  refine .newMark ?_
  cases ht : (((name.map (Task.mk s₄.own.fresh)).ap fixed).ap operations).ap doc with
  | error fs => exact .inl ⟨_, rfl⟩
  | ok t =>
    simp only [Check.ap_eq_ok, Check.map_eq_ok] at ht
    obtain ⟨_, _, ⟨_, os, ⟨_, _, ⟨word, hword, rfl⟩, -, rfl⟩, hos, rfl⟩, -, rfl⟩ := ht
    simp only [settle, pure_bind]
    obtain ⟨hbuilt, hnodup⟩ := ho os hos
    refine (run_task_claim _ _).imp And.right fun ⟨hfree, hrun⟩ =>
      ⟨_, hrun, ⟨rfl, ?_, ?_, ?_⟩, rfl⟩
    · exact ⟨hname word hword, hnodup⟩
    · simpa [Entity.parts] using fun o hm => h₄.built_subset (hbuilt o hm)
    · simpa [Entity.holdings, Ownership.owner?] using hfree

theorem follows_task_accept {v : Value} (hv : s.Supplied .task v) (hn : 3 < n) :
    Follows n s (Task.accept v) fun s t => .task t ∈ s.built := by
  unfold Task.accept
  split
  next t => exact .pure (hv _ (.entity rfl))
  next fields => exact (completes_task_build hv).follows hn
  next => exact follows_settle fun _ h => by cases h

theorem completes_component_build (hf : s.Supplied .component (.dict fields)) :
    Completes .component s (Component.build fields) .component := by
  have htasks {s' : Stock} (h : s.built ⊆ s'.built) {v : Value}
      (hv : fieldOf? fields "tasks" = some v) :
      Follows 4 s' (do distinct Task.basename .taskTwice (← tuple Task.accept v))
        fun s ts => (∀ t ∈ ts, .task t ∈ s.built) ∧ (ts.map Task.basename).Nodup := by
    have htuple := follows_tuple ((hf.field (by decide) hv).mono h) fun _ _ hw =>
      follows_task_accept hw (by decide : 3 < 4)
    exact htuple.bind fun _ ts _ hts => follows_distinct hts
  refine .after (follows_required fun v _ => follows_identifier v) fun s₁ name h₁ hname => ?_
  refine .after (follows_optional (by simp) fun v hv => htasks h₁.built_subset hv)
    fun s₂ tasks h₂ ht => ?_
  refine .after (follows_optional trivial fun v _ => follows_text v) fun s₃ doc h₃ _ => ?_
  refine .newMark ?_
  cases hc : ((name.map (Component.mk s₃.own.fresh)).ap tasks).ap doc with
  | error fs => exact .inl ⟨_, rfl⟩
  | ok c =>
    simp only [Check.ap_eq_ok, Check.map_eq_ok] at hc
    obtain ⟨_, _, ⟨_, ts, ⟨word, hword, rfl⟩, hts, rfl⟩, -, rfl⟩ := hc
    simp only [settle, pure_bind]
    obtain ⟨hbuilt, hnodup⟩ := ht ts hts
    refine (run_component_claim _ _).imp And.right fun ⟨hfree, hrun⟩ =>
      ⟨_, hrun, ⟨rfl, ?_, ?_, ?_⟩, rfl⟩
    · exact ⟨hname word hword, hnodup⟩
    · simpa [Entity.parts] using fun t hm => h₃.built_subset (hbuilt t hm)
    · simpa [Entity.holdings, Ownership.owner?] using hfree

/-- A constructor, of whatever class. -/
theorem completes_build (c : EntityClass) (hf : s.Supplied c (.dict fields)) :
    Completes c s (c.build fields) id := by
  cases c with
  | dataType => exact completes_dataType_build.map
  | argument => exact (completes_argument_build hf).map
  | operation => exact (completes_operation_build hf).map
  | task => exact (completes_task_build hf).map
  | component => exact (completes_component_build hf).map

/-! ### Descriptions -/

section
variable {α β : Type}

theorem follows_constructed {Q : Stock → α → Prop} {b : Build α} (h : Follows n s b Q)
    (c : EntityClass) : Follows n s (constructed c b) Q := by
  obtain ⟨s', hcourse, hown, hq⟩ := h
  have hrun : (constructed c b).run s.own = constructed c b s.own := rfl
  rw [Follows, hrun, constructed]
  generalize b.run s.own = r at hown hq
  obtain ⟨(fs | ⟨t, m⟩ | _) | a, own'⟩ := r
  · exact ⟨s', hcourse, hown, fun _ h => by cases h⟩
  · exact ⟨s', hcourse, hown, fun _ h => by cases h⟩
  · exact ⟨s', hcourse, hown, fun _ h => by cases h⟩
  · refine ⟨s', hcourse, hown, fun a' ha => ?_⟩
    cases ha
    exact hq a rfl

theorem follows_mapM {g : α → Describe β} {f : β → Entity}
    (h : ∀ s a, Follows n s (g a) fun s b => f b ∈ s.built) (as : List α) :
    Follows n s (as.mapM g) fun s bs => ∀ b ∈ bs, f b ∈ s.built := by
  induction as generalizing s with
  | nil => exact .pure (by simp)
  | cons a as ih =>
    rw [List.mapM_cons]
    refine (h s a).bind fun s₁ b _ hb => ih.map fun s₂ bs hcourse hbs => ?_
    exact List.forall_mem_cons.mpr ⟨hcourse.built_subset hb, hbs⟩

end

theorem follows_entriesOf (v : Value) : Follows n s (entriesOf v) fun _ _ => True := by
  unfold entriesOf
  split
  · exact .pure trivial
  · exact .throw

theorem follows_describeType (hn : 0 < n) (s : Stock) (v : Value) :
    Follows n s (describeType v) fun s t => .dataType t ∈ s.built := by
  have hbuild (fields : Fields) : Follows n s (constructed .dataType (DataType.build fields))
      fun s t => .dataType t ∈ s.built :=
    follows_constructed (completes_dataType_build.follows hn) _
  unfold describeType
  split
  · exact hbuild _
  · exact hbuild _
  · split
    · exact hbuild _
    · exact .throw
  · exact .throw

theorem follows_describeArgument (hn : 1 < n) (s : Stock) (v : Value) :
    Follows n s (describeArgument v) fun s a => .argument a ∈ s.built := by
  refine (follows_entriesOf v).bind fun s₁ entries _ _ => ?_
  refine (follows_describeType (by omega) s₁ _).bind fun s₂ type _ ht => ?_
  refine follows_constructed ((completes_argument_build ?_).follows hn) _
  refine supplied_dict (List.forall_mem_singleton.mpr fun v hv => ?_)
  cases hv
  exact supplied_entity ht

theorem follows_describeOperation (hn : 2 < n) (s : Stock) (v : Value) :
    Follows n s (describeOperation v) fun s o => .operation o ∈ s.built := by
  refine (follows_entriesOf v).bind fun s₁ entries _ _ => ?_
  refine (follows_mapM (follows_describeType (by omega)) _).bind fun s₂ returns _ hreturns => ?_
  refine (follows_mapM (follows_describeArgument (by omega)) _).bind
    fun s₃ arguments hcourse harguments => ?_
  refine follows_constructed ((completes_operation_build ?_).follows hn) _
  refine supplied_dict (List.forall_mem_cons.mpr
    ⟨fun v hv => ?_, List.forall_mem_singleton.mpr fun v hv => ?_⟩)
  · cases hv
    exact supplied_list fun t hm => hcourse.built_subset (hreturns t hm)
  · cases hv
    exact supplied_list harguments

theorem follows_describeTask (hn : 3 < n) (s : Stock) (v : Value) :
    Follows n s (describeTask v) fun s t => .task t ∈ s.built := by
  refine (follows_entriesOf v).bind fun s₁ entries _ _ => ?_
  refine (follows_mapM (follows_describeOperation (by omega)) _).bind fun s₂ operations _ ho => ?_
  refine follows_constructed ((completes_task_build ?_).follows hn) _
  refine supplied_dict (List.forall_mem_singleton.mpr fun v hv => ?_)
  cases hv
  exact supplied_list ho

/-- The reading of a description. -/
theorem follows_describeComponent (hn : 4 < n) (s : Stock) (v : Value) :
    Follows n s (describeComponent v) fun s c => .component c ∈ s.built := by
  unfold describeComponent
  split
  next entries =>
    refine (follows_mapM (follows_describeTask (by omega)) _).bind fun s₁ tasks _ ht => ?_
    refine follows_constructed ((completes_component_build ?_).follows hn) _
    refine supplied_dict (List.forall_mem_singleton.mpr fun v hv => ?_)
    cases hv
    exact supplied_list ht
  next => exact .throw

end Model.Stock
end Scaffold
