import Scaffold.Proofs.Expression.Evaluation
import Scaffold.Proofs.Template.Expansion
import Scaffold.Proofs.Template.LexicalScope
import Scaffold.Proofs.Template.TagBoundary

/-! Reading loop variables.  A loop binds any name, but an expression reads the words of the
language as something else.  So what a loop binds can be read in its body unless its variable is
such a word, as far as no loop further in binds it anew. -/
namespace Scaffold

open Model Expression Scaffold.Text

/-! ### Names as expressions -/

namespace Expression
variable {v : String} {word : List Char}

theorem scan_word (h : isWord v.toList = true) : Token.scan v.toList = .ok [.name v.toList] :=
  scan_chars (t := .name v.toList) h endsName_nil

theorem tokensOf_word (h : isWord v.toList = true) : tokensOf v = .ok [.name v.toList] :=
  tokensOf_eq_ok_iff.mpr (scan_word h)

theorem readOperand_of_isReserved (h : isReserved word = true) :
    (∃ b hr, readOperand [.name word] = .ok (.truth b, ⟨[], hr⟩)) ∨
      ∃ e, readOperand [.name word] = .error e := by
  rw [readOperand]
  split
  · exact .inl ⟨true, by simp, rfl⟩
  · split
    · exact .inl ⟨false, by simp, rfl⟩
    · exact .inr ⟨_, rfl⟩

/-- A word of the language is a constant by itself, or no expression. -/
theorem parseInterpolation_of_isReserved (hword : isWord v.toList = true)
    (h : isReserved v.toList = true) :
    (∃ b, parseInterpolation v = .ok ⟨.truth b, none⟩) ∨ ∃ e, parseInterpolation v = .error e := by
  rw [parseInterpolation, tokensOf_word hword]
  change (∃ b, readInterpolation [.name v.toList] = _) ∨ ∃ e, readInterpolation _ = _
  rw [readInterpolation, readGuard]
  split
  · exact .inr ⟨.truncated, by simp [readGuard]; rfl⟩
  · obtain ⟨b, hr, hb⟩ | ⟨e, he⟩ := readOperand_of_isReserved h
    · exact .inl ⟨b, by rw [readCompare, hb]; rfl⟩
    · exact .inr ⟨e, by rw [readCompare, he]; rfl⟩

end Expression

namespace Template
variable {v : String}

theorem isWord_of_isBinder (h : isBinder v = true) : isWord v.toList = true := by
  unfold isBinder at h
  split at h
  next => cases h
  next c more heq =>
    obtain ⟨hc, hmore⟩ := Bool.and_eq_true_iff.mp h
    exact isWord_iff_exists_run.mpr ⟨c, more, hc, List.all_eq_true.mp hmore, .inl heq⟩

theorem isGuard_name (hv : isReserved v.toList = false) :
    IsGuard [.name v.toList] (.path ⟨v, []⟩) := by
  have hpath := IsPath.intro hv .nil
  rw [String.ofList_toList] at hpath
  exact .compare (.operand (.path hpath))

/-- A name that is no word of the language is a path of one segment. -/
theorem parseInterpolation_name (h : isBinder v = true) (hv : isReserved v.toList = false) :
    parseInterpolation v = .ok ⟨.path ⟨v, []⟩, none⟩ :=
  (recognizes_interpolation.eq_ok_iff _ _).mpr
    ⟨_, tokensOf_word (isWord_of_isBinder h), .plain (isGuard_name hv)⟩

theorem isMarked_of_isBinder (h : isBinder v = true) : isMarked v = false := by
  rw [isMarked, beq_eq_false_iff_ne]
  intro hlast
  have hrest := isNameRest_of_isBinder h (List.mem_of_getLast? hlast)
  exact absurd hrest (by decide)

theorem literalsStayOnLine_of_isBinder (h : isBinder v = true) : LiteralsStayOnLine v.toList := by
  intro ts hts quote body hm
  obtain rfl := Except.ok.inj ((scan_word (isWord_of_isBinder h)).symm.trans hts)
  cases List.mem_singleton.mp hm

/-! ### A loop around one tag -/

/-- A loop with nothing but the tag of an expression in its body. -/
def loopSource (v : String) (p : Path) (source : String) : String :=
  "<% each " ++ v ++ " in " ++ p.shown ++ " %><%= " ++ source ++ " %><% end %>"

def loopTags (v : String) (p : Path) (source : String) : List Piece :=
  [.tag ((Heading.each v p).tag 1), .tag (spacedTag .interpolation 1 source), .tag (endTag 1)]

section
variable {p : Path} {source : String}

theorem chars_loopTags (v : String) (p : Path) (source : String) :
    (loopTags v p source).flatMap Piece.chars = (loopSource v p source).toList := by
  simp [loopSource, loopTags, Piece.chars, Tag.chars, TagKind.mark, spacedTag, Heading.tag,
    Heading.source, endTag]

theorem lexemes_loopSource (h : (Heading.each v p).isWritable = true)
    (hsource : IsTagSource source.toList) :
    lexemes (loopSource v p source) = assemble (loopTags v p source) := by
  have hopening : Spans 1 0 [.tag ((Heading.each v p).tag 1)] :=
    spans_spacedTag TagKind.noConfusion 1 (Heading.isTagSource h)
  have htag : Spans 1 0 [.tag (spacedTag .interpolation 1 source)] :=
    spans_spacedTag TagKind.noConfusion 1 hsource
  have hend : Spans 1 0 [.tag (endTag 1)] :=
    spans_spacedTag TagKind.noConfusion 1 isTagSource_end
  have hnumbered : Numbered 1 (loopTags v p source) := (hopening.append (htag.append hend)).1
  rw [lexemes_eq_assemble_kept, ← chars_loopTags, cut, pieces_cutFrom hnumbered]
  rfl

theorem parse_loopSource (hv : isBinder v = true) (hp : p.isWritable = true)
    (hsource : IsTagSource source.toList) {i : Interpolation}
    (hi : parseInterpolation source = .ok i) (name : String) :
    parse (loopSource v p source) name =
      .ok ⟨name, [.iteration v p [.interpolation i.value i.guard 1] 1]⟩ := by
  have heach : (Heading.each v p).isWritable = true := Bool.and_eq_true_iff.mpr ⟨hv, hp⟩
  have hbody := Makes.nil.writes (writes_of_trimmed hsource 1 hi)
  have hmakes := hbody.loop .nil (Heading.opens heach 1) (says_endTag 1)
  exact hmakes.parse_eq (lexemes_loopSource heach hsource) name

end

/-! ### Loops of parsed templates -/

theorem isBinder_of_opens {t : Tag} {p : Path} (h : t.Opens (.iteration v p)) :
    isBinder v = true := by
  cases h with
  | onEach _ hiteration _ =>
    obtain ⟨c, more, -, -, -, rfl, hc, hmore, -⟩ := hiteration
    rw [isBinder, String.toList_ofList]
    exact Bool.and_eq_true_iff.mpr ⟨hc, hmore⟩

theorem exists_phrase_of_append {ps : List Phrase} (hps : BodyIsDerivation ps) {c : Chunk}
    {before after : List Chunk} (h : bodyChunks ps = before ++ c :: after) :
    ∃ p : Phrase, p.IsDerivation ∧ p.chunk = c := by
  induction ps generalizing before with
  | nil => simp [bodyChunks] at h
  | cons p ps ih =>
    cases before with
    | nil => exact ⟨p, hps.1, (List.cons.inj h).1⟩
    | cons d before => exact ih hps.2 (List.cons.inj h).2

/-- At any depth, a chunk that a derivation makes is the chunk of a node of it. -/
theorem exists_phrase_of_fill {c : Chunk} {k : Context} {ps : List Phrase}
    (hps : BodyIsDerivation ps) (h : bodyChunks ps = k.fill c) :
    ∃ p : Phrase, p.IsDerivation ∧ p.chunk = c := by
  induction k generalizing ps with
  | here before after => exact exists_phrase_of_append hps h
  | first before guard inner whenFalse line after ih =>
    obtain ⟨p, hp, hchunk⟩ := exists_phrase_of_append hps h
    cases p with
    | conditional o g body d => exact ih hp.2.1 (Chunk.conditional.inj hchunk).2.1
    | alternative o g body m other d => exact ih hp.2.1 (Chunk.conditional.inj hchunk).2.1
    | text | interpolation | loop => cases hchunk
  | second before guard whenTrue inner line after ih =>
    obtain ⟨p, hp, hchunk⟩ := exists_phrase_of_append hps h
    cases p with
    | conditional o g body d =>
      have hempty : BodyIsDerivation [] := trivial
      exact ih hempty (Chunk.conditional.inj hchunk).2.2.1
    | alternative o g body m other d => exact ih hp.2.2.2.1 (Chunk.conditional.inj hchunk).2.2.1
    | text | interpolation | loop => cases hchunk
  | loop before binder collection inner line after ih =>
    obtain ⟨p, hp, hchunk⟩ := exists_phrase_of_append hps h
    cases p with
    | loop o x path body d => exact ih hp.2.1 (Chunk.iteration.inj hchunk).2.2.1
    | text | interpolation | conditional | alternative => cases hchunk

/-- The variable of a loop in a template that was parsed is a name. -/
theorem isBinder_of_parse {source name : String} {t : Template} (ht : parse source name = .ok t)
    {k : Context} {collection : Path} {body : List Chunk} {line : Nat}
    (hloop : t.chunks = k.fill (.iteration v collection body line)) : isBinder v = true := by
  obtain ⟨ps, ⟨hps, -⟩, rfl⟩ := parse_eq_ok_iff_exists_derives.mp ht
  obtain ⟨p, hp, hchunk⟩ := exists_phrase_of_fill hps hloop
  cases p with
  | loop o x path inner d =>
    obtain ⟨rfl, rfl, -⟩ := Chunk.iteration.inj hchunk
    exact isBinder_of_opens hp.1
  | text | interpolation | conditional | alternative => cases hchunk

/-! ### Places in the body of a loop -/

/-- The variables of the loops around the open place. -/
def Context.binders : Context → List String
  | .here _ _ => []
  | .first _ _ inner _ _ _ => inner.binders
  | .second _ _ _ inner _ _ => inner.binders
  | .loop _ binder _ inner _ _ => binder :: inner.binders

section
variable {own : Ownership} {s s' : Scope} {item : Value}

/-- A place is rendered in scopes that show what the scope around shows, under all names that no
loop on the way binds. -/
theorem Context.Reaches.find?_eq {k : Context} (h : k.Reaches own s s') (hv : v ∉ k.binders) :
    s'.find? v = s.find? v := by
  induction h with
  | here => rfl
  | first _ _ _ _ _ _ ih | second _ _ _ _ _ _ ih => exact ih hv
  | loop _ _ _ _ _ _ ih =>
    obtain ⟨hne, hv⟩ := not_or.mp (List.mem_cons.not.mp hv)
    rw [ih hv, Scope.find?_child_of_ne hne]

theorem Context.Reaches.resolve_eq {inner : Context}
    (h : inner.Reaches own (s.child [(v, item)]) s') (hv : v ∉ inner.binders)
    (hmark : isMarked v = false) : Path.resolve own s' ⟨v, []⟩ = .ok item := by
  apply Path.resolve_name hmark
  rw [h.find?_eq hv, Scope.find?_child_self]

/-- A tag that reads the variable writes the element of the collection that is bound to it. -/
theorem renderChunks_fill_element {inner : Context} (hv : v ∉ inner.binders)
    (hmark : isMarked v = false) {text : String} (htext : written? item = some text) (n : Nat) :
    renderChunks own (s.child [(v, item)])
        (inner.fill (.interpolation (.path ⟨v, []⟩) none n)) =
      renderChunks own (s.child [(v, item)]) (inner.fill (.text text)) := by
  refine Context.renderChunks_fill fun s' hs => ?_
  have hvalue : (Node.path ⟨v, []⟩).evaluateText own s' = .ok text :=
    Node.evaluateText_eq_ok_iff.mpr ⟨item, hs.resolve_eq hv hmark, htext⟩
  simp only [renderChunk, pure_bind, if_true, hvalue, atLine]

end

/-! ### Reading the variable -/

/-- In a template that was parsed, the variable of a loop is a name.  Unless it is a word of the
language, the tag of the name reads it as a path, whatever stands around the tag; wherever that tag
stands in the body, as far as no loop further in binds the name anew, it comes to the element for
which the body is rendered, and it writes the text of that element.  A word of the language is read
as a constant there, or it is refused. -/
theorem loop_variable_read {source name : String} {t : Template} (ht : parse source name = .ok t)
    {k : Context} {v : String} {collection : Path} {body : List Chunk} {line : Nat}
    (hloop : t.chunks = k.fill (.iteration v collection body line)) :
    (isReserved v.toList = false →
      parseInterpolation v = .ok ⟨.path ⟨v, []⟩, none⟩ ∧
      ∀ p q title, OpensNoTag p.toList → OpensNoTag q.toList →
        parse (p ++ "<%= " ++ v ++ " %>" ++ q) title = .ok ⟨title,
          addText p (.interpolation (.path ⟨v, []⟩) none (1 + lineFeeds p.toList) ::
            addText q [])⟩) ∧
    (isReserved v.toList = true →
      (∃ b, parseInterpolation v = .ok ⟨.truth b, none⟩) ∨
        ∃ e, parseInterpolation v = .error e) ∧
    ∀ (own : Ownership) (s : Scope) (item : Value) (inner : Context), v ∉ inner.binders →
      (∀ s', inner.Reaches own (s.child [(v, item)]) s' →
        Path.resolve own s' ⟨v, []⟩ = .ok item) ∧
      ∀ text n, written? item = some text →
        renderChunks own (s.child [(v, item)])
            (inner.fill (.interpolation (.path ⟨v, []⟩) none n)) =
          renderChunks own (s.child [(v, item)]) (inner.fill (.text text)) := by
  have hbinder := isBinder_of_parse ht hloop
  have hmark := isMarked_of_isBinder hbinder
  refine ⟨fun hv => ?_, parseInterpolation_of_isReserved (isWord_of_isBinder hbinder),
    fun own s item inner hv => ?_⟩
  · have hread := parseInterpolation_name hbinder hv
    exact ⟨hread, fun p q title hp hq =>
      parse_inset_spaced (literalsStayOnLine_of_isBinder hbinder) hp hq title hread⟩
  · exact ⟨fun s' hs => hs.resolve_eq hv hmark, fun text n htext =>
      renderChunks_fill_element hv hmark htext n⟩

/-- A loop over texts with the tag of its variable in its body. -/
theorem loop_variable_read_listed : ∃ t,
    parse "<% each x in xs %><%= x %><% end %>" "list" = .ok t ∧
    t.chunks = (Context.here [] []).fill
      (.iteration "x" ⟨"xs", []⟩ [.interpolation (.path ⟨"x", []⟩) none 1] 1) ∧
    parseInterpolation "x" = .ok ⟨.path ⟨"x", []⟩, none⟩ ∧
    Path.resolve .empty [[("x", .text "a")], [("x", .int 1)]] ⟨"x", []⟩ = .ok (.text "a") ∧
    t.render .empty [[("xs", .list [.text "a", .int 2]), ("x", .int 1)]] = .ok "a2" := by
  have hx : isBinder "x" = true := by decide
  have hparse := parse_loopSource (p := ⟨"xs", []⟩) hx (by decide) (isTagSource_of_isBinder hx)
    (parseInterpolation_name hx (by decide)) "list"
  have hread := loop_variable_read (k := .here [] []) hparse rfl
  have hreached := hread.2.2 .empty [[("x", .int 1)]] (.text "a") (.here [] []) (by decide)
  exact ⟨_, hparse, rfl, (hread.1 (by decide)).1, hreached.1 _ (.here ..), by decide⟩

/-- A loop whose variable is a word of the language, and the tag of that word in its body. -/
theorem loop_variable_true : ∃ t,
    parse "<% each true in xs %><%= true %><% end %>" "flags" = .ok t ∧
    t.chunks = (Context.here [] []).fill
      (.iteration "true" ⟨"xs", []⟩ [.interpolation (.truth true) none 1] 1) ∧
    parseInterpolation "true" ≠ .ok ⟨.path ⟨"true", []⟩, none⟩ ∧
    t.render .empty [[("xs", .list [.text "a"])]] = .ok "true" := by
  have hword : isBinder "true" = true := by decide
  have hconstant : parseInterpolation "true" = .ok ⟨.truth true, none⟩ :=
    (recognizes_interpolation.eq_ok_iff _ _).mpr
      ⟨_, tokensOf_word (by decide), .plain (.compare (.operand .yes))⟩
  have hparse := parse_loopSource (p := ⟨"xs", []⟩) hword (by decide)
    (isTagSource_of_isBinder hword) hconstant "flags"
  exact ⟨_, hparse, rfl, by simp [hconstant], by decide⟩

end Template
end Scaffold
