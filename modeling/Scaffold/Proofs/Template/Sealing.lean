import Scaffold.Proofs.Computation
import Scaffold.Proofs.Expression.Spacing
import Scaffold.Proofs.Template.TagPlace
import Scaffold.Proofs.Text.Runs

/-! Tags of accepted templates.  What such a tag holds is made of tokens, so it ends where it does
whatever text is put behind it, unless a literal goes over the end of a line. -/
namespace Scaffold.Template
open Expression Scaffold.Text

/-- A literal of the tag holds a line feed as it is. -/
def Tag.HasFeedInLiteral (t : Tag) : Prop :=
  t.kind ≠ .comment ∧ ∃ ts quote body, Token.scan (trim t.body) = .ok ts ∧
    .literal quote body ∈ ts ∧ '\n' ∈ body

/-! ### Tokens -/

theorem sealed_of_allBlank {s : List Char} (h : allBlank s = true) : Sealed s :=
  sealed_of_isInert fun c hc => isInert_of_isBlank (List.all_eq_true.mp h c hc)

/-- A literal of an expression is one of its tag too, as long as it stays on its line. -/
theorem sealed_of_literalBody? {quote : Char} {rest body r : List Char}
    (hq : quote = '"' ∨ quote = '\'')
    (h : literalBody? isPlainInLiteral isEscapable quote rest = some (body, r))
    (hfeed : '\n' ∉ body) : Sealed (quote :: (body ++ [quote])) := by
  have hplain : ∀ c ∈ body, isPlainInLiteral c = true → (c != '\n') = true :=
    fun c hc _ => bne_iff_ne.mpr fun he => hfeed (he ▸ hc)
  exact sealed_of_isLiteralBody hq ((isLiteralBody_of_literalBody? h).mono hplain fun _ _ _ => rfl)

theorem sealed_of_isValid {t : Token} (h : t.IsValid)
    (hfeed : ∀ quote body, t = .literal quote body → '\n' ∉ body) : Sealed t.chars := by
  cases t with
  | literal quote body => exact sealed_of_literalBody? h.1 h.2 (hfeed quote body rfl)
  | sign s => cases s <;> exact sealed_of_all (by decide)
  | name word =>
    refine sealed_of_isInert fun d hd => ?_
    rcases isNameRest_of_mem_word h hd with hd | rfl
    · exact isInert_of_isNameRest hd
    · decide

/-- A text of tokens ends no tag, whatever its literals hold besides line feeds. -/
theorem sealed_of_scan {cs : List Char} {ts : List Token} (h : Token.scan cs = .ok ts)
    (hfeed : ∀ quote body, .literal quote body ∈ ts → '\n' ∉ body) : Sealed cs := by
  obtain ⟨lead, ps, hlead, -, rfl, rfl⟩ := scan_eq_ok_iff.mp h
  clear h
  refine (sealed_of_allBlank hlead).append ?_
  induction ps with
  | nil => exact .nil
  | cons p ps ih =>
    rw [List.map_cons] at hfeed
    have htoken : Sealed p.token.chars :=
      sealed_of_isValid (Token.isValid_iff.mpr p.wellFormed) fun quote body he =>
        hfeed quote body (he ▸ List.mem_cons_self)
    exact (htoken.append (sealed_of_allBlank p.blank)).append
      (ih fun quote body hm => hfeed quote body (List.mem_cons_of_mem _ hm))

/-! ### What tags hold -/

theorem exists_eq_append_trim (cs : List Char) : ∃ lead tail, cs = lead ++ trim cs ++ tail ∧
    allBlank lead = true ∧ allBlank tail = true :=
  exists_eq_append_strip isBlank cs

/-- A text is its first word and the rest with blanks in front of each. -/
theorem exists_eq_append_firstWord {cs word rest : List Char} (h : firstWord cs = (word, rest)) :
    ∃ lead gap, cs = lead ++ (word ++ (gap ++ rest)) ∧ allBlank lead = true ∧
      allBlank gap = true ∧ EndsName (gap ++ rest) := by
  obtain ⟨rfl, rfl⟩ := Prod.mk.inj h
  have hlead : cs.takeWhile isBlank ++ trimLeft cs = cs := List.takeWhile_append_dropWhile
  have hword : (trimLeft cs).takeWhile (!isBlank ·) ++ (trimLeft cs).dropWhile (!isBlank ·) =
      trimLeft cs := List.takeWhile_append_dropWhile
  have hgap (more : List Char) : more.takeWhile isBlank ++ trimLeft more = more :=
    List.takeWhile_append_dropWhile
  refine ⟨cs.takeWhile isBlank, ((trimLeft cs).dropWhile (!isBlank ·)).takeWhile isBlank, ?_,
    List.all_takeWhile, List.all_takeWhile, ?_⟩
  · rw [hgap, hword, hlead]
  · rw [hgap]
    cases hd : (trimLeft cs).dropWhile (!isBlank ·) with
    | nil => exact endsName_nil
    | cons c more =>
      have hc := List.head?_dropWhile_not (!isBlank ·) (trimLeft cs)
      simp only [hd, List.head?_cons, Bool.not_eq_false'] at hc
      exact endsName_of_isBlank hc more

theorem sealed_of_trim {t : Tag} (h : Sealed (trim t.body)) : Sealed t.body := by
  obtain ⟨lead, tail, heq, hlead, htail⟩ := exists_eq_append_trim t.body
  rw [heq]
  exact ((sealed_of_allBlank hlead).append h).append (sealed_of_allBlank htail)

theorem Tag.Says.sealed_body {t : Tag} {word : String} {rest : List Char} (h : t.Says word rest)
    (hword : Sealed word.toList) (hrest : Sealed rest) : Sealed t.body := by
  obtain ⟨lead, gap, heq, hlead, hgap, -⟩ := exists_eq_append_firstWord h.2
  refine sealed_of_trim ?_
  rw [heq]
  exact (sealed_of_allBlank hlead).append (hword.append ((sealed_of_allBlank hgap).append hrest))

/-- The tokens of a tag are its word and those of the rest. -/
theorem Tag.Says.scan_eq {t : Tag} {word : String} {rest : List Char} (h : t.Says word rest)
    (hword : isWord word.toList = true) :
    Token.scan (trim t.body) = (Token.scan rest).map (.name word.toList :: ·) := by
  obtain ⟨lead, gap, heq, hlead, hgap, hends⟩ := exists_eq_append_firstWord h.2
  have hname : Token.scan (word.toList ++ (gap ++ rest)) =
      (Token.scan (gap ++ rest)).map (.name word.toList :: ·) :=
    scan_append (t := .name _) hword hends
  rw [heq, scan_blanks hlead, hname, scan_blanks hgap]

theorem scan_of_tokensOf {s : List Char} {ts : List Token}
    (h : tokensOf (String.ofList s) = .ok ts) : Token.scan s = .ok ts := by
  rwa [tokensOf_eq_ok_iff, String.toList_ofList] at h

section
variable {t : Tag}

theorem notMem_of_scan (hfeed : ¬ t.HasFeedInLiteral) (hkind : t.kind ≠ .comment) {ts : List Token}
    (h : Token.scan (trim t.body) = .ok ts) {quote : Char} {body : List Char}
    (hm : .literal quote body ∈ ts) : '\n' ∉ body :=
  fun hn => hfeed ⟨hkind, ts, quote, body, h, hm, hn⟩

theorem sealed_of_writes {i : Interpolation} (h : t.Writes i) (hfeed : ¬ t.HasFeedInLiteral) :
    Sealed t.body := by
  obtain ⟨ts, hts, -⟩ := (recognizes_interpolation.eq_ok_iff _ _).mp h.2
  have hscan := scan_of_tokensOf hts
  exact sealed_of_trim (sealed_of_scan hscan fun _ _ hm =>
    notMem_of_scan hfeed (by simp [h.1]) hscan hm)

/-- A tag of a word and a guard. -/
theorem sealed_of_guard {word : String} {rest : List Char} {g : Node} (h : t.Says word rest)
    (hword : isWord word.toList = true) (hg : parseGuard (String.ofList rest) = .ok g)
    (hfeed : ¬ t.HasFeedInLiteral) : Sealed t.body := by
  obtain ⟨ts, hts, -⟩ := (recognizes_guard.eq_ok_iff _ _).mp hg
  have hscan := h.scan_eq hword
  rw [scan_of_tokensOf hts] at hscan
  exact sealed_of_trim (sealed_of_scan hscan fun _ _ hm =>
    notMem_of_scan hfeed (by simp [h.1]) hscan hm)

theorem notMem_of_isPath {ts : List Token} {p : Path} (h : IsPath ts p) (quote : Char)
    (body : List Char) : .literal quote body ∉ ts := by
  obtain ⟨-, ha⟩ := h
  rw [List.mem_cons]
  rintro (hm | hm)
  · cases hm
  · induction ha with
    | nil => cases hm
    | cons _ _ ih => simp_all

/-- What stands behind `each` has no literals. -/
theorem sealed_of_isIteration {rest binder path : List Char} {p : Path}
    (h : IsIteration rest binder path) (hp : parsePath (String.ofList path) = .ok p) :
    Sealed rest := by
  obtain ⟨c, more, gap, g, collection, rfl, hc, hmore, -, hgap, hg, rfl, rfl, -⟩ := h
  obtain ⟨ts, hts, hpath⟩ := (recognizes_path.eq_ok_iff _ _).mp hp
  have hbinder : Sealed (c :: more) := by
    refine sealed_of_isInert fun d hd => isInert_of_isNameRest ?_
    rcases List.mem_cons.mp hd with rfl | hd
    · exact isNameRest_of_isNameStart hc
    · exact List.all_eq_true.mp hmore d hd
  have hin : Sealed ['i', 'n', g] := sealed_of_isInert fun d hd => by
    simp only [List.mem_cons, List.not_mem_nil, or_false] at hd
    rcases hd with rfl | rfl | rfl
    · decide
    · decide
    · exact isInert_of_isBlank hg
  have hcollection : Sealed collection := by
    obtain ⟨lead, tail, heq, hlead, htail⟩ := exists_eq_append_trim collection
    have hscan := scan_of_tokensOf hts
    rw [heq]
    refine ((sealed_of_allBlank hlead).append ?_).append (sealed_of_allBlank htail)
    exact sealed_of_scan hscan fun quote body hm => absurd hm (notMem_of_isPath hpath quote body)
  exact (hbinder.append (sealed_of_allBlank hgap)).append (hin.append hcollection)

theorem sealed_of_does {c : Control} (h : t.Does c) (hfeed : ¬ t.HasFeedInLiteral) :
    Sealed t.body := by
  cases h with
  | opens ho =>
    cases ho with
    | onIf hs hg => exact sealed_of_guard hs (by decide) hg hfeed
    | onUnless hs hg => exact sealed_of_guard hs (by decide) hg hfeed
    | onEach hs hi hp =>
      exact hs.sealed_body (sealed_of_all (by decide)) (sealed_of_isIteration hi hp)
  | otherwise hs => exact hs.sealed_body (sealed_of_all (by decide)) .nil
  | closes hs => exact hs.sealed_body (sealed_of_all (by decide)) .nil

end

/-- Tokens are made of the characters that they are read from. -/
theorem mem_of_scan {cs : List Char} {ts : List Token} (h : Token.scan cs = .ok ts) {t : Token}
    (ht : t ∈ ts) {c : Char} (hc : c ∈ t.chars) : c ∈ cs := by
  obtain ⟨lead, ps, -, -, rfl, rfl⟩ := scan_eq_ok_iff.mp h
  obtain ⟨p, hp, rfl⟩ := List.mem_map.mp ht
  have hchars : c ∈ p.chars := List.mem_append_left _ hc
  exact List.mem_append_right _ (List.mem_flatMap.mpr ⟨p, hp, hchars⟩)

theorem not_hasFeedInLiteral_of_notMem {t : Tag} (h : '\n' ∉ t.body) : ¬ t.HasFeedInLiteral := by
  rintro ⟨-, ts, quote, body, hscan, hm, hfeed⟩
  have hchars : '\n' ∈ (Token.literal quote body).chars := by simp [Token.chars, hfeed]
  obtain ⟨lead, tail, heq, -, -⟩ := exists_eq_append_trim t.body
  rw [heq] at h
  exact h (by simp [mem_of_scan hscan hm hchars])

/-! ### Where tags end -/

/-- A comment ends at its first `%>`, whatever follows. -/
theorem upToClose?_append {cs body after : List Char} (h : upToClose? cs = some (body, after))
    (rest : List Char) : upToClose? (body ++ '%' :: '>' :: rest) = some (body, rest) := by
  fun_induction upToClose? cs generalizing body with
  | case1 =>
    cases h
    rfl
  | case2 c more hne ih =>
    obtain ⟨⟨b, r⟩, hr, heq⟩ := Option.map_eq_some_iff.mp h
    cases heq
    rw [List.cons_append, upToClose?.eq_def]
    split
    next heq =>
      -- what follows the first character is the same on both sides
      cases hb : b with
      | nil => simp [hb] at heq
      | cons d b =>
        rw [hb, List.cons_append] at heq
        cases heq
        exact (hne _ rfl (by rw [eq_append_of_upToClose? hr, hb, List.cons_append])).elim
    next heq =>
      cases heq
      rw [ih hr]
      rfl
    next heq => simp at heq
  | case3 => simp at h

theorem unmarked_of_tagAfter? {cs body after : List Char}
    (h : tagAfter? cs = some (.control, body, after)) :
    body.head? ≠ some '#' ∧ body.head? ≠ some '=' := by
  have heq := eq_append_of_tagAfter? h
  unfold tagAfter? at h
  split at h
  next => simp at h
  next => simp at h
  next hc he =>
    cases body with
    | nil => simp
    | cons d body =>
      refine ⟨fun hd => ?_, fun hd => ?_⟩
      · cases hd
        exact hc _ heq
      · cases hd
        exact he _ heq

/-- A tag that was found is found again, whatever follows, if its body is sealed. -/
theorem isFirm_of_tagAfter? {t : Tag} {cs after : List Char}
    (h : tagAfter? cs = some (t.kind, t.body, after))
    (hbody : t.kind ≠ .comment → Sealed t.body) : t.IsFirm := by
  by_cases hk : t.kind = .comment
  · intro rest
    have hread (cs : List Char) : tagAfter? (TagKind.comment.mark ++ t.body ++ cs) =
        (upToClose? (t.body ++ cs)).map fun r => (.comment, r.1, r.2) := rfl
    rw [hk] at h ⊢
    rw [eq_append_of_tagAfter? h, hread] at h
    obtain ⟨⟨b, r⟩, hr, heq⟩ := Option.map_eq_some_iff.mp h
    cases heq
    rw [hread, upToClose?_append hr]
    rfl
  · refine Tag.IsSealed.isFirm ⟨hk, hbody hk, fun hc => ?_⟩
    rw [hc] at h
    exact unmarked_of_tagAfter? h

theorem exists_tagAfter?_of_mem_pieces {n : Nat} {cs : List Char} {t : Tag}
    (h : .tag t ∈ (cutFrom n cs).pieces) :
    ∃ rest after, tagAfter? rest = some (t.kind, t.body, after) := by
  fun_induction cutFrom n cs with
  | case1 => simp [Cut.pieces, tagPieces] at h
  | case2 n c rest kind body after heq r ih =>
    rw [pieces_tag_cons] at h
    rcases List.mem_cons.mp h with he | h
    · cases he
      unfold tagHere? at heq
      split at heq
      next => exact ⟨_, _, heq⟩
      next => simp at heq
    · exact ih h
  | case3 n c rest heq r ih =>
    rw [pieces_char_cons] at h
    rcases List.mem_cons.mp h with he | h
    · cases he
    · exact ih h

/-! ### Accepted templates -/

/-- Where lexemes have a tree, each of them was taken up. -/
theorem exists_step_of_chunksOf {ls : List Lexeme} {cs : List Chunk} (h : chunksOf ls = .ok cs)
    {l : Lexeme} (hl : l ∈ ls) : ∃ b b', Builder.step b l = .ok b' := by
  obtain ⟨b, hb, -⟩ := bind_eq_ok_iff.mp h
  clear h
  generalize (⟨[], []⟩ : Builder) = start at hb
  induction ls generalizing start with
  | nil => cases hl
  | cons l' ls ih =>
    rw [List.foldlM_cons] at hb
    obtain ⟨b', hstep, hb⟩ := bind_eq_ok_iff.mp hb
    rcases List.mem_cons.mp hl with rfl | hl
    · exact ⟨_, _, hstep⟩
    · exact ih hl _ hb

/-- The tags of an accepted template end where they do, whatever text is put behind it. -/
theorem isFirm_of_parse {source name : String} {tree : Template} (h : parse source name = .ok tree)
    (hfeed : ∀ t, .tag t ∈ (cut source.toList).pieces → ¬ t.HasFeedInLiteral) {t : Tag}
    (ht : .tag t ∈ (cut source.toList).pieces) : t.IsFirm := by
  obtain ⟨cs, hcs, -⟩ := parse_eq_ok_iff.mp h
  obtain ⟨rest, after, hafter⟩ := exists_tagAfter?_of_mem_pieces ht
  refine isFirm_of_tagAfter? hafter fun hkind => ?_
  have hactive : t ∈ (lexemes source).filterMap Lexeme.active? := by
    rw [filterMap_active?_lexemes]
    exact List.mem_filterMap.mpr ⟨_, ht, Tag.active?_eq_some_iff.mpr ⟨hkind, rfl⟩⟩
  obtain ⟨l, hl, hlt⟩ := List.mem_filterMap.mp hactive
  obtain rfl : l = .tag t := by
    cases l with
    | text s => cases hlt
    | tag u => rw [(Tag.active?_eq_some_iff.mp hlt).2]
  obtain ⟨b, b', hstep⟩ := exists_step_of_chunksOf hcs hl
  obtain ⟨s, he, -⟩ | ⟨u, he, hu, -⟩ | ⟨u, i, he, hw, -⟩ | ⟨u, c, he, hd, -⟩ := step_cases hstep
  all_goals cases he
  · exact absurd hu hkind
  · exact sealed_of_writes hw (hfeed t ht)
  · exact sealed_of_does hd (hfeed t ht)

end Scaffold.Template
