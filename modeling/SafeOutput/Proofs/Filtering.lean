import Mathlib
import SafeOutput.Proofs.OnePass

namespace SafeOutput.Markup

open Text Policy Escape

variable {c : Char} {i : Nat} {t u gap : Text} {opened : List Text} {tag : BareTag}
  {named : Text → Prop} {allowed : TagSet} {rendered : List (List BareTag)} {ts : List Token}
  {ps : List Piece}

/-- A part that may stand in the output: text without delimiters, or an allowed tag. -/
def Piece.Safe (named : Text → Prop) : Piece → Prop
  | .text gap => ∀ c ∈ gap, isDelimiter c = false
  | .tag it => it.Allowed named

def tagsOf : List Piece → List BareTag
  | [] => []
  | .text _ :: ps => tagsOf ps
  | .tag it :: ps => it :: tagsOf ps

theorem tagsOf_append (ps qs : List Piece) : tagsOf (ps ++ qs) = tagsOf ps ++ tagsOf qs := by
  induction ps with
  | nil => rfl
  | cons p ps ih =>
    cases p with
    | text gap => exact ih
    | tag it => exact congrArg (it :: ·) ih

theorem tagsOf_tags (tags : List BareTag) : tagsOf (tags.map .tag) = tags := by
  induction tags with
  | nil => rfl
  | cons t ts ih => exact congrArg (t :: ·) ih

theorem BareMarkup.append_plain (hg : ∀ c ∈ gap, isDelimiter c = false)
    (h : BareMarkup named opened t) : BareMarkup named opened (gap ++ t) := by
  induction gap with
  | nil => exact h
  | cons c gap ih =>
    obtain ⟨hc, hgap⟩ := List.forall_mem_cons.1 hg
    exact .char hc (ih hgap)

theorem BareMarkup.of_pieces (hs : ∀ p ∈ ps, p.Safe named)
    (hn : nest opened (tagsOf ps) = some []) : BareMarkup named opened (writePieces ps) := by
  induction ps generalizing opened with
  | nil =>
    cases hn
    exact .nil
  | cons p ps ih =>
    obtain ⟨hp, hps⟩ := List.forall_mem_cons.1 hs
    cases p with
    | text gap => exact (ih hps hn).append_plain hp
    | tag it =>
      obtain ⟨rest, hstep, hrest⟩ := Option.bind_eq_some_iff.1 hn
      exact .tag hp hstep (ih hps hrest)

theorem bareTags_writePieces (hs : ∀ p ∈ ps, p.Safe named) :
    bareTags (writePieces ps) = tagsOf ps := by
  induction ps with
  | nil => rfl
  | cons p ps ih =>
    obtain ⟨hp, hps⟩ := List.forall_mem_cons.1 hs
    cases p with
    | text gap =>
      have hlt : '<' ∉ gap := fun hm => absurd (hp '<' hm) (by decide)
      rw [writePieces_cons, Piece.write, bareTags_append hlt, ih hps, tagsOf]
    | tag it =>
      have ha : it.Allowed named := hp
      rw [writePieces_cons, Piece.write, ha.bareTags_render, ih hps, tagsOf]

theorem TagSet.contains_iff {s : TagSet} {name : Text} : s.contains name ↔ name ∈ s :=
  List.contains_iff_mem

theorem keep?_eq_some {it : Tag} (h : keep? allowed it = some tag) :
    it.name = some tag.name ∧ tag.name ∈ allowed := by
  unfold keep? at h
  split at h
  case h_1 name hn =>
    split at h
    case isTrue hc =>
      cases h
      exact ⟨hn, TagSet.contains_iff.1 hc⟩
    case isFalse => cases h
  case h_2 => cases h

theorem mem_keptTags (h : tag ∈ keptTags allowed ts) :
    ∃ it, .tag it ∈ ts ∧ keep? allowed it = some tag := by
  induction ts with
  | nil => cases h
  | cons t ts ih =>
    cases t with
    | text gap =>
      obtain ⟨it, hm, hk⟩ := ih h
      exact ⟨it, List.mem_cons_of_mem _ hm, hk⟩
    | tag it =>
      rcases List.mem_append.1 h with hk | hm
      · exact ⟨it, List.mem_cons_self, Option.mem_toList.1 hk⟩
      · obtain ⟨other, hm, hk⟩ := ih hm
        exact ⟨other, List.mem_cons_of_mem _ hm, hk⟩

theorem keptTags_allowed (h : tag ∈ keptTags allowed (Grammar.markup.tokens t)) :
    tag.Allowed (· ∈ allowed) := by
  obtain ⟨it, hm, hk⟩ := mem_keptTags h
  obtain ⟨hn, ha⟩ := keep?_eq_some hk
  exact ⟨ha, Grammar.isTagName_of_mem_tokens hm hn⟩

theorem balance_allowed (h : tag ∈ (balance (keptTags allowed (Grammar.markup.tokens t))).emitted) :
    tag.Allowed (· ∈ allowed) := by
  have hnames := balance_names (P := fun n => n ∈ allowed ∧ isTagName n)
    (fun u hu => ⟨(keptTags_allowed hu).named, (keptTags_allowed hu).spelled⟩) tag h
  exact ⟨hnames.1, hnames.2⟩

theorem mem_getD_flatten (h : tag ∈ rendered.getD i []) : tag ∈ rendered.flatten := by
  rw [List.getD_eq_getElem?_getD] at h
  cases hr : rendered[i]? with
  | none =>
    rw [hr] at h
    cases h
  | some out =>
    rw [hr] at h
    exact List.mem_flatten.2 ⟨out, List.mem_of_getElem? hr, h⟩

theorem piecesFrom_forall {P : Piece → Prop} (ht : ∀ gap, P (.text (tidyHtml (maskBrackets gap))))
    (hr : ∀ u ∈ rendered.flatten, P (.tag u)) (i : Nat) (ts : List Token) :
    ∀ p ∈ piecesFrom allowed rendered i ts, P p := by
  induction ts generalizing i with
  | nil => exact fun _ hp => absurd hp List.not_mem_nil
  | cons t ts ih =>
    cases t with
    | text gap =>
      rw [piecesFrom, List.forall_mem_cons]
      exact ⟨ht gap, ih i⟩
    | tag it =>
      rw [piecesFrom]
      split
      · rw [List.forall_mem_append, List.forall_mem_map]
        exact ⟨fun u hu => hr u (mem_getD_flatten hu), ih (i + 1)⟩
      · exact ih i

theorem onePass_forall {P : Piece → Prop} (ht : ∀ gap, P (.text (tidyHtml (maskBrackets gap))))
    (ha : ∀ u : BareTag, u.Allowed (· ∈ allowed) → P (.tag u)) (t : Text) :
    ∀ p ∈ onePass allowed t, P p := by
  rw [onePass, List.forall_mem_append, List.forall_mem_map]
  constructor
  · exact piecesFrom_forall ht (fun u hu => ha u (balance_allowed (List.mem_append_left _ hu))) 0 _
  · exact fun u hu => ha u (balance_allowed (List.mem_append_right _ hu))

theorem onePass_safe (allowed : TagSet) (t : Text) :
    ∀ p ∈ onePass allowed t, p.Safe (· ∈ allowed) :=
  onePass_forall (fun _ _ hc => plain_of_mem_tidyHtml hc) (fun _ ha => ha) t

theorem bracket_not_mem_onePass (allowed : TagSet) (t : Text) :
    '[' ∉ writePieces (onePass allowed t) := by
  intro hm
  obtain ⟨p, hp, hb⟩ := List.mem_flatMap.1 hm
  refine onePass_forall (P := fun p => '[' ∉ p.write) ?_ ?_ t p hp hb
  · exact fun gap => bracket_not_mem_tidyHtml (bracket_not_mem_maskBrackets gap)
  · exact fun u ha => ha.not_mem_render (by decide) (by decide)

theorem tagsOf_piecesFrom (h : rendered.length = i + (keptTags allowed ts).length) :
    tagsOf (piecesFrom allowed rendered i ts) = (rendered.drop i).flatten := by
  induction ts generalizing i with
  | nil =>
    have hi : rendered.length ≤ i := Nat.le_of_eq h
    rw [List.drop_eq_nil_of_le hi]
    rfl
  | cons t ts ih =>
    cases t with
    | text gap => exact ih h
    | tag it =>
      rw [piecesFrom]
      cases hk : keep? allowed it with
      | none =>
        rw [keptTags, hk] at h
        exact ih h
      | some kept =>
        rw [keptTags, hk, Option.toList_some, List.singleton_append, List.length_cons] at h
        have hi : i < rendered.length := by omega
        rw [Option.isSome_some, if_pos rfl, tagsOf_append, tagsOf_tags, ih (by omega),
          List.drop_eq_getElem_cons hi, List.flatten_cons, List.getD_eq_getElem _ _ hi]

/-- The tags of a filtered text are those that balancing emits. -/
theorem tagsOf_onePass (allowed : TagSet) (t : Text) :
    tagsOf (onePass allowed t) =
      (balance (keptTags allowed (Grammar.markup.tokens t))).emitted := by
  rw [onePass, tagsOf_append, tagsOf_tags, tagsOf_piecesFrom, List.drop_zero, Balanced.emitted]
  rw [Nat.zero_add]
  exact Nesting.run_length _ _

theorem onePass_wellNested (allowed : TagSet) (t : Text) :
    WellNested (tagsOf (onePass allowed t)) := by
  rw [tagsOf_onePass]
  exact balance_emitted_wellNested _

theorem stripTags_empty (h : allowed.isEmpty = true) (t : Text) :
    (stripTags (some allowed) t).value = stripAll t := by
  rw [stripTags, h]
  rfl

theorem stripTags_allowed (h : allowed.isEmpty = false) (t : Text) :
    (stripTags (some allowed) t).value = writePieces (onePass allowed t) := by
  rw [← filterAllowed_text, stripTags, h]
  rfl

theorem onePass_bareMarkup (allowed : TagSet) (t : Text) :
    BareMarkup (· ∈ allowed) [] (writePieces (onePass allowed t)) :=
  .of_pieces (onePass_safe allowed t) (onePass_wellNested allowed t)

/-- Filtering against an allow-list leaves text and bare allowed tags, well nested, and neither
quotes nor null characters nor opening brackets. -/
theorem stripTags_safe (allowed : TagSet) (h : allowed.isEmpty = false) (t : Text) :
    ∃ ps : List Piece, (stripTags (some allowed) t).value = writePieces ps ∧
      (∀ p ∈ ps, p.Safe (· ∈ allowed)) ∧ bareTags (writePieces ps) = tagsOf ps ∧
      SafeMarkup (· ∈ allowed) (writePieces ps) ∧ '[' ∉ writePieces ps := by
  have hs := onePass_safe allowed t
  exact ⟨onePass allowed t, stripTags_allowed h t, hs, bareTags_writePieces hs,
    (onePass_bareMarkup allowed t).safe, bracket_not_mem_onePass allowed t⟩

/-- No script element forms around a tag that is kept. -/
theorem stripTags_safe_recombined :
    let allowed := TagSet.ofList ["b".toList]
    allowed.isEmpty = false ∧
      ∃ ps : List Piece,
        (stripTags (some allowed) "[0]<<b>script>'x'<</i>/script>".toList).value = writePieces ps ∧
        (∀ p ∈ ps, p.Safe (· ∈ allowed)) ∧ bareTags (writePieces ps) = tagsOf ps ∧
        SafeMarkup (· ∈ allowed) (writePieces ps) ∧ '[' ∉ writePieces ps :=
  ⟨by decide, stripTags_safe (TagSet.ofList ["b".toList]) (by decide) _⟩

/-- The tokens of written parts: neighbouring texts are one gap. -/
def scanned : List Piece → List Token
  | [] => []
  | .text gap :: ps => gap.foldr Token.consChar (scanned ps)
  | .tag it :: ps => .tag it.toTag :: scanned ps

theorem tokens_writePieces (g : Grammar) (hs : ∀ p ∈ ps, p.Safe named) :
    g.tokens (writePieces ps) = scanned ps := by
  induction ps with
  | nil => exact Grammar.tokens_nil _
  | cons p ps ih =>
    obtain ⟨hp, hps⟩ := List.forall_mem_cons.1 hs
    cases p with
    | text gap =>
      have hlt : '<' ∉ gap := fun hm => absurd (hp '<' hm) (by decide)
      rw [writePieces_cons, Piece.write, Grammar.tokens_append_of_gap hlt, ih hps, scanned]
    | tag it =>
      have ha : it.Allowed named := hp
      rw [writePieces_cons, Piece.write, g.tokens_render ha.spelled, ih hps, scanned]

theorem mem_scanned {it : Tag} (h : .tag it ∈ scanned ps) :
    ∃ tag, .tag tag ∈ ps ∧ it = tag.toTag := by
  induction ps with
  | nil => cases h
  | cons p ps ih =>
    cases p with
    | text gap =>
      have hm : .tag it ∈ scanned ps := by
        rw [scanned] at h
        induction gap with
        | nil => exact h
        | cons c gap ihgap => exact ihgap (mem_consChar.1 h)
      obtain ⟨tag, htag, he⟩ := ih hm
      exact ⟨tag, List.mem_cons_of_mem _ htag, he⟩
    | tag other =>
      rcases List.mem_cons.1 h with he | hm
      · exact ⟨other, List.mem_cons_self, Token.tag.inj he⟩
      · obtain ⟨tag, htag, he⟩ := ih hm
        exact ⟨tag, List.mem_cons_of_mem _ htag, he⟩

theorem keptTags_consChar (allowed : TagSet) (c : Char) (ts : List Token) :
    keptTags allowed (Token.consChar c ts) = keptTags allowed ts := by
  match ts with
  | [] => rfl
  | .text gap :: ts => rfl
  | .tag it :: ts => rfl

/-- What does not see the characters of a gap does not see the gap. -/
theorem foldr_consChar_eq {α : Type} {f : List Token → α}
    (h : ∀ c ts, f (Token.consChar c ts) = f ts) (gap : Text) (ts : List Token) :
    f (gap.foldr Token.consChar ts) = f ts := by
  induction gap with
  | nil => rfl
  | cons c gap ih => rw [List.foldr_cons, h, ih]

theorem keptTags_gap (allowed : TagSet) (gap : Text) (ts : List Token) :
    keptTags allowed (gap.foldr Token.consChar ts) = keptTags allowed ts :=
  foldr_consChar_eq (keptTags_consChar allowed) gap ts

theorem keep?_toTag (h : tag.Allowed (· ∈ allowed)) : keep? allowed tag.toTag = some tag := by
  rw [keep?]
  exact if_pos (TagSet.contains_iff.2 h.named)

theorem keptTags_scanned (hs : ∀ p ∈ ps, p.Safe (· ∈ allowed)) :
    keptTags allowed (scanned ps) = tagsOf ps := by
  induction ps with
  | nil => rfl
  | cons p ps ih =>
    obtain ⟨hp, hps⟩ := List.forall_mem_cons.1 hs
    cases p with
    | text gap => rw [scanned, keptTags_gap, ih hps, tagsOf]
    | tag it =>
      rw [scanned, keptTags, keep?_toTag hp, ih hps]
      rfl

theorem writePieces_piecesFrom_consChar (allowed : TagSet) (rendered : List (List BareTag))
    (i : Nat) (c : Char) (ts : List Token) :
    writePieces (piecesFrom allowed rendered i (Token.consChar c ts)) =
      tidyHtml (maskBrackets [c]) ++ writePieces (piecesFrom allowed rendered i ts) := by
  match ts with
  | [] => rfl
  | .tag it :: ts => rfl
  | .text gap :: ts =>
    have hg : tidyHtml (maskBrackets (c :: gap)) =
        tidyHtml (maskBrackets [c]) ++ tidyHtml (maskBrackets gap) := by
      rw [maskBrackets_cons, tidyHtml_append]
    have hw := congrArg (· ++ writePieces (piecesFrom allowed rendered i ts)) hg
    exact hw.trans (List.append_assoc _ _ _)

theorem writePieces_piecesFrom_gap (hg : ∀ c ∈ gap, isDelimiter c = false) (hb : '[' ∉ gap) :
    writePieces (piecesFrom allowed rendered i (gap.foldr Token.consChar ts)) =
      gap ++ writePieces (piecesFrom allowed rendered i ts) := by
  induction gap with
  | nil => rfl
  | cons c gap ih =>
    obtain ⟨hc, hgap⟩ := List.forall_mem_cons.1 hg
    rw [List.mem_cons, not_or] at hb
    have hm : maskBrackets [c] = [c] := maskBrackets_cons_of_ne (Ne.symm hb.1)
    have ht : tidyHtml [c] = [c] := tidyHtml_of_plain (List.forall_mem_singleton.2 hc)
    rw [List.foldr_cons, writePieces_piecesFrom_consChar, hm, ht, ih hgap hb.2]
    rfl

/-- Parts that are safe already are written again as they are. -/
theorem writePieces_piecesFrom_scanned (hs : ∀ p ∈ ps, p.Safe (· ∈ allowed))
    (hb : '[' ∉ writePieces ps) (hr : rendered.drop i = (tagsOf ps).map ([·])) :
    writePieces (piecesFrom allowed rendered i (scanned ps)) = writePieces ps := by
  induction ps generalizing i with
  | nil => rfl
  | cons p ps ih =>
    obtain ⟨hp, hps⟩ := List.forall_mem_cons.1 hs
    rw [writePieces_cons, List.mem_append, not_or] at hb
    cases p with
    | text gap => rw [scanned, writePieces_piecesFrom_gap hp hb.1, ih hps hb.2 hr, writePieces_cons,
        Piece.write]
    | tag it =>
      -- The next entry of the balanced tags is this tag alone.
      have hget : rendered.getD i [] = [it] := by
        rw [List.getD_eq_getElem?_getD, ← List.head?_drop, hr]
        rfl
      have hdrop : rendered.drop (i + 1) = (tagsOf ps).map ([·]) := by
        rw [← List.drop_drop, hr]
        rfl
      rw [scanned, piecesFrom, keep?_toTag hp, Option.isSome_some, if_pos rfl, writePieces_append,
        hget, writePieces_tags, ih hps hb.2 hdrop]
      simp [renderTags, Piece.write]

theorem filterAllowed_of_safe (hs : ∀ p ∈ ps, p.Safe (· ∈ allowed)) (hn : WellNested (tagsOf ps))
    (hb : '[' ∉ writePieces ps) :
    (filterAllowed allowed (writePieces ps)).text = writePieces ps := by
  rw [filterAllowed_text, onePass, tokens_writePieces _ hs, keptTags_scanned hs,
    balance_of_wellNested hn, List.map_nil, List.append_nil]
  exact writePieces_piecesFrom_scanned hs hb rfl

theorem stripAll_of_not_mem (h : '<' ∉ t) : stripAll t = t := by
  have hg : gaps (Grammar.markup.tokens t) = t := by
    rw [Grammar.markup.tokens_of_gap h]
    cases t with
    | nil => rfl
    | cons c cs => exact List.append_nil _
  rw [stripAll, hg, replaceChar_of_not_mem h]

theorem lt_not_mem_stripAll (t : Text) : '<' ∉ stripAll t :=
  not_mem_replaceChar (by decide) _

/-- Filtering a second time changes nothing, whatever the allow-list. -/
theorem stripTags_stripTags (allowed : Option TagSet) (t : Text) :
    (stripTags allowed (stripTags allowed t).value).value = (stripTags allowed t).value := by
  have hall : stripAll (stripAll t) = stripAll t := stripAll_of_not_mem (lt_not_mem_stripAll t)
  cases allowed with
  | none => exact hall
  | some allowed =>
    cases he : allowed.isEmpty with
    | true => rw [stripTags_empty he, stripTags_empty he, hall]
    | false =>
      rw [stripTags_allowed he t, stripTags_allowed he, ← filterAllowed_text]
      exact filterAllowed_of_safe (onePass_safe allowed t) (onePass_wellNested allowed t)
        (bracket_not_mem_onePass allowed t)

end SafeOutput.Markup
