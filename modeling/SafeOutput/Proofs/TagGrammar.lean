import Mathlib
import SafeOutput.Proofs.Partition
import SafeOutput.Proofs.TagPattern

namespace SafeOutput.Markup

open Text

variable {c : Char} {t cs u attrs body rest before after gap : Text} {g : Grammar} {tag : Tag}
  {closing : Bool} {ts us vs : List Token}

/-- Text in which quotes stand in pairs, and `>` only inside a pair. -/
inductive Enclosed : Text → Prop where
  | nil : Enclosed []
  | char {c : Char} {cs : Text} :
      c ≠ '>' → isQuote c = false → Enclosed cs → Enclosed (c :: cs)
  | quoted {q : Char} {body cs : Text} :
      isQuote q = true → q ∉ body → Enclosed cs → Enclosed (q :: (body ++ q :: cs))

/-- The first `>` outside quotes stands between the two parts. -/
def TagEnds (cs attrs rest : Text) : Prop :=
  cs = attrs ++ '>' :: rest ∧ Enclosed attrs

/-- A `-->` on the same line stands between the two parts. -/
def CommentEnds (cs body rest : Text) : Prop :=
  cs = body ++ "-->".toList ++ rest ∧ '\n' ∉ body

/-- What may follow `<` in a tag, the tag, and the text behind it. -/
inductive Grammar.Reads (g : Grammar) : Text → Tag → Text → Prop where
  | comment {cs body rest : Text} :
      g = .document → CommentEnds cs body rest →
      (∀ other behind, CommentEnds cs other behind → body.length ≤ other.length) →
      Reads g ("!--".toList ++ cs) ⟨"<!--".toList ++ body ++ "-->".toList, none, false, []⟩ rest
  | declaration {cs attrs rest : Text} :
      (g = .document → ∀ ds, cs = "--".toList ++ ds → ∀ body behind, ¬CommentEnds ds body behind) →
      TagEnds cs attrs rest →
      Reads g ('!' :: cs) ⟨"<!".toList ++ attrs ++ ['>'], none, false, g.report attrs⟩ rest
  | element {name cs attrs rest : Text} (closing : Bool) :
      g.IsName name → (∀ c ∈ cs.head?, g.continuesName c = false) → TagEnds cs attrs rest →
      Reads g (slashText closing ++ name ++ cs)
        ⟨'<' :: slashText closing ++ name ++ attrs ++ ['>'], some (lowercase name), closing,
          g.report attrs⟩ rest

theorem splitQuote_append {q : Char} (hq : q ∉ body) (rest : Text) :
    splitQuote q (body ++ q :: rest) = some (body, rest) := by
  induction body with
  | nil => exact if_pos rfl
  | cons c body ih =>
    rw [List.mem_cons, not_or] at hq
    rw [List.cons_append, splitQuote, if_neg (Ne.symm hq.1), ih hq.2]
    rfl

theorem splitTail_of_enclosed (h : Enclosed attrs) (rest : Text) :
    splitTail none (attrs ++ '>' :: rest) = some (attrs, rest) := by
  induction h with
  | nil => exact if_pos rfl
  | char hgt hq _ ih =>
    rw [List.cons_append, splitTail, if_neg hgt, hq, if_neg Bool.false_ne_true, ih]
    rfl
  | @quoted q body cs hq hb _ ih =>
    have hgt : q ≠ '>' := by
      rintro rfl
      cases hq
    have hsplit := splitQuote_append hb (cs ++ '>' :: rest)
    rw [List.cons_append, List.append_assoc, List.cons_append, splitTail, if_neg hgt, hq,
      if_pos rfl, splitTail_some, hsplit, Option.bind_some, ih]
    rfl

theorem enclosed_of_splitTail (h : splitTail none cs = some (attrs, rest)) : Enclosed attrs := by
  induction hn : cs.length using Nat.strong_induction_on generalizing cs attrs with
  | _ n ih =>
    subst hn
    cases cs with
    | nil => cases h
    | cons c cs =>
      rw [splitTail] at h
      split at h
      case isTrue =>
        cases h
        exact .nil
      case isFalse hgt =>
        obtain ⟨⟨tail, r⟩, ht, he⟩ := Option.map_eq_some_iff.1 h
        cases he
        cases hq : isQuote c with
        | false =>
          rw [hq, if_neg Bool.false_ne_true] at ht
          exact .char hgt hq (ih cs.length (Nat.lt_succ_self _) ht rfl)
        | true =>
          rw [hq, if_pos rfl, splitTail_some] at ht
          obtain ⟨⟨body, behind⟩, hb, hr⟩ := Option.bind_eq_some_iff.1 ht
          obtain ⟨⟨more, r⟩, hm, he⟩ := Option.map_eq_some_iff.1 hr
          cases he
          obtain ⟨rfl, hnot⟩ := splitQuote_eq_some hb
          refine .quoted hq hnot (ih behind.length ?_ hm rfl)
          simp only [List.length_cons, List.length_append]
          omega

theorem splitTail_eq_some_iff : splitTail none cs = some (attrs, rest) ↔ TagEnds cs attrs rest := by
  constructor
  · intro h
    exact ⟨splitTail_eq_some h, enclosed_of_splitTail h⟩
  · rintro ⟨rfl, he⟩
    exact splitTail_of_enclosed he rest

theorem commentEnds_of_splitComment (h : splitComment cs = some (body, rest)) :
    CommentEnds cs body rest := by
  refine ⟨by rw [splitComment_eq_some h]; simp, ?_⟩
  fun_induction splitComment cs generalizing body with
  | case1 => cases h
  | case2 => cases h; exact List.not_mem_nil
  | case3 => cases h
  | case4 c cs _ hline ih =>
    obtain ⟨⟨b, r⟩, hb, he⟩ := Option.map_eq_some_iff.1 h
    cases he
    exact List.not_mem_cons_of_ne_of_not_mem (Ne.symm hline) (ih hb)

/-- Wherever a comment could end, the scan ends there or before. -/
theorem CommentEnds.splitComment (h : CommentEnds cs body rest) :
    ∃ b r, splitComment cs = some (b, r) ∧ b.length ≤ body.length := by
  obtain ⟨rfl, hline⟩ := h
  induction body with
  | nil => exact ⟨[], rest, rfl, Nat.le_refl _⟩
  | cons c body ih =>
    rw [List.mem_cons, not_or] at hline
    rw [List.append_assoc, List.cons_append, ← List.append_assoc, Markup.splitComment]
    split
    · exact ⟨[], _, rfl, Nat.zero_le _⟩
    · obtain ⟨b, r, hb, hlen⟩ := ih hline.2
      rw [if_neg (Ne.symm hline.1), hb]
      exact ⟨c :: b, r, rfl, Nat.succ_le_succ hlen⟩

theorem splitComment_eq_some_iff : splitComment cs = some (body, rest) ↔
    CommentEnds cs body rest ∧
      ∀ other behind, CommentEnds cs other behind → body.length ≤ other.length := by
  constructor
  · intro h
    refine ⟨commentEnds_of_splitComment h, ?_⟩
    intro other behind ho
    obtain ⟨b, r, hb, hlen⟩ := ho.splitComment
    rw [h] at hb
    cases hb
    exact hlen
  · rintro ⟨h, hfirst⟩
    obtain ⟨b, r, hb, hlen⟩ := h.splitComment
    have hb' := commentEnds_of_splitComment hb
    have hsame : b.length = body.length := Nat.le_antisymm hlen (hfirst b r hb')
    have heq := hb'.1.symm.trans h.1
    rw [List.append_assoc, List.append_assoc] at heq
    obtain ⟨rfl, hrest⟩ := List.append_inj heq hsame
    rw [hb, List.append_cancel_left hrest]

theorem splitComment_eq_none_iff :
    splitComment cs = none ↔ ∀ body rest, ¬CommentEnds cs body rest := by
  constructor
  · intro h body rest he
    obtain ⟨b, r, hb, -⟩ := he.splitComment
    rw [h] at hb
    cases hb
  · intro h
    rw [Option.eq_none_iff_forall_ne_some]
    rintro ⟨body, rest⟩ he
    exact h body rest (commentEnds_of_splitComment he)

theorem commentAt_eq_some_iff : g.commentAt cs = some (tag, rest) ↔
    ∃ ds body, g = .document ∧ cs = "--".toList ++ ds ∧ splitComment ds = some (body, rest) ∧
      tag = ⟨"<!--".toList ++ body ++ "-->".toList, none, false, []⟩ := by
  constructor
  · intro h
    unfold Grammar.commentAt at h
    split at h
    case h_1 ds =>
      obtain ⟨⟨body, r⟩, hb, he⟩ := Option.map_eq_some_iff.1 h
      cases he
      exact ⟨ds, body, rfl, rfl, hb, rfl⟩
    case h_2 => cases h
  · rintro ⟨ds, body, rfl, rfl, hb, rfl⟩
    change (splitComment ds).map _ = _
    rw [hb]
    rfl

theorem commentAt_eq_none (h : g.commentAt cs = none) (hg : g = .document) (ds : Text)
    (hd : cs = "--".toList ++ ds) : splitComment ds = none := by
  subst hg hd
  exact Option.map_eq_none_iff.1 h

theorem declarationAt_eq_some_iff : g.declarationAt cs = some (tag, rest) ↔
    ∃ attrs, TagEnds cs attrs rest ∧
      tag = ⟨"<!".toList ++ attrs ++ ['>'], none, false, g.report attrs⟩ := by
  constructor
  · intro h
    obtain ⟨⟨attrs, r⟩, ht, he⟩ := Option.map_eq_some_iff.1 h
    cases he
    exact ⟨attrs, splitTail_eq_some_iff.1 ht, rfl⟩
  · rintro ⟨attrs, ht, rfl⟩
    rw [Grammar.declarationAt, splitTail_eq_some_iff.2 ht]
    rfl

theorem elementAt_eq_some_iff : g.elementAt closing cs = some (tag, rest) ↔
    ∃ name ds attrs, cs = name ++ ds ∧ g.IsName name ∧
      (∀ c ∈ ds.head?, g.continuesName c = false) ∧ TagEnds ds attrs rest ∧
      tag = ⟨'<' :: slashText closing ++ name ++ attrs ++ ['>'], some (lowercase name), closing,
        g.report attrs⟩ := by
  have hstart : (if closing then "</" else "<").toList = '<' :: slashText closing := by
    cases closing <;> rfl
  constructor
  · intro h
    unfold Grammar.elementAt at h
    split at h
    · cases h
    case h_2 c cs =>
      split at h
      case isTrue hc =>
        obtain ⟨⟨attrs, r⟩, ht, he⟩ := Option.map_eq_some_iff.1 h
        cases he
        refine ⟨c :: cs.takeWhile g.continuesName, cs.dropWhile g.continuesName, attrs, ?_,
          ⟨c, _, rfl, hc, fun d hd => List.mem_takeWhile_imp hd⟩, ?_,
          splitTail_eq_some_iff.1 ht, by rw [hstart]⟩
        · rw [List.cons_append, List.takeWhile_append_dropWhile]
        · intro d hd
          have hstop := List.head?_dropWhile_not g.continuesName cs
          rw [hd] at hstop
          exact hstop
      case isFalse => cases h
  · rintro ⟨_, ds, attrs, rfl, ⟨c, more, rfl, hc, hmore⟩, hstop, ht, rfl⟩
    have htake : ds.takeWhile g.continuesName = [] := by
      cases ds with
      | nil => rfl
      | cons d ds => exact List.takeWhile_cons_of_neg (by simp [hstop d rfl])
    have hdrop : ds.dropWhile g.continuesName = ds := by
      cases ds with
      | nil => rfl
      | cons d ds => exact List.dropWhile_cons_of_neg (by simp [hstop d rfl])
    rw [List.cons_append, Grammar.elementAt, if_pos hc, List.takeWhile_append_of_pos hmore,
      List.dropWhile_append_of_pos hmore, htake, hdrop, List.append_nil,
      splitTail_eq_some_iff.2 ht, hstart]
    rfl

theorem Grammar.Reads.of_tagAt (h : g.tagAt cs = some (tag, rest)) : g.Reads cs tag rest := by
  unfold tagAt at h
  split at h
  case h_1 ds =>
    split at h
    case h_1 hc =>
      rw [h] at hc
      obtain ⟨es, body, hg, rfl, hb, rfl⟩ := commentAt_eq_some_iff.1 hc
      obtain ⟨hends, hfirst⟩ := splitComment_eq_some_iff.1 hb
      exact .comment hg hends hfirst
    case h_2 hc =>
      obtain ⟨attrs, ht, rfl⟩ := declarationAt_eq_some_iff.1 h
      refine .declaration ?_ ht
      intro hg es hd
      exact splitComment_eq_none_iff.1 (commentAt_eq_none hc hg es hd)
  case h_2 ds =>
    obtain ⟨name, es, attrs, rfl, hn, hstop, ht, rfl⟩ := elementAt_eq_some_iff.1 h
    exact .element true hn hstop ht
  case h_3 ds =>
    obtain ⟨name, es, attrs, rfl, hn, hstop, ht, rfl⟩ := elementAt_eq_some_iff.1 h
    exact .element false hn hstop ht

theorem Grammar.Reads.tagAt (h : g.Reads cs tag rest) : g.tagAt cs = some (tag, rest) := by
  rw [tagAt_eq_or]
  cases h with
  | @comment cs body _ hg hends hfirst =>
    have hc : g.commentAt ("--".toList ++ cs) = _ := commentAt_eq_some_iff.2
      ⟨cs, body, hg, rfl, splitComment_eq_some_iff.2 ⟨hends, hfirst⟩, rfl⟩
    change (g.commentAt ("--".toList ++ cs)).or _ = _
    rw [hc]
    rfl
  | @declaration cs attrs _ hnone ht =>
    have hc : g.commentAt cs = none := by
      rw [Option.eq_none_iff_forall_ne_some]
      rintro ⟨other, behind⟩ he
      obtain ⟨ds, body, hg, hd, hb, -⟩ := commentAt_eq_some_iff.1 he
      exact hnone hg ds hd body behind (commentEnds_of_splitComment hb)
    change (g.commentAt cs).or (g.declarationAt cs) = _
    rw [hc, Option.none_or]
    exact declarationAt_eq_some_iff.2 ⟨attrs, ht, rfl⟩
  | @element name cs attrs _ closing hn hstop ht =>
    have he : g.elementAt closing (name ++ cs) = _ :=
      elementAt_eq_some_iff.2 ⟨name, cs, attrs, rfl, hn, hstop, ht, rfl⟩
    rw [← tagAt_eq_or]
    cases closing with
    | true => exact he
    | false =>
      obtain ⟨c, more, rfl, hc, -⟩ := hn
      rw [← he]
      apply tagAt_cons_of_ne
      · rintro rfl
        rw [not_startsName_bang] at hc
        cases hc
      · rintro rfl
        rw [not_startsName_slash] at hc
        cases hc

theorem Grammar.tagAt_eq_some_iff : g.tagAt cs = some (tag, rest) ↔ g.Reads cs tag rest :=
  ⟨Reads.of_tagAt, Reads.tagAt⟩

def Grammar.searched (g : Grammar) (t : Text) : List Token :=
  let found := g.pattern.search t
  found.1.flatMap (fun p => gapTokens p.1 ++ [.tag (g.tagOf p.2)]) ++ gapTokens found.2

theorem Grammar.searched_of_gapBefore (h : g.pattern.search (c :: cs) =
    Pattern.gapBefore c (g.pattern.search cs)) :
    g.searched (c :: cs) = Token.consChar c (g.searched cs) := by
  rw [searched, searched, h]
  obtain ⟨found, last⟩ := g.pattern.search cs
  cases found with
  | nil =>
    cases last with
    | nil => rfl
    | cons d ds => rfl
  | cons p more =>
    obtain ⟨gap, hit⟩ := p
    simp only [Pattern.gapBefore, List.flatMap_cons, List.append_assoc, List.singleton_append]
    exact (consChar_gapTokens c gap (by simp)).symm

/-- Scanning finds what backtracking finds. -/
theorem Grammar.tokens_eq_searched (g : Grammar) (t : Text) : g.tokens t = g.searched t := by
  have hnone {cs : Text} (hf : g.tagAt cs = none) : g.pattern.first? ('<' :: cs) = none := by
    rw [← first?_pattern] at hf
    exact Option.map_eq_none_iff.1 hf
  fun_induction Grammar.tokens g t with
  | case1 =>
    rw [searched, Pattern.search]
    rfl
  | case2 cs tag rest hf hlen ih =>
    have hp := first?_pattern g cs
    rw [hf] at hp
    obtain ⟨h, hfirst, he⟩ := Option.map_eq_some_iff.1 hp
    cases he
    rw [ih, searched, searched, Pattern.search_of_first? hfirst (Nat.le_of_lt hlen)]
    rfl
  | case3 cs hf ih =>
    rw [ih, searched_of_gapBefore (Pattern.search_of_first?_none (hnone hf))]
  | case4 c cs hc ih =>
    have hfirst : g.pattern.first? (c :: cs) = none := by
      rw [Pattern.first?, hits_pattern_of_ne hc]
      rfl
    rw [ih, searched_of_gapBefore (Pattern.search_of_first?_none hfirst)]

def Grammar.HasTag (g : Grammar) (t before : Text) (tag : Tag) (rest : Text) : Prop :=
  ∃ ts us, g.tokens t = ts ++ .tag tag :: us ∧ ts.flatMap Token.source = before ∧
    us.flatMap Token.source = rest

/-- What follows the text `before` lies inside a tag that starts earlier. -/
def Grammar.InsideTag (g : Grammar) (t before : Text) : Prop :=
  ∃ start tag rest, g.HasTag t start tag rest ∧ start.length < before.length ∧
    before.length < start.length + tag.raw.length

def Grammar.InGap (g : Grammar) (t before : Text) : Prop :=
  ∃ ts us gap done left, g.tokens t = ts ++ .text gap :: us ∧ gap = done ++ left ∧ left ≠ [] ∧
    ts.flatMap Token.source ++ done = before

theorem consChar_append_tag (c : Char) (ts : List Token) (tag : Tag) (us : List Token) :
    ∃ ts', Token.consChar c (ts ++ .tag tag :: us) = ts' ++ .tag tag :: us ∧
      ts'.flatMap Token.source = c :: ts.flatMap Token.source := by
  cases ts with
  | nil => exact ⟨[.text [c]], rfl, rfl⟩
  | cons first ts =>
    cases first with
    | text gap => exact ⟨.text (c :: gap) :: ts, rfl, rfl⟩
    | tag it => exact ⟨.text [c] :: .tag it :: ts, rfl, rfl⟩

theorem of_consChar_eq_append_tag (h : Token.consChar c ts = us ++ .tag tag :: vs) :
    ∃ us', ts = us' ++ .tag tag :: vs ∧
      us.flatMap Token.source = c :: us'.flatMap Token.source := by
  cases us with
  | nil =>
    unfold Token.consChar at h
    split at h <;> cases h
  | cons first us =>
    unfold Token.consChar at h
    split at h
    case h_1 gap ts =>
      cases h
      exact ⟨.text gap :: us, rfl, rfl⟩
    case h_2 =>
      cases h
      exact ⟨us, rfl, rfl⟩

/-- The tokens of one text stand among those of another behind the text `u`. -/
structure Grammar.Shifts (g : Grammar) (u cs t : Text) : Prop where
  tag : ∀ {before : Text} {tag : Tag} {rest : Text},
    g.HasTag cs before tag rest → g.HasTag t (u ++ before) tag rest
  gap : ∀ {before : Text}, g.InGap cs before → g.InGap t (u ++ before)

theorem Grammar.Shifts.of_tag (ht : g.tokens t = .tag tag :: g.tokens rest) :
    g.Shifts tag.raw rest t where
  tag := by
    rintro before other behind ⟨ts, us, he, rfl, hu⟩
    exact ⟨.tag tag :: ts, us, by rw [ht, he]; rfl, rfl, hu⟩
  gap := by
    rintro before ⟨ts, us, gap, done, left, he, hg, hl, rfl⟩
    refine ⟨.tag tag :: ts, us, gap, done, left, by rw [ht, he]; rfl, hg, hl, ?_⟩
    rw [List.flatMap_cons, List.append_assoc]
    rfl

theorem Grammar.Shifts.of_char (ht : g.tokens (c :: cs) = Token.consChar c (g.tokens cs)) :
    g.Shifts [c] cs (c :: cs) where
  tag := by
    rintro before tag rest ⟨ts, us, he, rfl, hu⟩
    obtain ⟨ts', hc, hs⟩ := consChar_append_tag c ts tag us
    exact ⟨ts', us, by rw [ht, he, hc], hs, hu⟩
  gap := by
    rintro before ⟨ts, us, gap, done, left, he, hg, hl, rfl⟩
    rw [he] at ht
    cases ts with
    | nil => exact ⟨[], us, c :: gap, c :: done, left, ht, by rw [hg]; rfl, hl, rfl⟩
    | cons first ts =>
      cases first with
      | text other => exact ⟨.text (c :: other) :: ts, us, gap, done, left, ht, hg, hl, rfl⟩
      | tag it => exact ⟨.text [c] :: .tag it :: ts, us, gap, done, left, ht, hg, hl, rfl⟩

theorem Grammar.InGap.here (ht : g.tokens (c :: cs) = Token.consChar c (g.tokens cs)) :
    g.InGap (c :: cs) [] := by
  unfold Token.consChar at ht
  split at ht
  case h_1 gap ts _ => exact ⟨[], ts, c :: gap, [], c :: gap, ht, rfl, List.cons_ne_nil _ _, rfl⟩
  case h_2 ts _ => exact ⟨[], _, [c], [], [c], ht, rfl, List.cons_ne_nil _ _, rfl⟩

theorem Grammar.HasTag.tagAt (h : g.HasTag t before tag rest) :
    ∃ after, t = before ++ '<' :: after ∧ g.tagAt after = some (tag, rest) := by
  obtain ⟨ts, us, he, rfl, rfl⟩ := h
  have charCase {c : Char} {cs : Text} {ts us : List Token}
      (he : Token.consChar c (g.tokens cs) = ts ++ .tag tag :: us)
      (ih : ∀ ts us, g.tokens cs = ts ++ .tag tag :: us →
        ∃ after, cs = ts.flatMap Token.source ++ '<' :: after ∧
          g.tagAt after = some (tag, us.flatMap Token.source)) :
      ∃ after, c :: cs = ts.flatMap Token.source ++ '<' :: after ∧
        g.tagAt after = some (tag, us.flatMap Token.source) := by
    obtain ⟨ts', hs, hsource⟩ := of_consChar_eq_append_tag he
    obtain ⟨after, hafter, hf⟩ := ih ts' us hs
    exact ⟨after, by rw [hsource, hafter]; rfl, hf⟩
  fun_induction Grammar.tokens g t generalizing ts us with
  | case1 => exact absurd he.symm (List.append_ne_nil_of_right_ne_nil _ (List.cons_ne_nil _ _))
  | case2 cs found behind hf _ ih =>
    cases ts with
    | nil =>
      cases he
      exact ⟨cs, rfl, by rw [source_tokens, hf]⟩
    | cons first ts =>
      obtain ⟨rfl, hrest⟩ := List.cons.inj he
      obtain ⟨after, hafter, ht⟩ := ih ts us hrest
      refine ⟨after, ?_, ht⟩
      rw [List.flatMap_cons, List.append_assoc, ← hafter]
      exact tagAt_raw hf
  | case3 cs hf ih => exact charCase he ih
  | case4 c cs hc ih => exact charCase he ih

/-- A `<` between two texts lies inside an earlier tag, or starts the tag that the scan finds there,
or is part of a gap and the scan finds no tag. -/
def Grammar.Placed (g : Grammar) (t before after : Text) : Prop :=
  g.InsideTag t before ∨
    (∃ tag rest, g.HasTag t before tag rest ∧ g.tagAt after = some (tag, rest)) ∨
    (g.InGap t before ∧ g.tagAt after = none)

theorem Grammar.Placed.shift (hs : g.Shifts u cs t) (h : g.Placed cs before after) :
    g.Placed t (u ++ before) after := by
  rcases h with ⟨start, tag, rest, hh, hlo, hhi⟩ | ⟨tag, rest, hh, hf⟩ | ⟨hg, hf⟩
  · refine .inl ⟨u ++ start, tag, rest, hs.tag hh, ?_, ?_⟩
    · simp only [List.length_append]
      omega
    · simp only [List.length_append]
      omega
  · exact .inr (.inl ⟨tag, rest, hs.tag hh, hf⟩)
  · exact .inr (.inr ⟨hs.gap hg, hf⟩)

theorem Grammar.placed (ht : t = before ++ '<' :: after) : g.Placed t before after := by
  fun_induction Grammar.tokens g t generalizing before with
  | case1 => exact absurd ht.symm (List.append_ne_nil_of_right_ne_nil _ (List.cons_ne_nil _ _))
  | case2 cs tag rest hf _ ih =>
    have htokens := tokens_of_tagAt hf
    have hhere : g.HasTag ('<' :: cs) [] tag rest :=
      ⟨[], g.tokens rest, htokens, rfl, source_tokens g rest⟩
    have hraw := (tagAt_raw hf).symm.trans ht
    rcases List.append_eq_append_iff.1 hraw with ⟨mid, rfl, hrest⟩ | ⟨mid, hr, hrest⟩
    · exact (ih hrest).shift (.of_tag htokens)
    · cases before with
      | nil =>
        cases ht
        exact .inr (.inl ⟨tag, rest, hhere, hf⟩)
      | cons d ds =>
        cases mid with
        | nil =>
          -- The tag ends right before the sign.
          rw [List.append_nil] at hr
          have hnil : rest = [] ++ '<' :: after := hrest.symm
          have hshift := (ih hnil).shift (.of_tag htokens)
          rwa [List.append_nil, hr] at hshift
        | cons e es =>
          refine .inl ⟨[], tag, rest, hhere, Nat.succ_pos _, ?_⟩
          rw [hr]
          simp
  | case3 cs hf ih =>
    have htokens := tokens_of_tagAt_none hf
    cases before with
    | nil =>
      cases ht
      exact .inr (.inr ⟨.here htokens, hf⟩)
    | cons d ds =>
      obtain ⟨rfl, hcs⟩ := List.cons.inj ht
      exact (ih hcs).shift (.of_char htokens)
  | case4 c cs hc ih =>
    have htokens : g.tokens (c :: cs) = _ := tokens_cons_of_ne hc
    cases before with
    | nil =>
      cases ht
      exact absurd rfl hc
    | cons d ds =>
      obtain ⟨rfl, hcs⟩ := List.cons.inj ht
      exact (ih hcs).shift (.of_char htokens)

def Grammar.Quiet (g : Grammar) : List Token → Prop
  | [] => True
  | .tag _ :: ts => g.Quiet ts
  | .text gap :: ts =>
    (∀ u v, gap = u ++ '<' :: v → g.tagAt (v ++ ts.flatMap Token.source) = none) ∧ g.Quiet ts

theorem Grammar.Quiet.consChar (h : g.Quiet ts)
    (hc : c = '<' → g.tagAt (ts.flatMap Token.source) = none) : g.Quiet (Token.consChar c ts) := by
  unfold Token.consChar
  split
  case h_1 gap ts =>
    refine ⟨?_, h.2⟩
    intro u v he
    cases u with
    | nil =>
      obtain ⟨rfl, rfl⟩ := List.cons.inj he
      exact hc rfl
    | cons d ds => exact h.1 ds v (List.cons.inj he).2
  case h_2 =>
    refine ⟨?_, h⟩
    intro u v he
    cases u with
    | nil =>
      cases he
      exact hc rfl
    | cons d ds =>
      have hnil : [] = ds ++ '<' :: v := (List.cons.inj he).2
      simp at hnil

theorem Grammar.quiet_tokens (g : Grammar) (t : Text) : g.Quiet (g.tokens t) := by
  fun_induction Grammar.tokens g t with
  | case1 => trivial
  | case2 cs tag rest hf _ ih => exact ih
  | case3 cs hf ih => exact ih.consChar fun _ => by rw [source_tokens, hf]
  | case4 c cs hc ih => exact ih.consChar fun he => absurd he hc

theorem Grammar.Quiet.tagAt_of_gap (h : g.Quiet (ts ++ .text gap :: us))
    (hg : gap = before ++ '<' :: cs) : g.tagAt (cs ++ us.flatMap Token.source) = none := by
  induction ts with
  | nil => exact h.1 before cs hg
  | cons first ts ih =>
    cases first with
    | text other => exact ih h.2
    | tag it => exact ih h

theorem Grammar.InGap.tagAt (h : g.InGap t before) (ht : t = before ++ '<' :: after) :
    g.tagAt after = none := by
  obtain ⟨ts, us, gap, done, left, he, rfl, hl, rfl⟩ := h
  have hquiet := quiet_tokens g t
  have hsource := source_tokens g t
  rw [he] at hquiet hsource
  have hleft : left ++ us.flatMap Token.source = '<' :: after := by
    rw [ht, List.flatMap_append, List.flatMap_cons, Token.source] at hsource
    simpa only [List.append_assoc, List.append_cancel_left_eq] using hsource
  cases left with
  | nil => exact absurd rfl hl
  | cons c cs =>
    obtain ⟨rfl, rfl⟩ := List.cons.inj hleft
    exact hquiet.tagAt_of_gap rfl

def Grammar.Recognizes (g : Grammar) (t : Text) : Prop :=
  ∃ h ∈ g.pattern.hits t, h.rest = []

theorem Grammar.Reads.recognizes (h : g.Reads cs tag []) : g.Recognizes ('<' :: cs) := by
  have hfirst := first?_pattern g cs
  rw [h.tagAt] at hfirst
  obtain ⟨hit, hm, he⟩ := Option.map_eq_some_iff.1 hfirst
  exact ⟨hit, List.mem_of_head? hm, (Prod.mk.inj he).2⟩

theorem Grammar.tagAt_ne_none_of_hits (h : g.pattern.hits t ≠ []) (u : Text) :
    ∃ cs, t = '<' :: cs ∧ g.tagAt (cs ++ u) ≠ none := by
  obtain ⟨hit, hm⟩ := List.exists_mem_of_ne_nil _ h
  cases t with
  | nil =>
    rw [hits_pattern_nil] at hm
    cases hm
  | cons c cs =>
    have hc : c = '<' := by
      by_contra hne
      rw [hits_pattern_of_ne hne] at hm
      cases hm
    subst c
    refine ⟨cs, rfl, ?_⟩
    have hmore := Pattern.extend_mem_hits hm u
    rw [← first?_pattern, Ne, Option.map_eq_none_iff, Pattern.first?, List.head?_eq_none_iff]
    exact List.ne_nil_of_mem hmore

theorem Grammar.tokens_of_forall_tagAt (hne : t ≠ [])
    (h : ∀ u v, t = u ++ '<' :: v → g.tagAt v = none) : g.tokens t = [.text t] := by
  induction t with
  | nil => exact absurd rfl hne
  | cons c cs ih =>
    have hstep : g.tokens (c :: cs) = Token.consChar c (g.tokens cs) := by
      by_cases hc : c = '<'
      · subst c
        exact tokens_of_tagAt_none (h [] cs rfl)
      · exact tokens_cons_of_ne hc
    rw [hstep]
    cases cs with
    | nil =>
      rw [tokens_nil]
      rfl
    | cons d ds =>
      rw [ih (List.cons_ne_nil d ds) fun u v he => h (c :: u) v (by rw [he]; rfl)]
      rfl

/-- Tokens that follow the grammar to the letter. They are what a search for its pattern gives. A
`<` outside earlier tags starts a tag exactly if the grammar reads one there, any other is part of a
gap, and a gap by itself is text throughout: no part of it is a tag. -/
structure Grammar.Exact (g : Grammar) (t : Text) : Prop where
  searched : g.tokens t = g.searched t
  starts : ∀ before after, t = before ++ '<' :: after → ¬g.InsideTag t before →
    ∀ tag rest, g.HasTag t before tag rest ↔ g.Reads after tag rest
  others : ∀ before after, t = before ++ '<' :: after → ¬g.InsideTag t before →
    (g.InGap t before ↔ ∀ tag rest, ¬g.Reads after tag rest)
  gaps : ∀ gap, .text gap ∈ g.tokens t → g.tokens gap = [.text gap] ∧
    ∀ u part v, gap = u ++ part ++ v →
      ¬g.Recognizes part ∧ ∀ after tag, part = '<' :: after → ¬g.Reads after tag []

theorem Grammar.hasTag_iff (ht : t = before ++ '<' :: after) (hin : ¬g.InsideTag t before) :
    g.HasTag t before tag rest ↔ g.Reads after tag rest := by
  rw [← tagAt_eq_some_iff]
  constructor
  · intro h
    obtain ⟨after', ht', hf⟩ := h.tagAt
    have hafter := List.append_cancel_left (ht.symm.trans ht')
    obtain rfl : after = after' := (List.cons.inj hafter).2
    exact hf
  · intro hf
    rcases placed ht with hinside | ⟨tag', rest', hh, hf'⟩ | ⟨_, hnone⟩
    · exact absurd hinside hin
    · rw [hf] at hf'
      cases hf'
      exact hh
    · rw [hf] at hnone
      cases hnone

theorem Grammar.inGap_iff (ht : t = before ++ '<' :: after) (hin : ¬g.InsideTag t before) :
    g.InGap t before ↔ ∀ tag rest, ¬g.Reads after tag rest := by
  constructor
  · intro h tag rest hr
    have hnone := h.tagAt ht
    rw [hr.tagAt] at hnone
    cases hnone
  · intro h
    rcases placed ht with hinside | ⟨tag, rest, _, hf⟩ | ⟨hgap, _⟩
    · exact absurd hinside hin
    · exact absurd (tagAt_eq_some_iff.1 hf) (h tag rest)
    · exact hgap

theorem Grammar.not_recognizes_of_gap (hm : .text gap ∈ g.tokens t) (hg : gap = u ++ cs ++ rest) :
    ¬g.Recognizes cs := by
  rintro ⟨h, hh, -⟩
  obtain ⟨ts, us, he⟩ := List.append_of_mem hm
  have hquiet := quiet_tokens g t
  rw [he] at hquiet
  obtain ⟨v, rfl, hv⟩ :=
    tagAt_ne_none_of_hits (List.ne_nil_of_mem hh) (rest ++ us.flatMap Token.source)
  refine hv ?_
  rw [← List.append_assoc]
  exact hquiet.tagAt_of_gap (hg.trans (List.append_assoc _ _ _))

theorem Grammar.tokens_gap (hm : .text gap ∈ g.tokens t) : g.tokens gap = [.text gap] := by
  refine tokens_of_forall_tagAt ((separated_tokens g t).gap_ne_nil hm) ?_
  intro u v hg
  by_contra hf
  have hhits : g.pattern.hits ('<' :: v) ≠ [] := by
    intro hnil
    refine hf ?_
    rw [← first?_pattern, Pattern.first?, hnil]
    rfl
  obtain ⟨ts, us, he⟩ := List.append_of_mem hm
  have hquiet := quiet_tokens g t
  rw [he] at hquiet
  obtain ⟨w, hw, hfound⟩ := tagAt_ne_none_of_hits hhits (us.flatMap Token.source)
  cases hw
  exact hfound (hquiet.tagAt_of_gap hg)

/-- Every text is read by its grammar to the letter. -/
theorem Grammar.tokens_exact (g : Grammar) (t : Text) : g.Exact t where
  searched := tokens_eq_searched g t
  starts _ _ ht hin _ _ := hasTag_iff ht hin
  others _ _ ht hin := inGap_iff ht hin
  gaps gap hm := by
    refine ⟨tokens_gap hm, ?_⟩
    intro u part v hg
    have hnot := not_recognizes_of_gap hm hg
    refine ⟨hnot, ?_⟩
    rintro after tag rfl hread
    exact hnot hread.recognizes

/-- A comment may hold an open quote, but only on one line. -/
theorem Grammar.tokens_exact_comment :
    Grammar.document.tokens "<!--'-->".toList = [.tag ⟨"<!--'-->".toList, none, false, []⟩] ∧
      Grammar.document.tokens "<!--\n'-->".toList = [.text "<!--\n'-->".toList] ∧
      ¬Grammar.document.Recognizes "<!--\n'-->".toList := by
  have hgap : Grammar.document.tokens "<!--\n'-->".toList = [.text "<!--\n'-->".toList] := by
    decide +kernel
  refine ⟨by decide +kernel, hgap, ?_⟩
  have hm : Token.text "<!--\n'-->".toList ∈ Grammar.document.tokens "<!--\n'-->".toList := by
    rw [hgap]
    exact List.mem_singleton_self _
  have hgaps := (tokens_exact .document "<!--\n'-->".toList).gaps _ hm
  exact (hgaps.2 [] _ [] (List.append_nil _).symm).1

end SafeOutput.Markup
