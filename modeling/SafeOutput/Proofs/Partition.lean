import Mathlib
import SafeOutput.Proofs.Scan

namespace SafeOutput.Markup

open Text

variable {c : Char} {n : Nat} {t cs rest name : Text} {g : Grammar} {tag : Tag} {token : Token}
  {place : Span} {ts : List Token} {before after : List (Token × Span)}

def Token.isGap : Token → Bool
  | .text _ => true
  | .tag _ => false

def covered (placed : List (Token × Span)) : Text :=
  placed.flatMap fun p => p.1.source

theorem covered_cons (p : Token × Span) (placed : List (Token × Span)) :
    covered (p :: placed) = p.1.source ++ covered placed := rfl

theorem covered_append (before after : List (Token × Span)) :
    covered (before ++ after) = covered before ++ covered after :=
  List.flatMap_append

def tagPlace? (p : Token × Span) : Option (Tag × Span) :=
  match p.1 with
  | .text _ => none
  | .tag it => some (it, p.2)

/-- The tags that a search from left to right finds, each of them behind the one before, and the
bytes where they start and stop if `start` bytes come before the text. -/
def Grammar.search (g : Grammar) (start : Nat) : Text → List (Tag × Span)
  | [] => []
  | c :: cs =>
    if c = '<' then
      match h : g.tagAt cs with
      | some (tag, rest) =>
        have := tagAt_length h
        let stop := start + byteSize tag.raw
        (tag, ⟨start, stop⟩) :: g.search stop rest
      | none => g.search (start + c.utf8Size) cs
    else g.search (start + c.utf8Size) cs
termination_by cs => cs.length

def Grammar.IsName (g : Grammar) (name : Text) : Prop :=
  ∃ c cs, name = c :: cs ∧ g.startsName c = true ∧ ∀ d ∈ cs, g.continuesName d = true

/-- A tag is written as the delimiters around a slash if it closes, the name in some case, taken as
long as it can be, and the attributes. -/
def Tag.Spelled (g : Grammar) (tag : Tag) (name : Text) : Prop :=
  ∃ written,
    tag.raw = '<' :: ((if tag.closing then ['/'] else []) ++ written ++ tag.attrs ++ ['>']) ∧
      g.IsName written ∧ name = lowercase written ∧
      ∀ c ∈ tag.attrs.head?, g.continuesName c = false

/-- Tokens with their places that make up a text. -/
structure Partition (g : Grammar) (t : Text) (placed : List (Token × Span)) : Prop where
  covers : covered placed = t
  gap_ne_nil : ∀ gap place, (Token.text gap, place) ∈ placed → gap ≠ []
  gaps_apart : placed.IsChain fun p q => ¬(p.1.isGap ∧ q.1.isGap)
  start_eq : ∀ before token place after, placed = before ++ (token, place) :: after →
    place.start = byteSize (covered before)
  slice : ∀ token place, (token, place) ∈ placed →
    place.stop = place.start + byteSize token.source ∧
      t.utf8Encode.extract place.start place.stop = token.source.utf8Encode
  found : placed.filterMap tagPlace? = g.search 0 t
  tag_place : ∀ tag place, (Token.tag tag, place) ∈ placed → place.start < place.stop
  tag_raw : ∀ tag place, (Token.tag tag, place) ∈ placed → ∃ inner, tag.raw = '<' :: inner ++ ['>']
  tag_named : g = .document → ∀ tag place name, (Token.tag tag, place) ∈ placed →
    tag.name = some name → tag.Spelled g name

theorem source_consChar (c : Char) (ts : List Token) :
    (Token.consChar c ts).flatMap Token.source = c :: ts.flatMap Token.source := by
  unfold Token.consChar
  split <;> rfl

theorem Grammar.source_tokens (g : Grammar) (t : Text) : (g.tokens t).flatMap Token.source = t := by
  fun_induction Grammar.tokens g t with
  | case1 => rfl
  | case2 cs tag rest h _ ih =>
    rw [List.flatMap_cons, ih, Token.source]
    exact (tagAt_raw h).symm
  | case3 cs h ih => rw [source_consChar, ih]
  | case4 c cs hc ih => rw [source_consChar, ih]

/-- No gap is empty or has a gap behind it. -/
def Separated : List Token → Prop
  | [] => True
  | .tag _ :: ts => Separated ts
  | .text gap :: ts => gap ≠ [] ∧ (∀ next ∈ ts.head?, next.isGap = false) ∧ Separated ts

theorem Separated.consChar (h : Separated ts) (c : Char) : Separated (Token.consChar c ts) := by
  unfold Token.consChar
  split
  case h_1 gap ts => exact ⟨List.cons_ne_nil c gap, h.2⟩
  case h_2 hne =>
    refine ⟨List.cons_ne_nil c [], ?_, h⟩
    intro next hm
    obtain ⟨more, rfl⟩ := List.head?_eq_some_iff.1 hm
    cases next with
    | text gap => exact absurd rfl (hne gap more)
    | tag it => rfl

theorem Separated.gap_ne_nil {gap : Text} (h : Separated ts) (hm : .text gap ∈ ts) : gap ≠ [] := by
  induction ts with
  | nil => cases hm
  | cons token ts ih =>
    rcases List.mem_cons.1 hm with rfl | hrest
    · exact h.1
    · cases token with
      | text other => exact ih h.2.2 hrest
      | tag it => exact ih h hrest

theorem Separated.apart (h : Separated ts) : ts.IsChain fun a b => ¬(a.isGap ∧ b.isGap) := by
  induction ts with
  | nil => exact .nil
  | cons token ts ih =>
    rw [List.isChain_cons]
    cases token with
    | text gap =>
      refine ⟨?_, ih h.2.2⟩
      rintro next hm ⟨-, hg⟩
      rw [h.2.1 next hm] at hg
      cases hg
    | tag it =>
      refine ⟨?_, ih h⟩
      rintro next - ⟨hg, -⟩
      cases hg

theorem Grammar.separated_tokens (g : Grammar) (t : Text) : Separated (g.tokens t) := by
  fun_induction Grammar.tokens g t with
  | case1 => trivial
  | case2 cs tag rest h _ ih => exact ih
  | case3 cs h ih => exact ih.consChar _
  | case4 c cs hc ih => exact ih.consChar c

theorem Grammar.elementAt_spelled {closing : Bool}
    (h : Grammar.document.elementAt closing cs = some (tag, rest)) (hn : tag.name = some name) :
    tag.Spelled .document name := by
  unfold elementAt at h
  split at h
  · cases h
  case h_2 c cs =>
    split at h
    case isTrue hc =>
      obtain ⟨⟨attrs, r⟩, ht, he⟩ := Option.map_eq_some_iff.1 h
      cases he
      cases hn
      refine ⟨c :: cs.takeWhile Grammar.document.continuesName, ?_, ?_, rfl, ?_⟩
      · cases closing <;> simp [Grammar.report]
      · exact ⟨c, _, rfl, hc, fun d hd => List.mem_takeWhile_imp hd⟩
      · intro d hd
        -- The attributes start where the name could not go on.
        obtain ⟨more, hm⟩ := List.head?_eq_some_iff.1 hd
        have hdrop := splitTail_eq_some ht
        have hstop := List.head?_dropWhile_not Grammar.document.continuesName cs
        rw [hdrop, show attrs = d :: more from hm] at hstop
        exact hstop
    case isFalse => cases h

theorem Grammar.commentAt_name (h : g.commentAt cs = some (tag, rest)) : tag.name = none := by
  unfold commentAt at h
  split at h
  · obtain ⟨found, -, he⟩ := Option.map_eq_some_iff.1 h
    cases he
    rfl
  · cases h

theorem Grammar.declarationAt_name (h : g.declarationAt cs = some (tag, rest)) :
    tag.name = none := by
  obtain ⟨found, -, he⟩ := Option.map_eq_some_iff.1 h
  cases he
  rfl

theorem Grammar.tagAt_spelled (h : Grammar.document.tagAt cs = some (tag, rest))
    (hn : tag.name = some name) : tag.Spelled .document name := by
  unfold tagAt at h
  split at h
  · split at h
    case h_1 hc =>
      rw [h] at hc
      rw [commentAt_name hc] at hn
      cases hn
    case h_2 =>
      rw [declarationAt_name h] at hn
      cases hn
  · exact elementAt_spelled h hn
  · exact elementAt_spelled h hn

theorem map_fst_spansFrom (n : Nat) (ts : List Token) : (spansFrom n ts).map Prod.fst = ts := by
  induction ts generalizing n with
  | nil => rfl
  | cons t ts ih => exact congrArg (t :: ·) (ih _)

theorem covered_spansFrom (n : Nat) (ts : List Token) :
    covered (spansFrom n ts) = ts.flatMap Token.source := by
  rw [covered, ← List.flatMap_map Prod.fst Token.source, map_fst_spansFrom]

theorem mem_of_mem_spansFrom (h : (token, place) ∈ spansFrom n ts) : token ∈ ts := by
  rw [← map_fst_spansFrom n ts]
  exact List.mem_map_of_mem h

theorem place_of_spansFrom (h : spansFrom n ts = before ++ (token, place) :: after) :
    place.start = n + byteSize (covered before) ∧
      place.stop = place.start + byteSize token.source := by
  induction before generalizing n ts with
  | nil =>
    cases ts with
    | nil => cases h
    | cons t ts =>
      cases h
      exact ⟨rfl, rfl⟩
  | cons p before ih =>
    cases ts with
    | nil => cases h
    | cons t ts =>
      obtain ⟨hp, hrest⟩ := List.cons.inj h
      obtain ⟨hstart, hstop⟩ := ih hrest
      refine ⟨?_, hstop⟩
      rw [hstart, ← hp, covered_cons, byteSize_append, Nat.add_assoc]

theorem filterMap_spansFrom_consChar (n : Nat) (c : Char) (ts : List Token) :
    (spansFrom n (Token.consChar c ts)).filterMap tagPlace? =
      (spansFrom (n + c.utf8Size) ts).filterMap tagPlace? := by
  unfold Token.consChar
  split
  case h_1 gap ts =>
    have hsize : n + byteSize (c :: gap) = n + c.utf8Size + byteSize gap := by
      rw [byteSize_cons, Nat.add_assoc]
    simp only [spansFrom, Token.source, hsize]
    rfl
  case h_2 => rfl

/-- The tags stand where a search finds them. -/
theorem filterMap_spansFrom_tokens (g : Grammar) (n : Nat) (t : Text) :
    (spansFrom n (g.tokens t)).filterMap tagPlace? = g.search n t := by
  fun_induction Grammar.search g n t with
  | case1 n =>
    rw [Grammar.tokens_nil]
    rfl
  | case2 n cs tag rest h _ _ ih =>
    rw [Grammar.tokens_of_tagAt h]
    exact congrArg ((tag, _) :: ·) ih
  | case3 n cs h ih => rw [Grammar.tokens_of_tagAt_none h, filterMap_spansFrom_consChar, ih]
  | case4 n c cs hc ih => rw [Grammar.tokens_cons_of_ne hc, filterMap_spansFrom_consChar, ih]

theorem covered_spans (g : Grammar) (t : Text) : covered (spans (g.tokens t)) = t := by
  rw [spans, covered_spansFrom, g.source_tokens]

theorem place_of_spans (h : spans ts = before ++ (token, place) :: after) :
    place.start = byteSize (covered before) ∧
      place.stop = place.start + byteSize token.source := by
  have hp := place_of_spansFrom h
  rwa [Nat.zero_add] at hp

theorem slice_of_mem_spans (h : (token, place) ∈ spans (g.tokens t)) :
    place.stop = place.start + byteSize token.source ∧
      t.utf8Encode.extract place.start place.stop = token.source.utf8Encode := by
  obtain ⟨before, after, hs⟩ := List.append_of_mem h
  obtain ⟨hstart, hstop⟩ := place_of_spans hs
  refine ⟨hstop, ?_⟩
  have ht : t = covered before ++ token.source ++ covered after := by
    rw [← covered_spans g t, hs, covered_append, covered_cons, List.append_assoc]
  rw [hstop, hstart, ht]
  exact extract_utf8Encode _ _ _

theorem exists_tagAt_of_mem_spans (h : (Token.tag tag, place) ∈ spans (g.tokens t)) :
    ∃ us rest, g.tagAt us = some (tag, rest) :=
  Grammar.exists_tagAt_of_mem_tokens (mem_of_mem_spansFrom h)

theorem start_lt_stop (h : (Token.tag tag, place) ∈ spans (g.tokens t)) :
    place.start < place.stop := by
  obtain ⟨us, rest, hu⟩ := exists_tagAt_of_mem_spans h
  obtain ⟨inner, hi⟩ := Grammar.tagAt_shape hu
  have hraw : tag.raw ≠ [] := by
    rw [hi]
    exact List.cons_ne_nil _ _
  rw [(slice_of_mem_spans h).1]
  exact Nat.lt_add_of_pos_right (byteSize_pos hraw)

/-- Tokens and their places make up the text: nothing is lost or repeated, gaps are not empty and
are kept apart by tags, and each token is what stands in the bytes of its place. -/
theorem spans_tokens_partition (g : Grammar) (t : Text) : Partition g t (spans (g.tokens t)) where
  covers := covered_spans g t
  gap_ne_nil _ _ h := (g.separated_tokens t).gap_ne_nil (mem_of_mem_spansFrom h)
  gaps_apart := by
    have hapart := (g.separated_tokens t).apart
    rw [← map_fst_spansFrom 0 (g.tokens t), List.isChain_map] at hapart
    exact hapart
  start_eq _ _ _ _ h := (place_of_spans h).1
  slice _ _ h := slice_of_mem_spans h
  found := filterMap_spansFrom_tokens g 0 t
  tag_place _ _ h := start_lt_stop h
  tag_raw tag _ h := by
    obtain ⟨us, rest, hu⟩ := exists_tagAt_of_mem_spans h
    exact Grammar.tagAt_shape hu
  tag_named hg tag _ name h hn := by
    subst g
    obtain ⟨us, rest, hu⟩ := exists_tagAt_of_mem_spans h
    exact Grammar.tagAt_spelled hu hn

/-- Places count bytes: the umlaut before the tag takes two. -/
theorem spans_tokens_partition_umlaut :
    let t := "ä<B x>".toList
    let tag : Tag := ⟨"<B x>".toList, some "b".toList, false, " x".toList⟩
    (Token.tag tag, ⟨2, 7⟩) ∈ spans (Grammar.document.tokens t) ∧
      t.utf8Encode.extract 2 7 = "<B x>".toList.utf8Encode ∧
      tag.Spelled .document "b".toList := by
  intro t tag
  have hp := spans_tokens_partition .document t
  have hm : (Token.tag tag, Span.mk 2 7) ∈ spans (Grammar.document.tokens t) := by
    decide +kernel
  exact ⟨hm, (hp.slice _ _ hm).2, hp.tag_named rfl _ _ _ hm rfl⟩

end SafeOutput.Markup
