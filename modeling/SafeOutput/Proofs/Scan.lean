import Mathlib
import SafeOutput.Markup.Balance
import SafeOutput.Markup.Token
import SafeOutput.Policy.TagRule
import SafeOutput.Proofs.Text

namespace SafeOutput.Markup

open Text Policy

variable {c : Char} {name cs rest gap : Text} {g : Grammar} {tag : Tag} {ts : List Token}

def isNameChar (c : Char) : Bool :=
  c.isLower || c.isDigit || c == ':' || c == '-'

theorem isTagName_cons (c : Char) (cs : Text) :
    isTagName (c :: cs) = (c.isLower && cs.all isNameChar) := rfl

theorem isNameChar_of_isLower (h : c.isLower) : isNameChar c := by
  simp only [isNameChar, h, Bool.true_or]

theorem isNameChar_of_mem (h : isTagName name) (hc : c ∈ name) : isNameChar c := by
  cases name with
  | nil => cases hc
  | cons d ds =>
    rw [isTagName_cons, Bool.and_eq_true] at h
    rcases List.mem_cons.1 hc with rfl | hd
    · exact isNameChar_of_isLower h.1
    · exact List.all_eq_true.1 h.2 c hd

theorem not_mem_of_isTagName (h : isTagName name) (hc : isNameChar c = false) : c ∉ name := by
  intro hm
  rw [isNameChar_of_mem h hm] at hc
  cases hc

theorem ascii_of_continuesName (h : Grammar.markup.continuesName c) : c.toNat < 128 := by
  simp only [Grammar.continuesName, Bool.or_eq_true, beq_iff_eq] at h
  rcases h with (h | rfl) | rfl
  · exact ascii_of_isAlphanum h
  · decide
  · decide

theorem continuesName_of_isNameChar (h : isNameChar c) : Grammar.markup.continuesName c := by
  simp only [isNameChar, Bool.or_eq_true] at h
  simp only [Grammar.continuesName, Char.isAlphanum, Char.isAlpha, Bool.or_eq_true]
  tauto

theorem toLower_of_isNameChar (h : isNameChar c) : c.toLower = c := by
  apply Char.toLower_eq_of_not_isUpper
  simp only [isNameChar, Bool.or_eq_true, beq_iff_eq, isLower_iff, isDigit_iff] at h
  rw [isUpper_iff]
  rcases h with ((h | h) | rfl) | rfl
  · omega
  · omega
  · decide
  · decide

theorem isNameChar_toLower (h : Grammar.markup.continuesName c) : isNameChar c.toLower := by
  simp only [Grammar.continuesName, Char.isAlphanum, Bool.or_eq_true, beq_iff_eq] at h
  rcases h with ((h | h) | rfl) | rfl
  · exact isNameChar_of_isLower (by rw [Char.isLower_toLower_eq_isAlpha, h])
  · have hn : isNameChar c := by simp only [isNameChar, h, Bool.or_true, Bool.true_or]
    rwa [toLower_of_isNameChar hn]
  · decide
  · decide

theorem lowercase_of_isTagName (h : isTagName name) : lowercase name = name := by
  have hn (c : Char) (hc : c ∈ name) := isNameChar_of_mem h hc
  rw [lowercase_of_ascii fun c hc => ascii_of_continuesName (continuesName_of_isNameChar (hn c hc))]
  exact (List.map_congr_left fun c hc => toLower_of_isNameChar (hn c hc)).trans name.map_id

theorem isTagName_lowercase (hc : Grammar.markup.startsName c)
    (hcs : ∀ d ∈ cs, Grammar.markup.continuesName d) : isTagName (lowercase (c :: cs)) := by
  have hd : Grammar.markup.continuesName c := by
    simp only [Grammar.continuesName, Char.isAlphanum, Bool.or_eq_true]
    exact .inl (.inl (.inl hc))
  rw [lowercase_of_ascii, List.map_cons, isTagName_cons, Bool.and_eq_true,
    Char.isLower_toLower_eq_isAlpha, List.all_map, List.all_eq_true]
  · exact ⟨hc, fun d hm => isNameChar_toLower (hcs d hm)⟩
  · rw [List.forall_mem_cons]
    exact ⟨ascii_of_continuesName hd, fun d hm => ascii_of_continuesName (hcs d hm)⟩

theorem Grammar.elementAt_name {closing : Bool}
    (h : Grammar.markup.elementAt closing cs = some (tag, rest)) :
    ∃ name, tag.name = some name ∧ isTagName name := by
  unfold elementAt at h
  split at h
  · cases h
  case h_2 c cs =>
    split at h
    case isTrue hc =>
      obtain ⟨⟨b, r⟩, -, he⟩ := Option.map_eq_some_iff.1 h
      cases he
      exact ⟨_, rfl, isTagName_lowercase hc fun d hd => List.mem_takeWhile_imp hd⟩
    case isFalse => cases h

theorem Grammar.tagAt_name (h : Grammar.markup.tagAt cs = some (tag, rest))
    (hn : tag.name = some name) : isTagName name := by
  have element {closing : Bool} {cs : Text}
      (h : Grammar.markup.elementAt closing cs = some (tag, rest)) : isTagName name := by
    obtain ⟨n, he, ht⟩ := elementAt_name h
    rw [hn, Option.some.injEq] at he
    rwa [he]
  unfold tagAt at h
  split at h
  · rw [show Grammar.markup.commentAt _ = none from rfl] at h
    obtain ⟨⟨b, r⟩, -, he⟩ := Option.map_eq_some_iff.1 h
    cases he
    cases hn
  · exact element h
  · exact element h

theorem Grammar.tagAt_cons_of_ne (hb : c ≠ '!') (hs : c ≠ '/') :
    g.tagAt (c :: cs) = g.elementAt false (c :: cs) := by
  rw [tagAt]
  · rintro us ⟨⟩
    exact hb rfl
  · rintro us ⟨⟩
    exact hs rfl

@[simp] theorem Grammar.tokens_nil (g : Grammar) : g.tokens [] = [] := by
  rw [tokens]

theorem Grammar.tokens_cons_of_ne (hc : c ≠ '<') :
    g.tokens (c :: cs) = Token.consChar c (g.tokens cs) := by
  rw [tokens, if_neg hc]

theorem Grammar.tokens_of_tagAt (h : g.tagAt cs = some (tag, rest)) :
    g.tokens ('<' :: cs) = .tag tag :: g.tokens rest := by
  rw [tokens, if_pos rfl]
  split
  case h_1 he =>
    rw [h] at he
    cases he
    rfl
  case h_2 he =>
    rw [h] at he
    cases he

theorem Grammar.tokens_of_tagAt_none (h : g.tagAt cs = none) :
    g.tokens ('<' :: cs) = Token.consChar '<' (g.tokens cs) := by
  rw [tokens, if_pos rfl]
  split
  case h_1 he =>
    rw [h] at he
    cases he
  case h_2 => rfl

/-- Text without `<` is a gap, or becomes part of the gap behind it. -/
theorem Grammar.tokens_append_of_gap (h : '<' ∉ gap) :
    g.tokens (gap ++ cs) = gap.foldr Token.consChar (g.tokens cs) := by
  induction gap with
  | nil => rfl
  | cons c gap ih =>
    rw [List.mem_cons, not_or] at h
    rw [List.cons_append, tokens_cons_of_ne (Ne.symm h.1), ih h.2, List.foldr_cons]

/-- A gap as tokens; an empty one is none. -/
def gapTokens : Text → List Token
  | [] => []
  | c :: cs => [.text (c :: cs)]

theorem consChar_gapTokens (c : Char) (gap : Text) (h : ∀ other us, ts ≠ .text other :: us) :
    Token.consChar c (gapTokens gap ++ ts) = gapTokens (c :: gap) ++ ts := by
  cases gap with
  | nil =>
    rw [gapTokens, List.nil_append]
    unfold Token.consChar
    split
    case h_1 => exact absurd rfl (h _ _)
    case h_2 => rfl
  | cons d ds => rfl

theorem foldr_consChar (gap : Text) (h : ∀ other us, ts ≠ .text other :: us) :
    gap.foldr Token.consChar ts = gapTokens gap ++ ts := by
  induction gap with
  | nil => rfl
  | cons c gap ih => rw [List.foldr_cons, ih, consChar_gapTokens c gap h]

theorem Grammar.tokens_of_gap (g : Grammar) (h : '<' ∉ gap) : g.tokens gap = gapTokens gap := by
  have happend : g.tokens (gap ++ []) = _ := tokens_append_of_gap h
  rwa [List.append_nil, tokens_nil, foldr_consChar gap (by simp), List.append_nil] at happend

@[simp] theorem mem_consChar : .tag tag ∈ Token.consChar c ts ↔ .tag tag ∈ ts := by
  unfold Token.consChar
  split
  · simp only [List.mem_cons, reduceCtorEq, false_or]
  · simp only [List.mem_cons, reduceCtorEq, false_or]

theorem Grammar.exists_tagAt_of_mem_tokens (h : .tag tag ∈ g.tokens cs) :
    ∃ us rest, g.tagAt us = some (tag, rest) := by
  fun_induction Grammar.tokens g cs with
  | case1 => cases h
  | case2 cs found rest hf _ ih =>
    rcases List.mem_cons.1 h with he | hm
    · cases he
      exact ⟨cs, rest, hf⟩
    · exact ih hm
  | case3 cs hf ih => exact ih (mem_consChar.1 h)
  | case4 c cs hc ih => exact ih (mem_consChar.1 h)

theorem Grammar.isTagName_of_mem_tokens (h : .tag tag ∈ Grammar.markup.tokens cs)
    (hn : tag.name = some name) : isTagName name := by
  obtain ⟨us, rest, hf⟩ := exists_tagAt_of_mem_tokens h
  exact tagAt_name hf hn

def BareTag.toTag (t : BareTag) : Tag :=
  ⟨t.render, some t.name, t.closing, []⟩

theorem Grammar.startsName_of_isLower (g : Grammar) (h : c.isLower) : g.startsName c := by
  cases g with
  | markup => exact isAlpha_iff.2 (.inr h)
  | document =>
    have hs : c ≠ '\u017f' := by
      rintro rfl
      cases h
    have hk : c ≠ '\u212a' := by
      rintro rfl
      cases h
    rw [startsName, isFoldedLetter, foldChar, if_neg (by simpa using hs),
      if_neg (by simpa using hk), toLower_of_isNameChar (isNameChar_of_isLower h)]
    exact h

theorem Grammar.continuesName_of_markup (g : Grammar) (h : Grammar.markup.continuesName c) :
    g.continuesName c := by
  cases g with
  | markup => exact h
  | document =>
    have hascii := ascii_of_continuesName h
    simp only [continuesName, isWord, if_pos hascii, Bool.or_eq_true] at h ⊢
    tauto

theorem Grammar.elementAt_bare (g : Grammar) (closing : Bool) (h : isTagName name) :
    g.elementAt closing (name ++ '>' :: cs) = some (BareTag.toTag ⟨name, closing⟩, cs) := by
  cases name with
  | nil => cases h
  | cons c ds =>
    have hl := lowercase_of_isTagName h
    rw [isTagName_cons, Bool.and_eq_true] at h
    have hs : g.startsName c = true := g.startsName_of_isLower h.1
    have hd (d : Char) (hm : d ∈ ds) : g.continuesName d = true :=
      g.continuesName_of_markup (continuesName_of_isNameChar (List.all_eq_true.1 h.2 d hm))
    have hgt : ¬g.continuesName '>' = true := by cases g <;> decide
    have htake : (ds ++ '>' :: cs).takeWhile g.continuesName = ds := by
      rw [List.takeWhile_append_of_pos hd, List.takeWhile_cons_of_neg hgt, List.append_nil]
    have hdrop : (ds ++ '>' :: cs).dropWhile g.continuesName = '>' :: cs := by
      rw [List.dropWhile_append_of_pos hd, List.dropWhile_cons_of_neg hgt]
    have hr : g.report [] = [] := by cases g <;> rfl
    simp only [elementAt, List.cons_append, hs, ↓reduceIte, htake, hdrop, splitTail,
      Option.map_some, hl, List.append_nil, hr, BareTag.toTag, BareTag.render]

theorem Grammar.tokens_render (g : Grammar) {t : BareTag} (h : isTagName t.name) :
    g.tokens (t.render ++ cs) = .tag t.toTag :: g.tokens cs := by
  obtain ⟨name, closing⟩ := t
  have hr : (BareTag.mk name closing).render ++ cs =
      '<' :: ((if closing then ['/'] else []) ++ (name ++ '>' :: cs)) := by
    cases closing <;> simp [BareTag.render]
  rw [hr]
  apply tokens_of_tagAt
  cases closing with
  | true => exact g.elementAt_bare true h
  | false =>
    rw [if_neg Bool.false_ne_true, List.nil_append, ← g.elementAt_bare false h]
    cases name with
    | nil => cases h
    | cons c ds =>
      have hn := isNameChar_of_mem h List.mem_cons_self
      apply tagAt_cons_of_ne
      · rintro rfl
        exact absurd hn (by decide)
      · rintro rfl
        exact absurd hn (by decide)

end SafeOutput.Markup
