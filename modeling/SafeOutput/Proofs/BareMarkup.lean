import Mathlib
import SafeOutput.Proofs.Nesting
import SafeOutput.Proofs.Scan

namespace SafeOutput.Markup

open Text Policy

variable {c : Char} {t u before after : Text} {opened rest : List Text} {tag : BareTag}
  {named allowed : Text → Prop}

/-- Characters that delimit tags or attribute values, and the null character. -/
def isDelimiter (c : Char) : Bool :=
  c == '<' || c == '>' || c == '"' || c == '\'' || c == '\x00'

theorem isDelimiter_iff :
    isDelimiter c ↔ c = '<' ∨ c = '>' ∨ c = '"' ∨ c = '\'' ∨ c = '\x00' := by
  simp only [isDelimiter, Bool.or_eq_true, beq_iff_eq, or_assoc]

def bareTagAt : Text → BareTag
  | '/' :: cs => .closer (cs.takeWhile (· ≠ '>'))
  | cs => .opener (cs.takeWhile (· ≠ '>'))

/-- The tags of a text, each `<` taken for the start of one. -/
def bareTags : Text → List BareTag
  | [] => []
  | c :: cs => if c = '<' then bareTagAt cs :: bareTags cs else bareTags cs

structure BareTag.Allowed (named : Text → Prop) (tag : BareTag) : Prop where
  named : named tag.name
  spelled : isTagName tag.name

/-- Markup of bare tags only. Every `<` starts and every `>` ends an allowed tag, quotes and null
characters are missing, and the tags are well nested. -/
structure SafeMarkup (named : Text → Prop) (t : Text) : Prop where
  opens : ∀ before after, t = before ++ '<' :: after →
    ∃ tag rest, BareTag.Allowed named tag ∧ '<' :: after = tag.render ++ rest
  closes : ∀ before after, t = before ++ '>' :: after →
    ∃ tag rest, BareTag.Allowed named tag ∧ before ++ ['>'] = rest ++ tag.render
  unquoted : '"' ∉ t ∧ '\'' ∉ t ∧ '\x00' ∉ t
  nested : WellNested (bareTags t)

/-- Text that closes the open elements: plain characters, and bare tags that nest strictly. -/
inductive BareMarkup (named : Text → Prop) : List Text → Text → Prop where
  | nil : BareMarkup named [] []
  | char {c : Char} {opened : List Text} {t : Text} :
      isDelimiter c = false → BareMarkup named opened t → BareMarkup named opened (c :: t)
  | tag {tag : BareTag} {opened rest : List Text} {t : Text} :
      tag.Allowed named → nestStep opened tag = some rest → BareMarkup named rest t →
      BareMarkup named opened (tag.render ++ t)

theorem BareTag.Allowed.mono (h : tag.Allowed named) (hn : ∀ n, named n → allowed n) :
    tag.Allowed allowed :=
  ⟨hn _ h.named, h.spelled⟩

theorem BareMarkup.mono (h : BareMarkup named opened t) (hn : ∀ n, named n → allowed n) :
    BareMarkup allowed opened t := by
  induction h with
  | nil => exact .nil
  | char hc _ ih => exact .char hc ih
  | tag ha hs _ ih => exact .tag (ha.mono hn) hs ih

def BareTag.inner (tag : BareTag) : Text :=
  (if tag.closing then ['/'] else []) ++ tag.name

theorem BareTag.render_eq (tag : BareTag) : tag.render = '<' :: tag.inner ++ ['>'] := by
  cases hc : tag.closing with
  | false => simp [render, inner, hc]
  | true => simp [render, inner, hc]

theorem BareTag.Allowed.not_mem_inner (h : tag.Allowed named) (hc : isNameChar c = false)
    (hs : c ≠ '/') : c ∉ tag.inner := by
  rw [BareTag.inner, List.mem_append, not_or]
  refine ⟨?_, not_mem_of_isTagName h.spelled hc⟩
  split
  · rwa [List.mem_singleton]
  · exact List.not_mem_nil

theorem BareTag.Allowed.not_mem_render (h : tag.Allowed named) (hc : isNameChar c = false)
    (hs : c ≠ '<' ∧ c ≠ '>' ∧ c ≠ '/') : c ∉ tag.render := by
  rw [tag.render_eq, List.mem_append, List.mem_cons, List.mem_singleton, not_or, not_or]
  exact ⟨⟨hs.1, h.not_mem_inner hc hs.2.2⟩, hs.2.1⟩

theorem BareTag.Allowed.lt_not_mem (h : tag.Allowed named) : '<' ∉ tag.inner ++ ['>'] := by
  rw [List.mem_append, not_or]
  exact ⟨h.not_mem_inner (by decide) (by decide), by decide⟩

theorem BareMarkup.opens (h : BareMarkup named opened t) (ht : t = before ++ '<' :: after) :
    ∃ tag rest, BareTag.Allowed named tag ∧ '<' :: after = tag.render ++ rest := by
  induction h generalizing before with
  | nil => exact absurd ht.symm (List.append_ne_nil_of_right_ne_nil _ (List.cons_ne_nil _ _))
  | char hc _ ih =>
    cases before with
    | nil =>
      cases ht
      cases hc
    | cons d ds => exact ih (List.cons.inj ht).2
  | @tag tag _ _ u ha _ _ ih =>
    cases before with
    | nil => exact ⟨tag, u, ha, ht.symm⟩
    | cons d ds =>
      rw [tag.render_eq, List.cons_append, List.cons_append, List.cons_append,
        List.cons.injEq] at ht
      obtain ⟨mid, -, hu⟩ := append_eq_append_cons ht.2 ha.lt_not_mem
      exact ih hu

theorem BareMarkup.closes (h : BareMarkup named opened t) (ht : t = before ++ '>' :: after) :
    ∃ tag rest, BareTag.Allowed named tag ∧ before ++ ['>'] = rest ++ tag.render := by
  induction h generalizing before with
  | nil => exact absurd ht.symm (List.append_ne_nil_of_right_ne_nil _ (List.cons_ne_nil _ _))
  | @char c _ _ hc _ ih =>
    cases before with
    | nil =>
      cases ht
      cases hc
    | cons d ds =>
      obtain ⟨tag, rest, ha, he⟩ := ih (List.cons.inj ht).2
      exact ⟨tag, d :: rest, ha, congrArg (d :: ·) he⟩
  | @tag tag _ _ u ha _ _ ih =>
    rw [tag.render_eq, List.append_assoc] at ht
    have hgt : '>' ∉ '<' :: tag.inner := by
      rw [List.mem_cons, not_or]
      exact ⟨by decide, ha.not_mem_inner (by decide) (by decide)⟩
    obtain ⟨mid, rfl, hu⟩ := append_eq_append_cons ht hgt
    -- The `>` ends this tag, or it lies behind it.
    cases mid with
    | nil => exact ⟨tag, [], ha, by rw [tag.render_eq, List.append_nil, List.nil_append]⟩
    | cons d ds =>
      obtain ⟨hd, hds⟩ := List.cons.inj hu
      obtain ⟨last, rest, hl, he⟩ := ih hds
      refine ⟨last, tag.render ++ rest, hl, ?_⟩
      calc '<' :: tag.inner ++ d :: ds ++ ['>'] = tag.render ++ (ds ++ ['>']) := by
            simp [tag.render_eq, ← hd]
        _ = tag.render ++ rest ++ last.render := by rw [he, List.append_assoc]

theorem BareMarkup.not_mem (h : BareMarkup named opened t) (hc : isNameChar c = false)
    (hd : isDelimiter c) (hs : c ≠ '<' ∧ c ≠ '>' ∧ c ≠ '/') : c ∉ t := by
  induction h with
  | nil => exact List.not_mem_nil
  | @char d _ _ hp _ ih =>
    rw [List.mem_cons, not_or]
    refine ⟨?_, ih⟩
    rintro rfl
    rw [hd] at hp
    cases hp
  | tag ha _ _ ih =>
    rw [List.mem_append, not_or]
    exact ⟨ha.not_mem_render hc hs, ih⟩

theorem bareTags_append (h : '<' ∉ t) (u : Text) : bareTags (t ++ u) = bareTags u := by
  induction t with
  | nil => rfl
  | cons c cs ih =>
    rw [List.mem_cons, not_or] at h
    rw [List.cons_append, bareTags, if_neg (Ne.symm h.1), ih h.2]

theorem takeWhile_name (h : isTagName t) (u : Text) : (t ++ '>' :: u).takeWhile (· ≠ '>') = t := by
  have ht : ∀ c ∈ t, (decide (c ≠ '>')) = true := by
    intro c hc
    rw [decide_eq_true_iff]
    rintro rfl
    exact not_mem_of_isTagName h (by decide) hc
  rw [List.takeWhile_append_of_pos ht, List.takeWhile_cons_of_neg (by decide), List.append_nil]

theorem BareTag.Allowed.bareTagAt_inner (h : tag.Allowed named) (u : Text) :
    bareTagAt (tag.inner ++ '>' :: u) = tag := by
  obtain ⟨name, closing⟩ := tag
  have hn := takeWhile_name h.spelled u
  cases closing with
  | true => exact congrArg BareTag.closer hn
  | false =>
    cases name with
    | nil => cases h.spelled
    | cons d ds =>
      have hd := isNameChar_of_mem h.spelled List.mem_cons_self
      have hi : (BareTag.mk (d :: ds) false).inner = d :: ds := rfl
      rw [hi, List.cons_append, bareTagAt]
      · exact congrArg BareTag.opener hn
      · rintro us ⟨⟩
        exact absurd hd (by decide)

theorem BareTag.Allowed.bareTags_render (h : tag.Allowed named) (u : Text) :
    bareTags (tag.render ++ u) = tag :: bareTags u := by
  rw [tag.render_eq, List.cons_append, List.cons_append, bareTags, if_pos rfl,
    bareTags_append h.lt_not_mem, List.append_assoc, List.singleton_append, h.bareTagAt_inner]

theorem BareMarkup.nested (h : BareMarkup named opened t) : nest opened (bareTags t) = some [] := by
  induction h with
  | nil => rfl
  | @char c _ _ hc _ ih =>
    have hne : c ≠ '<' := by
      rintro rfl
      cases hc
    rwa [bareTags, if_neg hne]
  | tag ha hs _ ih => rwa [ha.bareTags_render, nest_cons, hs, Option.bind_some]

theorem BareMarkup.safe (h : BareMarkup named [] t) : SafeMarkup named t where
  opens _ _ ht := h.opens ht
  closes _ _ ht := h.closes ht
  unquoted := ⟨h.not_mem (by decide) (by decide) (by decide),
    h.not_mem (by decide) (by decide) (by decide), h.not_mem (by decide) (by decide) (by decide)⟩
  nested := h.nested

end SafeOutput.Markup
