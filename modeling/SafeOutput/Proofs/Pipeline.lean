import Mathlib
import SafeOutput.Directive
import SafeOutput.Policy.Basic
import SafeOutput.Proofs.Filtering
import SafeOutput.Proofs.Scheme

namespace SafeOutput

open Text Markup Escape

variable {c d : Char} {t u : Text} {named : Text → Prop} {opened : List Text}

theorem breakLines_cons_of_ne (hr : c ≠ '\r') (hn : c ≠ '\n') (cs : Text) :
    breakLines (c :: cs) = c :: breakLines cs := by
  rw [breakLines]
  · exact fun us he => absurd he hr
  · exact hr
  · exact hn

theorem breakLines_return (cs : Text) :
    breakLines ('\r' :: cs) = breakLines cs ∨
      breakLines ('\r' :: cs) = "<br>".toList ++ breakLines cs := by
  by_cases h : ∃ us, cs = '\n' :: us
  · obtain ⟨us, rfl⟩ := h
    exact .inl rfl
  · right
    rw [breakLines]
    exact fun us hu => h ⟨us, hu⟩

theorem breakLines_append (hr : '\r' ∉ t) (hn : '\n' ∉ t) (u : Text) :
    breakLines (t ++ u) = t ++ breakLines u := by
  induction t with
  | nil => rfl
  | cons c cs ih =>
    rw [List.mem_cons, not_or] at hr hn
    rw [List.cons_append, breakLines_cons_of_ne (Ne.symm hr.1) (Ne.symm hn.1), ih hr.2 hn.2,
      List.cons_append]

theorem Markup.BareMarkup.lineBreak (hb : named "br".toList) (h : BareMarkup named opened t) :
    BareMarkup named opened ("<br>".toList ++ t) := by
  have ha : (BareTag.opener "br".toList).Allowed named := ⟨hb, by decide⟩
  exact .tag ha rfl h

theorem Markup.BareMarkup.breakLines (hb : named "br".toList) (h : BareMarkup named opened t) :
    BareMarkup named opened (breakLines t) := by
  induction h with
  | nil => exact .nil
  | @char c _ cs hc _ ih =>
    by_cases hn : c = '\n'
    · subst c
      exact ih.lineBreak hb
    by_cases hr : c = '\r'
    · subst c
      rcases breakLines_return cs with he | he
      · rwa [he]
      · rw [he]
        exact ih.lineBreak hb
    rw [breakLines_cons_of_ne hr hn]
    exact .char hc ih
  | tag ha hs _ ih =>
    rw [breakLines_append (ha.not_mem_render (by decide) (by decide))
      (ha.not_mem_render (by decide) (by decide))]
    exact .tag ha hs ih

theorem plain_of_mem_escapeHtml (h : d ∈ Escape.escapeHtml t) : isDelimiter d = false := by
  obtain ⟨c, -, hc⟩ := List.mem_flatMap.1 h
  rw [escapeHtmlChar] at hc
  split at hc
  · have hall : "&amp;".toList.all (!isDelimiter ·) := by decide
    simpa only [Bool.not_eq_true'] using List.all_eq_true.1 hall d hc
  · exact (mem_tidyHtmlChar hc).1

theorem Markup.BareMarkup.escapeHtml (t : Text) : BareMarkup named [] (Escape.escapeHtml t) := by
  rw [← List.append_nil (Escape.escapeHtml t)]
  exact BareMarkup.nil.append_plain fun c hc => plain_of_mem_escapeHtml hc

theorem Markup.TagSet.mem_insert {s : TagSet} {name other : Text} :
    other ∈ s.insert name ↔ other = name ∨ other ∈ s :=
  mem_insertName

theorem Markup.TagSet.mem_union {s t : TagSet} {name : Text} :
    name ∈ s.union t ↔ name ∈ s ∨ name ∈ t := by
  obtain ⟨names, ascending⟩ := t
  change name ∈ names.foldl TagSet.insert s ↔ name ∈ s ∨ name ∈ names
  clear ascending
  induction names generalizing s with
  | nil => simp
  | cons n ns ih =>
    rw [List.foldl_cons, ih, TagSet.mem_insert, List.mem_cons]
    tauto

theorem Markup.TagSet.mem_ofList {names : List Text} {name : Text} :
    name ∈ TagSet.ofList names ↔ name ∈ names.map lowercase := by
  have hinsert (s : TagSet) : name ∈ names.foldl (fun s n => s.insert (lowercase n)) s ↔
      name ∈ s ∨ name ∈ names.map lowercase := by
    induction names generalizing s with
    | nil => simp
    | cons n ns ih =>
      rw [List.foldl_cons, ih, TagSet.mem_insert, List.map_cons, List.mem_cons]
      tauto
  rw [TagSet.ofList, hinsert]
  exact or_iff_right List.not_mem_nil

theorem Markup.TagSet.isEmpty_of_mem {s : TagSet} {name : Text} (h : name ∈ s) :
    s.isEmpty = false := by
  rw [TagSet.isEmpty, List.isEmpty_eq_false_iff]
  exact List.ne_nil_of_mem h

/-- What may be trusted: bare markup of the names, or a URI that is no script. -/
def Content.Sound (named : Text → Prop) (c : Content) : Prop :=
  (c.kind = .html ∧ BareMarkup named [] c.text) ∨ (c.kind = .uri ∧ ¬Uri.IsScript c.text)

def Value.Sound (named : Text → Prop) : Value → Prop
  | .content c => c.Sound named
  | _ => True

theorem Value.Sound.html {v : Value} (h : v.Sound named) (hc : v.contentIf? .html = some t) :
    BareMarkup named [] t := by
  cases v with
  | content c =>
    rw [Value.contentIf?, Option.ite_none_right_eq_some, Option.some.injEq] at hc
    obtain ⟨hk, rfl⟩ := hc
    rcases h with ⟨-, hm⟩ | ⟨hu, -⟩
    · exact hm
    · rw [hk] at hu
      cases hu
  | null => cases hc
  | int n => cases hc
  | float x => cases hc
  | str s => cases hc

theorem Content.wrap_value {a : Approval} (h : Approval.minLength ≤ a.justification.length)
    (text : Text) (kind : Kind) (dir : Option Direction) :
    (Content.wrap text kind dir (some a)).value = .ok ⟨text, kind, kind.intrinsicDir.or dir⟩ := by
  have hc : Approval.check? (some a) = .ok () := if_neg (Nat.not_lt.2 h)
  rw [Content.wrap, hc]

namespace Sanitizer

variable {s : Sanitizer} {v : Value} {extra : TagSet}

theorem wrapHtml_sound {a : Approval} (ha : Approval.minLength ≤ a.justification.length)
    (hm : BareMarkup named [] t) (v : Value) :
    ∃ c, (wrapHtml t v a).value = .ok c ∧ c.Sound named :=
  ⟨_, Content.wrap_value ha t .html v.dir, .inl ⟨rfl, hm⟩⟩

theorem changeNewlineToBr_sound (hb : named "br".toList) (hv : v.Sound named) :
    ∃ w, (changeNewlineToBr v).value = .ok w ∧ w.Sound named := by
  unfold changeNewlineToBr
  split
  case h_1 html hc =>
    have hm := (hv.html hc).breakLines hb
    obtain ⟨c, he, hs⟩ := wrapHtml_sound (a := alreadyTrusted) (by decide) hm v
    exact ⟨.content c, by rw [Journal.value_map, he]; rfl, hs⟩
  case h_2 => exact ⟨_, rfl, trivial⟩

theorem cleanHtml_sound (hne : (s.safeTags.union extra).isEmpty = false)
    (hn : ∀ n ∈ s.safeTags.union extra, named n) (hv : v.Sound named) :
    ∃ c, (s.cleanHtml extra v).value = .ok c ∧ c.Sound named := by
  unfold cleanHtml
  split
  case h_1 html hc => exact wrapHtml_sound (by decide) (hv.html hc) v
  case h_2 =>
    rw [Journal.value_bind, stripTags_allowed hne]
    exact wrapHtml_sound (by decide) ((onePass_bareMarkup _ _).mono hn) v

theorem cleanHtml_str (hne : (s.safeTags.union extra).isEmpty = false) (t : Text) :
    (s.cleanHtml extra (.str t)).value =
      .ok ⟨writePieces (onePass (s.safeTags.union extra) t), .html, none⟩ := by
  have hclean : (s.cleanHtml extra (.str t)).value =
      (wrapHtml (stripTags (some (s.safeTags.union extra)) t).value (.str t) escapedHtml).value :=
    Journal.value_bind _ _
  rw [hclean, stripTags_allowed hne]
  exact Content.wrap_value (by decide) _ .html none

theorem escapeHtml_sound (hs : s.encoder = .standard) (hv : v.Sound named) :
    ∃ c, (s.escapeHtml v).value = .ok c ∧ c.Sound named := by
  unfold escapeHtml
  split
  case h_1 html hc => exact wrapHtml_sound (by decide) (hv.html hc) v
  case h_2 =>
    rw [hs]
    exact wrapHtml_sound (by decide) (.escapeHtml _) v

theorem filterUri_sound {context : FilterContext} (hs : s.encoder = .standard)
    (hc : context ∈ Uri.trustedContexts) (v : Value) :
    ∃ c, (s.filterUri context v).value = .ok c ∧ c.Sound named := by
  refine ⟨_, Content.wrap_value (by decide) _ .uri none, .inr ⟨rfl, ?_⟩⟩
  rw [hs]
  exact Uri.not_isScript_filter hc v.display

/-- The values after a run of directives, as long as none of them fails. -/
def run (s : Sanitizer) (ds : List Directive) (v : Value) : Except Violation Value :=
  ds.foldlM (fun v d => (d.apply s v).value) v

def Permitted (s : Sanitizer) (ds : List Directive) (name : Text) : Prop :=
  name ∈ s.safeTags ∨ (∃ extra, .cleanHtml extra ∈ ds ∧ name ∈ extra) ∨ name = "br".toList

/-- The routines are those of this library, and some tag is kept. -/
structure Builtin (s : Sanitizer) : Prop where
  encoder : s.encoder = .standard
  keeps : ∃ name, name ∈ s.safeTags

theorem b_mem_defaultSafe : "b".toList ∈ TagSet.defaultSafe :=
  TagSet.contains_iff.1 (by decide)

theorem Builtin.standard : Sanitizer.standard.Builtin :=
  ⟨rfl, _, b_mem_defaultSafe⟩

theorem Builtin.ofPolicy (p : Policy) : (Sanitizer.ofPolicy p).Builtin :=
  ⟨rfl, _, TagSet.mem_union.2 (.inl b_mem_defaultSafe)⟩

theorem Builtin.apply_sound {d : Directive} (h : s.Builtin) (hb : named "br".toList)
    (hn : ∀ n ∈ s.safeTags, named n) (hd : ∀ extra, d = .cleanHtml extra → ∀ n ∈ extra, named n)
    (hv : v.Sound named) : ∃ w, (d.apply s v).value = .ok w ∧ w.Sound named := by
  have hs := h.encoder
  have content {j : Journal (Except Violation Content)}
      (h : ∃ c, j.value = .ok c ∧ c.Sound named) :
      ∃ w, (Directive.ofContent <$> j).value = .ok w ∧ w.Sound named := by
    obtain ⟨c, hc, hsound⟩ := h
    exact ⟨.content c, by rw [Journal.value_map, hc]; rfl, hsound⟩
  cases d
  case changeNewlineToBr => exact changeNewlineToBr_sound hb hv
  case cleanHtml extra =>
    obtain ⟨name, hname⟩ := h.keeps
    apply content
    apply cleanHtml_sound (TagSet.isEmpty_of_mem (TagSet.mem_union.2 (.inl hname))) _ hv
    intro n hm
    exact (TagSet.mem_union.1 hm).elim (hn n) (hd extra rfl n)
  case escapeHtml => exact content (escapeHtml_sound hs hv)
  case escapeHtmlHtmlAttribute =>
    obtain ⟨c, hc, -⟩ := escapeHtml_sound hs hv
    refine ⟨.str c.text, ?_, trivial⟩
    rw [Directive.apply, Journal.value_map, escapeHtmlHtmlAttribute, Journal.value_map, hc]
    rfl
  case filterImageDataUri => exact content (filterUri_sound hs (by decide) v)
  case filterTelUri => exact content (filterUri_sound hs (by decide) v)
  case filterSmsUri => exact content (filterUri_sound hs (by decide) v)
  case filterSipUri => exact content (filterUri_sound hs (by decide) v)
  case filterLegacyUriBehavior => exact content (filterUri_sound hs (by decide) v)
  -- The other directives give plain text.
  all_goals exact ⟨_, rfl, trivial⟩

theorem Builtin.run_sound {ds : List Directive} (h : s.Builtin) (hb : named "br".toList)
    (hn : ∀ n ∈ s.safeTags, named n) (hd : ∀ extra, .cleanHtml extra ∈ ds → ∀ n ∈ extra, named n)
    (hv : v.Sound named) : ∃ w, s.run ds v = .ok w ∧ w.Sound named := by
  induction ds generalizing v with
  | nil => exact ⟨v, rfl, hv⟩
  | cons d ds ih =>
    obtain ⟨mid, hmid, hsound⟩ := h.apply_sound hb hn
      (fun extra he => hd extra (he ▸ List.mem_cons_self)) hv
    obtain ⟨w, hw, hfinal⟩ := ih (fun extra he => hd extra (List.mem_cons_of_mem d he)) hsound
    refine ⟨w, ?_, hfinal⟩
    rw [run, List.foldlM_cons, hmid]
    exact hw

/-- Whatever directives a value that is not trusted goes through, none of them fails, and behind
each of them trusted content is safe markup or a URI that is no script. -/
theorem run_trusted (s : Sanitizer) (hs : s = .standard ∨ ∃ p, s = .ofPolicy p) (v : Value)
    (hv : v.isContent = false) (ds : List Directive) :
    ∃ w, s.run ds v = .ok w ∧ ∀ c, w = .content c →
      (c.kind = .html ∧ SafeMarkup (s.Permitted ds) c.text) ∨
        (c.kind = .uri ∧ ¬Uri.IsScript c.text) := by
  have hbuilt : s.Builtin := by
    rcases hs with rfl | ⟨p, rfl⟩
    · exact .standard
    · exact .ofPolicy p
  have hsound : v.Sound (s.Permitted ds) := by
    cases v with
    | content c => cases hv
    | null => trivial
    | int n => trivial
    | float x => trivial
    | str t => trivial
  obtain ⟨w, hw, hfinal⟩ := hbuilt.run_sound (.inr (.inr rfl)) (fun n hn => .inl hn)
    (fun extra he n hn => .inr (.inl ⟨extra, he, hn⟩)) hsound
  refine ⟨w, hw, ?_⟩
  rintro c rfl
  exact hfinal.imp (fun h => ⟨h.1, h.2.safe⟩) id

/-- Escaped text stays trusted when its ends of lines are written as tags. -/
theorem run_trusted_escaped_lines :
    let v : Value := .str "a<\r\n".toList
    let ds : List Directive := [.escapeHtml, .changeNewlineToBr]
    v.isContent = false ∧ standard.run ds v = .ok (.content ⟨"a&lt;<br>".toList, .html, none⟩) ∧
      ∃ w, standard.run ds v = .ok w ∧ ∀ c, w = .content c →
        (c.kind = .html ∧ SafeMarkup (standard.Permitted ds) c.text) ∨
          (c.kind = .uri ∧ ¬Uri.IsScript c.text) :=
  ⟨rfl, rfl, run_trusted standard (.inl rfl) _ rfl _⟩

end Sanitizer

end SafeOutput
