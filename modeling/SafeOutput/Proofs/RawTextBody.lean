import Mathlib
import SafeOutput.Proofs.Extraction
import SafeOutput.Proofs.RawText
import SafeOutput.Proofs.TagGrammar

namespace SafeOutput.Markup

open Text

variable {c : Char} {name cs ds body rest after more t u : Text} {e : Extraction} {it : Tag}

section Tails

theorem Enclosed.append (ht : Enclosed t) (hu : Enclosed u) : Enclosed (t ++ u) := by
  induction ht with
  | nil => exact hu
  | char hgt hq _ ih => exact .char hgt hq ih
  | quoted hq hb _ ih =>
    rw [List.cons_append, List.append_assoc]
    exact .quoted hq hb ih

theorem enclosed_of_plain (h : ∀ c ∈ t, c ≠ '>' ∧ isQuote c = false) : Enclosed t := by
  induction t with
  | nil => exact .nil
  | cons c cs ih =>
    obtain ⟨hc, hcs⟩ := List.forall_mem_cons.1 h
    exact .char hc.1 hc.2 (ih hcs)

/-- What stands behind the name of a tag ends the tag, is complete so far, or has a quote open. -/
inductive TailState (cs : Text) : Prop where
  | ends {attrs rest : Text} : TagEnds cs attrs rest → TailState cs
  | between : Enclosed cs → TailState cs
  | quoting {done left : Text} {q : Char} :
      cs = done ++ q :: left → Enclosed done → isQuote q = true → q ∉ left → TailState cs

theorem TailState.behind (hp : Enclosed t) (h : TailState cs) : TailState (t ++ cs) := by
  cases h with
  | ends ht =>
    obtain ⟨rfl, he⟩ := ht
    exact .ends ⟨(List.append_assoc _ _ _).symm, hp.append he⟩
  | between he => exact .between (hp.append he)
  | quoting hcs hd hq hl =>
    subst hcs
    exact .quoting (List.append_assoc _ _ _).symm (hp.append hd) hq hl

theorem tailState (cs : Text) : TailState cs := by
  induction hn : cs.length using Nat.strong_induction_on generalizing cs with
  | _ n ih =>
    subst hn
    cases cs with
    | nil => exact .between .nil
    | cons c cs =>
      by_cases hgt : c = '>'
      · subst c
        exact .ends ⟨rfl, .nil⟩
      cases hq : isQuote c with
      | false =>
        have hstate := ih cs.length (Nat.lt_succ_self _) cs rfl
        exact hstate.behind (t := [c]) (.char hgt hq .nil)
      | true =>
        by_cases hm : c ∈ cs
        · obtain ⟨inner, behind, rfl, hinner⟩ := List.eq_append_cons_of_mem hm
          have hlen : behind.length < (c :: (inner ++ c :: behind)).length := by
            simp only [List.length_cons, List.length_append]
            omega
          have hstate := (ih _ hlen behind rfl).behind (.quoted hq hinner .nil)
          rwa [List.cons_append, List.append_assoc] at hstate
        · exact .quoting (List.nil_append _).symm .nil hq hm

end Tails

section Comments

theorem not_commentEnds_append (h : ∀ body rest, ¬CommentEnds ds body rest) (hline : '\n' ∈ ds)
    (u body rest : Text) : ¬CommentEnds (ds ++ u) body rest := by
  rintro ⟨he, hb⟩
  obtain ⟨x, y, rfl⟩ := List.append_of_mem hline
  -- The comment would have to end on its line, and the line ends in the first part.
  have hend : '\n' ∉ body ++ "-->".toList := by
    rw [List.mem_append, not_or]
    exact ⟨hb, by decide⟩
  rw [List.append_assoc] at he
  obtain ⟨mid, rfl, -⟩ := append_eq_append_cons he.symm hend
  refine h body (mid ++ '\n' :: y) ⟨?_, hb⟩
  rw [List.append_assoc]

theorem CommentEnds.append (h : CommentEnds ds body rest) (u : Text) :
    CommentEnds (ds ++ u) body (rest ++ u) := by
  obtain ⟨rfl, hb⟩ := h
  exact ⟨List.append_assoc _ _ _, hb⟩

theorem CommentEnds.of_append (h : CommentEnds (ds ++ u) body rest)
    (hl : body.length + 3 ≤ ds.length) : ∃ behind, CommentEnds ds body behind := by
  obtain ⟨he, hb⟩ := h
  have hstart : body ++ "-->".toList <+: ds ++ u := ⟨rest, he.symm⟩
  obtain ⟨behind, hds⟩ :=
    List.prefix_of_prefix_length_le hstart (List.prefix_append ds u) (by simpa)
  exact ⟨behind, hds.symm, hb⟩

/-- Where a comment can end, one is read, though it may end sooner. -/
theorem CommentEnds.exists_reads (h : CommentEnds ds body rest) :
    ∃ first behind it, CommentEnds ds first behind ∧
      Grammar.document.Reads ("!--".toList ++ ds) it behind := by
  obtain ⟨first, behind, hsplit, -⟩ := h.splitComment
  obtain ⟨hfirst, hleast⟩ := splitComment_eq_some_iff.1 hsplit
  exact ⟨first, behind, _, hfirst, .comment rfl hfirst hleast⟩

/-- A comment that has been opened and may still end, for its line goes on. -/
def CommentPending (cs : Text) : Prop :=
  ∃ ds, cs = "!--".toList ++ ds ∧ '\n' ∉ ds ∧ ∀ body rest, ¬CommentEnds ds body rest

end Comments

section Seals

/-- Behind `<`, a tag starts here, whether or not it ends. -/
inductive StartsTag : Text → Prop where
  | declaration (cs : Text) : StartsTag ('!' :: cs)
  | element {name cs : Text} (closing : Bool) :
      Grammar.document.IsName name →
      (∀ c ∈ cs.head?, Grammar.document.continuesName c = false) →
      StartsTag (slashText closing ++ name ++ cs)

/-- Text in which every tag that starts also ends, and no text behind it changes that. -/
inductive Sealed : Text → Prop where
  | nil : Sealed []
  | char {c : Char} {cs : Text} : c ≠ '<' → Sealed cs → Sealed (c :: cs)
  | bare {cs : Text} : ¬StartsTag cs → Sealed cs → Sealed ('<' :: cs)
  | tag {cs rest : Text} {it : Tag} :
      Grammar.document.Reads cs it rest → ¬CommentPending cs → Sealed rest → Sealed ('<' :: cs)

theorem TagEnds.append {attrs : Text} (h : TagEnds cs attrs rest) (u : Text) :
    TagEnds (cs ++ u) attrs (rest ++ u) := by
  obtain ⟨rfl, he⟩ := h
  exact ⟨List.append_assoc _ _ _, he⟩

theorem comment_of_dashes (h : cs ++ '<' :: more = "--".toList ++ t) :
    ∃ ds, cs = "--".toList ++ ds ∧ t = ds ++ '<' :: more :=
  append_eq_append_cons h.symm (by decide)

theorem Grammar.Reads.append (h : Grammar.document.Reads cs it rest) (hp : ¬CommentPending cs)
    (more : Text) : Grammar.document.Reads (cs ++ '<' :: more) it (rest ++ '<' :: more) := by
  cases h with
  | @comment cs body _ hg hends hfirst =>
    rw [List.append_assoc]
    refine .comment hg (hends.append _) ?_
    intro other behind hother
    by_contra hlt
    have hlen := congrArg List.length hends.1
    simp only [List.length_append] at hlen
    have hthree : "-->".toList.length = 3 := rfl
    obtain ⟨inner, hinner⟩ := hother.of_append (by omega)
    exact hlt (hfirst other inner hinner)
  | @declaration cs attrs _ hnone ht =>
    refine .declaration ?_ (ht.append _)
    intro hg t hd
    obtain ⟨ds, rfl, rfl⟩ := comment_of_dashes hd
    have hnot := hnone hg ds rfl
    apply not_commentEnds_append hnot
    by_contra hline
    exact hp ⟨ds, rfl, hline, hnot⟩
  | @element name cs attrs _ closing hn hstop ht =>
    rw [List.append_assoc]
    refine .element closing hn ?_ (ht.append _)
    obtain ⟨rfl, -⟩ := ht
    cases attrs with
    | nil => exact hstop
    | cons c attrs => exact hstop

theorem Grammar.Reads.suffix (h : Grammar.document.Reads cs it rest) : rest <:+ '<' :: cs := by
  rw [Grammar.tagAt_raw h.tagAt]
  exact List.suffix_append _ _

theorem Grammar.IsName.lt_not_mem (h : Grammar.document.IsName name) : '<' ∉ name := by
  obtain ⟨c, more, rfl, hc, hmore⟩ := h
  rw [List.mem_cons, not_or]
  constructor
  · rintro rfl
    exact absurd hc (by decide)
  · intro hm
    exact absurd (hmore '<' hm) (by decide)

theorem StartsTag.of_reads (h : Grammar.document.Reads (cs ++ '<' :: more) it rest) :
    StartsTag cs := by
  generalize ht : cs ++ '<' :: more = t at h
  cases h with
  | comment _ _ _ =>
    obtain ⟨mid, rfl, -⟩ := append_eq_append_cons (t := ['!']) ht.symm (by decide)
    exact .declaration mid
  | declaration _ _ =>
    obtain ⟨mid, rfl, -⟩ := append_eq_append_cons (t := ['!']) ht.symm (by decide)
    exact .declaration mid
  | @element name ds _ _ closing hn hstop _ =>
    have hlt : '<' ∉ slashText closing ++ name := by
      rw [List.mem_append, not_or]
      refine ⟨?_, hn.lt_not_mem⟩
      cases closing <;> decide
    obtain ⟨mid, rfl, rfl⟩ := append_eq_append_cons ht.symm hlt
    refine .element closing hn ?_
    cases mid with
    | nil => exact fun c hc => absurd hc (Option.not_mem_none c)
    | cons c mid => exact hstop

theorem not_startsTag_of_head (hb : c ≠ '!') (hs : c ≠ '/')
    (hn : Grammar.document.startsName c = false) : ¬StartsTag (c :: cs) := by
  generalize ht : c :: cs = t
  intro h
  cases h with
  | declaration ds => exact hb (List.cons.inj ht).1
  | element closing hw _ =>
    obtain ⟨d, more, rfl, hd, -⟩ := hw
    cases closing with
    | true => exact hs (List.cons.inj ht).1
    | false =>
      rw [← (List.cons.inj ht).1, hn] at hd
      cases hd

end Seals

section Overruns

/-- Texts that end whatever tag is open, and show a letter. -/
def continuations : List Text :=
  ["x".toList, "\">x".toList, "'>x".toList, "-->x".toList]

theorem closer_render (name : Text) :
    (BareTag.closer name).render = '<' :: '/' :: (name ++ ['>']) := by
  rw [BareTag.render, BareTag.closer, if_pos rfl, List.append_assoc]
  rfl

section Closers

variable (hn : Policy.isTagName name)

include hn

theorem not_mem_closer (hc : c ∉ ['<', '/', '>']) (hname : isNameChar c = false) :
    c ∉ (BareTag.closer name).render := by
  simp only [List.mem_cons, List.not_mem_nil, or_false, not_or] at hc
  rw [closer_render, List.mem_cons, List.mem_cons, List.mem_append, List.mem_singleton]
  rintro (hlt | hslash | hm | hgt)
  · exact hc.1 hlt
  · exact hc.2.1 hslash
  · exact not_mem_of_isTagName hn hname hm
  · exact hc.2.2 hgt

theorem quote_not_mem_closer {q : Char} (hq : isQuote q = true) :
    q ∉ (BareTag.closer name).render := by
  rcases isQuote_iff.1 hq with rfl | rfl
  · exact not_mem_closer hn (by decide) (by decide)
  · exact not_mem_closer hn (by decide) (by decide)

theorem enclosed_closer : Enclosed ('<' :: '/' :: name) := by
  apply enclosed_of_plain
  rw [List.forall_mem_cons, List.forall_mem_cons]
  refine ⟨by decide, by decide, ?_⟩
  intro c hc
  have hname := isNameChar_of_mem hn hc
  constructor
  · rintro rfl
    exact absurd hname (by decide)
  · rw [Bool.eq_false_iff, Ne, isQuote_iff]
    rintro (rfl | rfl)
    · exact absurd hname (by decide)
    · exact absurd hname (by decide)

theorem exists_tagEnds (h : ∀ attrs rest, ¬TagEnds cs attrs rest) :
    ∃ after ∈ continuations, ∃ attrs rest,
      TagEnds (cs ++ ((BareTag.closer name).render ++ after)) attrs rest ∧ rest <:+ after := by
  cases tailState cs with
  | ends ht => exact absurd ht (h _ _)
  | between he =>
    refine ⟨"x".toList, by decide, cs ++ '<' :: '/' :: name, "x".toList, ⟨?_, ?_⟩,
      List.suffix_refl _⟩
    · rw [closer_render]
      simp
    · exact he.append (enclosed_closer hn)
  | @quoting done left q hcs hd hq hl =>
    subst hcs
    have hbody : q ∉ left ++ (BareTag.closer name).render := by
      rw [List.mem_append, not_or]
      exact ⟨hl, quote_not_mem_closer hn hq⟩
    refine ⟨q :: ">x".toList, ?_, done ++ q :: (left ++ (BareTag.closer name).render ++ [q]),
      "x".toList, ⟨?_, ?_⟩, ⟨[q, '>'], rfl⟩⟩
    · rcases isQuote_iff.1 hq with rfl | rfl
      · decide
      · decide
    · simp
    · exact hd.append (.quoted hq hbody .nil)

theorem gt_not_mem_closer : '>' ∉ '<' :: '/' :: name := by
  rw [List.mem_cons, List.mem_cons, not_or, not_or]
  exact ⟨by decide, by decide, not_mem_of_isTagName hn (by decide)⟩

theorem CommentEnds.suffix (hnone : ∀ body rest, ¬CommentEnds ds body rest)
    (h : CommentEnds (ds ++ ((BareTag.closer name).render ++ after)) body rest) :
    rest <:+ after := by
  have heq : (ds ++ '<' :: '/' :: name) ++ '>' :: after = (body ++ "--".toList) ++ '>' :: rest := by
    have hsource := h.1
    rw [closer_render] at hsource
    simpa using hsource
  rcases append_cons_cases heq with ⟨right, hright, -⟩ | ⟨mid, -, hmid⟩
  · rcases append_cons_cases hright with ⟨inner, hds, -⟩ | ⟨mid, -, hmid⟩
    · exact absurd ⟨by simpa using hds, h.2⟩ (hnone body inner)
    · have hgt := gt_not_mem_closer hn
      rw [hmid] at hgt
      exact absurd (List.mem_append_right mid List.mem_cons_self) hgt
  · cases mid with
    | nil =>
      cases hmid
      exact List.suffix_refl _
    | cons d mid =>
      cases hmid
      exact (List.suffix_cons _ _).trans (List.suffix_append _ _)

theorem CommentPending.overruns (h : CommentPending cs) :
    ∃ after ∈ continuations, ∃ it rest,
      Grammar.document.Reads (cs ++ ((BareTag.closer name).render ++ after)) it rest ∧
        rest <:+ after := by
  obtain ⟨ds, rfl, hline, hnone⟩ := h
  have hends : CommentEnds (ds ++ ((BareTag.closer name).render ++ "-->x".toList))
      (ds ++ (BareTag.closer name).render) "x".toList := by
    refine ⟨by simp, ?_⟩
    rw [List.mem_append, not_or]
    exact ⟨hline, not_mem_closer hn (by decide) (by decide)⟩
  obtain ⟨body, rest, it, hfirst, hread⟩ := hends.exists_reads
  rw [← List.append_assoc] at hread
  exact ⟨_, by decide, it, rest, hread, hfirst.suffix hn hnone⟩

theorem StartsTag.overruns (h : StartsTag cs) (hp : ¬CommentPending cs)
    (hnone : ∀ it rest, ¬Grammar.document.Reads cs it rest) :
    ∃ after ∈ continuations, ∃ it rest,
      Grammar.document.Reads (cs ++ ((BareTag.closer name).render ++ after)) it rest ∧
        rest <:+ after := by
  cases h with
  | declaration cs =>
    have hcomment : ∀ ds, cs = "--".toList ++ ds → ∀ body rest, ¬CommentEnds ds body rest := by
      rintro ds rfl body rest hends
      obtain ⟨_, behind, it, -, hread⟩ := hends.exists_reads
      exact hnone it behind hread
    have hends : ∀ attrs rest, ¬TagEnds cs attrs rest := by
      intro attrs rest ht
      exact hnone _ rest (.declaration (fun _ => hcomment) ht)
    obtain ⟨after, hm, attrs, rest, ht, hrest⟩ := exists_tagEnds hn hends
    refine ⟨after, hm, _, rest, .declaration ?_ ht, hrest⟩
    intro _ t hd
    rw [closer_render] at hd
    obtain ⟨ds, rfl, rfl⟩ := comment_of_dashes hd
    apply not_commentEnds_append (hcomment ds rfl)
    by_contra hline
    exact hp ⟨ds, rfl, hline, hcomment ds rfl⟩
  | @element written cs closing hw hstop =>
    have hends : ∀ attrs rest, ¬TagEnds cs attrs rest := by
      intro attrs rest ht
      exact hnone _ rest (.element closing hw hstop ht)
    obtain ⟨after, hm, attrs, rest, ht, hrest⟩ := exists_tagEnds hn hends
    have hgoes : ∀ c ∈ (cs ++ ((BareTag.closer name).render ++ after)).head?,
        Grammar.document.continuesName c = false := by
      cases cs with
      | nil =>
        intro c hc
        rw [closer_render] at hc
        cases hc
        decide
      | cons d ds => exact hstop
    have hread := Grammar.Reads.element closing hw hgoes ht
    rw [← List.append_assoc] at hread
    exact ⟨after, hm, _, rest, hread, hrest⟩

end Closers

end Overruns

section Skipping

/-- The text holds the start of a closer of the name, in letters of either case. -/
def HoldsCloser (name t : Text) : Prop :=
  "</".toList ++ name <:+: lowerAscii t

theorem HoldsCloser.of_suffix (h : HoldsCloser name u) (hs : u <:+ t) : HoldsCloser name t :=
  h.trans (hs.map Char.toLower).isInfix

/-- Inside the raw text element, a reader comes from the one text to the other and sees nothing. -/
def Skips (name t u : Text) : Prop :=
  ∀ e : Extraction, e.skipping = some name →
    (Grammar.document.tokens t).foldl Extraction.push e =
      (Grammar.document.tokens u).foldl Extraction.push e

theorem Skips.refl (name t : Text) : Skips name t t :=
  fun _ _ => rfl

theorem Skips.trans (h : Skips name t u) (h' : Skips name u rest) : Skips name t rest :=
  fun e he => (h e he).trans (h' e he)

theorem run_consChar (hs : e.skipping = some name) (c : Char) (ts : List Token) :
    (Token.consChar c ts).foldl Extraction.push e = ts.foldl Extraction.push e := by
  have htext (gap : Text) : e.push (.text gap) = e := Extraction.push_of_not_closes hs rfl
  unfold Token.consChar
  split
  · rw [List.foldl_cons, List.foldl_cons, htext, htext]
  · rw [List.foldl_cons, htext]

theorem Skips.char (name : Text) (hc : c ≠ '<') (cs : Text) : Skips name (c :: cs) cs := by
  intro e he
  rw [Grammar.tokens_cons_of_ne hc, run_consChar he]

theorem Skips.bare (name : Text) (h : ∀ it rest, ¬Grammar.document.Reads cs it rest) :
    Skips name ('<' :: cs) cs := by
  intro e he
  have hnone : Grammar.document.tagAt cs = none := by
    rw [Option.eq_none_iff_forall_ne_some]
    rintro ⟨it, rest⟩ hf
    exact h it rest (Grammar.tagAt_eq_some_iff.1 hf)
  rw [Grammar.tokens_of_tagAt_none hnone, run_consChar he]

theorem Skips.tag (h : Grammar.document.Reads cs it rest)
    (hc : (Token.tag it).closes name = false) : Skips name ('<' :: cs) rest := by
  intro e he
  rw [Grammar.tokens_of_tagAt h.tagAt, List.foldl_cons, Extraction.push_of_not_closes he hc]

theorem Skips.gap (name : Text) (h : '<' ∉ t) : Skips name t [] := by
  induction t with
  | nil => exact .refl name []
  | cons c cs ih =>
    rw [List.mem_cons, not_or] at h
    exact (Skips.char name (Ne.symm h.1) cs).trans (ih h.2)

end Skipping

section Bodies

variable (hn : name ∈ rawTextNames)

include hn

theorem isTagName_of_rawText : Policy.isTagName name := by
  have hall : rawTextNames.all Policy.isTagName := by decide
  exact List.all_eq_true.1 hall name hn

/-- No other spelling is brought to the name than one in letters of either case. -/
theorem lowerAscii_of_lowercase {written : Text} (h : lowercase written = name) :
    lowerAscii written = name := by
  have hall : rawTextNames.all fun name => name.all fun c => c.isLower && c != 'k' := by decide
  have hletters := List.all_eq_true.1 (List.all_eq_true.1 hall name hn)
  have hsmall : ∀ d ∈ lowercaseAfter [] written, d.isLower ∧ d ≠ 'k' := by
    intro d hd
    rw [show lowercaseAfter [] written = name from h] at hd
    have hletter := hletters d hd
    rw [Bool.and_eq_true, bne_iff_ne] at hletter
    exact hletter
  rw [← h, lowercase_of_ascii (ascii_of_lowercaseAfter hsmall)]
  rfl

theorem not_closes_of_reads (hb : ¬HoldsCloser name ('<' :: cs))
    (h : Grammar.document.Reads (cs ++ '<' :: more) it rest) :
    (Token.tag it).closes name = false := by
  generalize ht : cs ++ '<' :: more = t at h
  cases h with
  | comment _ _ _ => rfl
  | declaration _ _ => rfl
  | @element written ds _ _ closing hw _ _ =>
    rw [Token.closes, Bool.eq_false_iff, Ne, Bool.and_eq_true, beq_iff_eq, Option.some.injEq]
    rintro ⟨rfl, hlower⟩
    have hlt : '<' ∉ '/' :: written := by
      rw [List.mem_cons, not_or]
      exact ⟨by decide, hw.lt_not_mem⟩
    obtain ⟨mid, rfl, -⟩ := append_eq_append_cons ht.symm hlt
    apply hb
    refine ⟨[], lowerAscii mid, ?_⟩
    rw [← lowerAscii_of_lowercase hn hlower]
    simp [lowerAscii, slashText]

theorem Sealed.skips (h : Sealed body) (hb : ¬HoldsCloser name body) (more : Text) :
    Skips name (body ++ '<' :: more) ('<' :: more) := by
  induction h with
  | nil => exact .refl name _
  | char hc _ ih =>
    have hrest := ih fun h => hb (h.of_suffix (List.suffix_cons _ _))
    exact (Skips.char name hc _).trans hrest
  | bare hbare _ ih =>
    have hrest := ih fun h => hb (h.of_suffix (List.suffix_cons _ _))
    exact (Skips.bare name fun it rest hr => hbare (.of_reads hr)).trans hrest
  | @tag cs rest it hread hp _ ih =>
    have hlong := hread.append hp more
    exact (Skips.tag hlong (not_closes_of_reads hn hb hlong)).trans
      (ih fun h => hb (h.of_suffix hread.suffix))

theorem Skips.overrun (hb : ¬HoldsCloser name ('<' :: cs)) (ha : after ∈ continuations)
    (h : Grammar.document.Reads (cs ++ ((BareTag.closer name).render ++ after)) it rest)
    (hr : rest <:+ after) :
    Skips name ('<' :: cs ++ ((BareTag.closer name).render ++ after)) [] := by
  have hall : continuations.all fun after => decide ('<' ∉ after) := by decide
  have hlt := of_decide_eq_true (List.all_eq_true.1 hall after ha)
  have hc : (Token.tag it).closes name = false := by
    rw [closer_render] at h
    exact not_closes_of_reads hn hb h
  exact (Skips.tag h hc).trans (.gap name fun hm => hlt (hr.subset hm))

/-- Where a tag is left open, some text takes the closer into it and is itself not seen. -/
theorem exists_skips_of_not_sealed (h : ¬Sealed body) (hb : ¬HoldsCloser name body) :
    ∃ after ∈ continuations, Skips name (body ++ ((BareTag.closer name).render ++ after)) [] := by
  have htag := isTagName_of_rawText hn
  induction hl : body.length using Nat.strong_induction_on generalizing body with
  | _ n ih =>
    subst hl
    cases body with
    | nil => exact absurd .nil h
    | cons c cs =>
      have hcs : ¬HoldsCloser name cs := fun h => hb (h.of_suffix (List.suffix_cons c cs))
      by_cases hc : c = '<'
      · subst c
        by_cases hstarts : StartsTag cs
        · by_cases hp : CommentPending cs
          · obtain ⟨after, hm, it, rest, hread, hrest⟩ := hp.overruns htag
            exact ⟨after, hm, .overrun hn hb hm hread hrest⟩
          · by_cases hread : ∃ it rest, Grammar.document.Reads cs it rest
            · obtain ⟨it, rest, hread⟩ := hread
              have hlen := Grammar.tagAt_length hread.tagAt
              obtain ⟨after, hm, hskips⟩ := ih rest.length (by simp; omega)
                (fun hs => h (.tag hread hp hs)) (fun h => hb (h.of_suffix hread.suffix)) rfl
              refine ⟨after, hm, ?_⟩
              rw [closer_render] at hskips ⊢
              have hlong := hread.append hp ('/' :: (name ++ ['>']) ++ after)
              exact (Skips.tag hlong (not_closes_of_reads hn hb hlong)).trans hskips
            · push Not at hread
              obtain ⟨after, hm, it, rest, hover, hrest⟩ := hstarts.overruns htag hp hread
              exact ⟨after, hm, .overrun hn hb hm hover hrest⟩
        · obtain ⟨after, hm, hskips⟩ := ih cs.length (Nat.lt_succ_self _)
            (fun hs => h (.bare hstarts hs)) hcs rfl
          refine ⟨after, hm, .trans ?_ hskips⟩
          rw [closer_render]
          exact .bare name fun it rest hr => hstarts (.of_reads hr)
      · obtain ⟨after, hm, hskips⟩ := ih cs.length (Nat.lt_succ_self _)
          (fun hs => h (.char hc hs)) hcs rfl
        exact ⟨after, hm, (Skips.char name hc _).trans hskips⟩

/-- A body is passed over up to its end, or up to the end of a tag that takes more. -/
theorem exists_skips (hb : ¬HoldsCloser name body) (more : Text) :
    ∃ rest, rest <:+ '<' :: more ∧ Skips name (body ++ '<' :: more) rest := by
  induction hl : body.length using Nat.strong_induction_on generalizing body with
  | _ n ih =>
    subst hl
    cases body with
    | nil => exact ⟨_, List.suffix_refl _, .refl name _⟩
    | cons c cs =>
      have hcs : ¬HoldsCloser name cs := fun h => hb (h.of_suffix (List.suffix_cons c cs))
      obtain ⟨rest, hr, hskips⟩ := ih cs.length (Nat.lt_succ_self _) hcs rfl
      by_cases hc : c = '<'
      · subst c
        by_cases hread : ∃ it rest, Grammar.document.Reads (cs ++ '<' :: more) it rest
        · obtain ⟨it, behind, hread⟩ := hread
          have hskip := Skips.tag hread (not_closes_of_reads hn hb hread)
          have hlen := Grammar.tagAt_length hread.tagAt
          have hbehind : behind <:+ '<' :: cs ++ '<' :: more := hread.suffix
          rcases List.suffix_or_suffix_of_suffix hbehind (List.suffix_append _ _) with hend | hin
          · exact ⟨behind, hend, hskip⟩
          · obtain ⟨inner, rfl⟩ := hin
            obtain ⟨hinner, -⟩ := (List.suffix_append_inj_of_length_eq rfl).1 hbehind
            rw [List.length_append, List.length_append] at hlen
            obtain ⟨last, hl, hlast⟩ := ih inner.length (by simp; omega)
              (fun h => hb (h.of_suffix hinner)) rfl
            exact ⟨last, hl, hskip.trans hlast⟩
        · push Not at hread
          exact ⟨rest, hr, (Skips.bare name hread).trans hskips⟩
      · exact ⟨rest, hr, (Skips.char name hc _).trans hskips⟩

theorem plainText_opener (t : Text) :
    plainText ((BareTag.opener name).render ++ t) =
      Extraction.read ⟨[], [Extraction.start.rawFrame name []], some name⟩
        (Grammar.document.tokens t) := by
  have htag : Policy.isTagName (BareTag.opener name).name := isTagName_of_rawText hn
  have hopens : (BareTag.opener name).toTag.opens name := Tag.opens_iff.2 ⟨rfl, rfl⟩
  have hpush := Extraction.push_rawText (e := .start) rfl hopens (List.contains_iff_mem.2 hn)
  rw [plainText_eq, Grammar.document.tokens_render htag, Extraction.read, List.foldl_cons, hpush]
  rfl

theorem Skips.plainText (h : Skips name t u) :
    plainText ((BareTag.opener name).render ++ t) =
      Markup.plainText ((BareTag.opener name).render ++ u) := by
  rw [plainText_opener hn, plainText_opener hn, Extraction.read, h _ rfl]
  rfl

theorem plainText_continuation (ha : after ∈ continuations) :
    plainText ((BareTag.opener name).render ++ ((BareTag.closer name).render ++ after)) ≠ [] := by
  have hall : rawTextNames.all fun name => continuations.all fun after => plainText
      ((BareTag.opener name).render ++ ((BareTag.closer name).render ++ after)) != [] := by
    decide +kernel
  exact bne_iff_ne.1 (List.all_eq_true.1 (List.all_eq_true.1 hall name hn) after ha)

end Bodies

/-- What a document shows that starts with a raw text element of the name and the body. -/
def shownBehind (name body after : Text) (dir : Option Direction) : Text :=
  (Value.content ⟨(BareTag.opener name).render ++ (body ++ ((BareTag.closer name).render ++ after)),
    .html, dir⟩).plainText

/-- Nothing of the body is shown, but a tag that starts in it may take the closer along: what is
shown then is what would be shown with a part of the text behind as the body. What is shown does not
depend on the body exactly if the body leaves no tag open. One that does can hide all there is. -/
theorem rawText_body_exact (hn : name ∈ rawTextNames) (hb : ¬HoldsCloser name body)
    (dir : Option Direction) :
    (∀ after, ∃ rest, rest <:+ (BareTag.closer name).render ++ after ∧
        shownBehind name body after dir =
          (Value.content ⟨(BareTag.opener name).render ++ rest, .html, dir⟩).plainText) ∧
      ((∀ after, shownBehind name body after dir = shownBehind name [] after dir) ↔ Sealed body) ∧
      (¬Sealed body → ∃ after, shownBehind name body after dir = [] ∧
        shownBehind name [] after dir ≠ []) := by
  have hhidden (h : ¬Sealed body) : ∃ after, shownBehind name body after dir = [] ∧
      shownBehind name [] after dir ≠ [] := by
    obtain ⟨after, hm, hskips⟩ := exists_skips_of_not_sealed hn h hb
    refine ⟨after, ?_, plainText_continuation hn hm⟩
    have hnil : plainText ((BareTag.opener name).render ++ []) = [] := by
      rw [plainText_opener hn, Grammar.tokens_nil]
      rfl
    exact (hskips.plainText hn).trans hnil
  refine ⟨?_, ⟨?_, ?_⟩, hhidden⟩
  · intro after
    obtain ⟨rest, hr, hskips⟩ := exists_skips hn hb ('/' :: (name ++ ['>']) ++ after)
    refine ⟨rest, ?_, ?_⟩
    · rw [closer_render]
      exact hr
    · rw [shownBehind, closer_render]
      exact hskips.plainText hn
  · intro h
    by_contra hnot
    obtain ⟨after, hnone, hsome⟩ := hhidden hnot
    rw [← h after] at hsome
    exact hsome hnone
  · intro h after
    rw [shownBehind, shownBehind, closer_render]
    exact (h.skips hn hb _).plainText hn

/-- A closer of another element inside a quoted value, and a sign that starts no tag. -/
theorem rawText_body_exact_quoted :
    let name := "script".toList
    let body := "1<2<b title='</p>'>".toList
    name ∈ rawTextNames ∧ ¬HoldsCloser name body ∧ Sealed body ∧
      ∀ after, shownBehind name body after none = shownBehind name [] after none := by
  intro name body
  have hn : name ∈ rawTextNames := by decide
  have hb : ¬HoldsCloser name body := by
    unfold HoldsCloser
    decide
  have hbare : ¬StartsTag "2<b title='</p>'>".toList :=
    not_startsTag_of_head (by decide) (by decide) (by decide)
  have hread : Grammar.document.Reads "b title='</p>'>".toList
      ⟨"<b title='</p>'>".toList, some "b".toList, false, " title='</p>'".toList⟩ [] :=
    Grammar.tagAt_eq_some_iff.1 (by decide +kernel)
  have hpending : ¬CommentPending "b title='</p>'>".toList := by
    rintro ⟨ds, hds, -⟩
    cases hds
  have hsealed : Sealed body :=
    .char (by decide) (.bare hbare (.char (by decide) (.tag hread hpending .nil)))
  exact ⟨hn, hb, hsealed, (rawText_body_exact hn hb none).2.1.2 hsealed⟩

/-- A comparison in a script hides all that follows it. -/
theorem rawText_body_overrun :
    let name := "script".toList
    let body := "if (a<b) c()".toList
    name ∈ rawTextNames ∧ ¬HoldsCloser name body ∧
      shownBehind name body "Done".toList none = [] ∧
      shownBehind name [] "Done".toList none = "Done".toList := by
  refine ⟨by decide, ?_, by decide +kernel, by decide +kernel⟩
  unfold HoldsCloser
  decide

end SafeOutput.Markup
