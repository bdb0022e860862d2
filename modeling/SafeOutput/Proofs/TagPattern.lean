import Mathlib
import SafeOutput.Proofs.Masking
import SafeOutput.Proofs.Pattern

namespace SafeOutput.Markup

open Text

variable {c q : Char} {cs u rest : Text} {g : Grammar} {closing : Bool}

def quotedRun (q : Char) : Pattern :=
  .seq (.one (· == q)) (.seq (.many true (.one (· != q))) (.one (· == q)))

/-- One step behind a name: a character that is neither `>` nor a quote, or a quoted run. -/
def attributeStep : Pattern :=
  .alt (.one fun c => c != '>' && !isQuote c) (.alt (quotedRun '"') (quotedRun '\''))

def attributeRun : Pattern :=
  .many true attributeStep

def Grammar.nameRun (g : Grammar) : Pattern :=
  .seq (.one g.startsName) (.many true (.one g.continuesName))

def slashRun : Pattern :=
  .alt (.one (· == '/')) .nothing

/-- A name and the slash before it. The first group has the slash in documents only. -/
def Grammar.headRun : Grammar → Pattern
  | .markup => .seq slashRun (.group 1 Grammar.markup.nameRun)
  | .document => .group 1 (.seq slashRun Grammar.document.nameRun)

def commentRun : Pattern :=
  .seq (.word "!--".toList) (.seq (.many false (.one (· != '\n'))) (.word "--".toList))

/-- The tags of a grammar, with the name in the first group and, in documents, the attributes in the
second. -/
def Grammar.pattern : Grammar → Pattern
  | .markup =>
    .seq (.one (· == '<')) (.seq (.alt (.one (· == '!')) Grammar.markup.headRun)
      (.seq attributeRun (.one (· == '>'))))
  | .document =>
    .seq (.one (· == '<')) (.seq
      (.alt commentRun
        (.seq (.alt (.one (· == '!')) Grammar.document.headRun) (.group 2 attributeRun)))
      (.one (· == '>')))

def Grammar.tagOf : Grammar → Hit → Tag
  | .markup, h =>
    ⟨h.taken, (h.groups.lookup 1).map lowercase, h.taken[1]? == some '/', []⟩
  | .document, h =>
    match h.groups.lookup 1 with
    | some ('/' :: name) => ⟨h.taken, some (lowercase name), true, (h.groups.lookup 2).getD []⟩
    | some name => ⟨h.taken, some (lowercase name), false, (h.groups.lookup 2).getD []⟩
    | none => ⟨h.taken, none, false, (h.groups.lookup 2).getD []⟩

def splitQuote (q : Char) : Text → Option (Text × Text)
  | [] => none
  | c :: cs =>
    if c = q then some ([], cs)
    else (splitQuote q cs).map fun (body, rest) => (c :: body, rest)

theorem splitQuote_eq_some {body : Text} (h : splitQuote q cs = some (body, rest)) :
    cs = body ++ q :: rest ∧ q ∉ body := by
  induction cs generalizing body with
  | nil => cases h
  | cons c cs ih =>
    rw [splitQuote] at h
    split at h
    case isTrue hc =>
      cases h
      exact ⟨by rw [hc]; rfl, List.not_mem_nil⟩
    case isFalse hc =>
      obtain ⟨⟨b, r⟩, hb, he⟩ := Option.map_eq_some_iff.1 h
      cases he
      obtain ⟨rfl, hq⟩ := ih hb
      exact ⟨rfl, List.not_mem_cons_of_ne_of_not_mem (Ne.symm hc) hq⟩

/-- Inside quotes the search for the end of a tag goes on behind the closing quote. -/
theorem splitTail_some (q : Char) (cs : Text) :
    splitTail (some q) cs = (splitQuote q cs).bind fun parts =>
      (splitTail none parts.2).map fun found => (parts.1 ++ q :: found.1, found.2) := by
  induction cs with
  | nil => rfl
  | cons c cs ih =>
    rw [splitTail, splitQuote]
    by_cases hc : c = q
    · subst c
      rw [if_pos rfl, if_pos rfl]
      rfl
    · rw [if_neg hc, if_neg hc, ih]
      cases splitQuote q cs with
      | none => rfl
      | some parts =>
        rw [Option.bind_some, Option.map_map]
        rfl

theorem hits_quoteTail (q : Char) (cs : Text) :
    (Pattern.seq (.many true (.one (· != q))) (.one (· == q))).hits cs =
      ((splitQuote q cs).map fun parts => Hit.mk (parts.1 ++ [q]) [] parts.2).toList := by
  induction cs with
  | nil =>
    rw [Pattern.hits_many_one_seq_nil]
    rfl
  | cons c cs ih =>
    by_cases hc : c = q
    · subst c
      rw [Pattern.hits_many_one_seq_of_not (by simp), Pattern.hits, splitQuote, if_pos (by simp),
        if_pos rfl]
      rfl
    · rw [Pattern.hits_many_one_seq (by simpa using hc), if_pos rfl, ih, Pattern.hits, splitQuote,
        if_neg (by simpa using hc), if_neg hc, List.append_nil]
      cases splitQuote q cs with
      | none => rfl
      | some parts => rfl

theorem hits_quotedRun (q : Char) (cs : Text) :
    (quotedRun q).hits (q :: cs) =
      ((splitQuote q cs).map fun parts => Hit.mk (q :: (parts.1 ++ [q])) [] parts.2).toList := by
  rw [quotedRun, Pattern.hits_one_seq (by simp), hits_quoteTail]
  cases splitQuote q cs with
  | none => rfl
  | some parts => rfl

theorem hits_quotedRun_of_ne (hc : c ≠ q) (cs : Text) : (quotedRun q).hits (c :: cs) = [] :=
  Pattern.hits_one_seq_of_not (by simpa using hc) _ _

theorem isQuote_iff : isQuote c ↔ c = '"' ∨ c = '\'' := by
  simp only [isQuote, Bool.or_eq_true, beq_iff_eq]

theorem hits_attributeStep_plain (hgt : c ≠ '>') (hq : isQuote c = false) (cs : Text) :
    attributeStep.hits (c :: cs) = [⟨[c], [], cs⟩] := by
  have hd : c ≠ '"' := by
    rintro rfl
    cases hq
  have hs : c ≠ '\'' := by
    rintro rfl
    cases hq
  have hone : (c != '>' && !isQuote c) = true := by
    rw [hq, bne_iff_ne.2 hgt]
    rfl
  rw [attributeStep, Pattern.hits, Pattern.hits, if_pos hone, Pattern.hits,
    hits_quotedRun_of_ne hd, hits_quotedRun_of_ne hs]
  rfl

theorem hits_attributeStep_end (cs : Text) : attributeStep.hits ('>' :: cs) = [] := by
  rw [attributeStep, Pattern.hits, Pattern.hits, if_neg (by decide), Pattern.hits,
    hits_quotedRun_of_ne (by decide), hits_quotedRun_of_ne (by decide)]
  rfl

theorem hits_attributeStep_quote (hq : isQuote q = true) (cs : Text) :
    attributeStep.hits (q :: cs) =
      ((splitQuote q cs).map fun parts => Hit.mk (q :: (parts.1 ++ [q])) [] parts.2).toList := by
  have hone : ¬(q != '>' && !isQuote q) = true := by
    rw [hq]
    simp
  rw [attributeStep, Pattern.hits, Pattern.hits, if_neg hone, Pattern.hits, List.nil_append]
  rcases isQuote_iff.1 hq with rfl | rfl
  · rw [hits_quotedRun, hits_quotedRun_of_ne (by decide), List.append_nil]
  · rw [hits_quotedRun_of_ne (by decide), hits_quotedRun, List.nil_append]

def stopsAtEnd (h : Hit) : Bool :=
  h.rest.head? == some '>'

theorem filter_stopsAtEnd_map (h : Hit) (hs : List Hit) :
    (hs.map h.andThen).filter stopsAtEnd = (hs.filter stopsAtEnd).map h.andThen := by
  rw [List.filter_map]
  rfl

theorem filter_hits_attributeRun_cons (hgt : c ≠ '>') (cs : Text) :
    (attributeRun.hits (c :: cs)).filter stopsAtEnd =
      (attributeStep.hits (c :: cs)).flatMap fun h =>
        if h.rest.length < (c :: cs).length then
          ((attributeRun.hits h.rest).filter stopsAtEnd).map h.andThen
        else [] := by
  have hstay : ¬stopsAtEnd (.nothing (c :: cs)) = true := by
    simpa [stopsAtEnd, Hit.nothing] using hgt
  rw [attributeRun, Pattern.hits_many]
  dsimp only
  rw [if_pos rfl, List.filter_append, List.filter_cons_of_neg hstay, List.filter_nil,
    List.append_nil, List.filter_flatMap]
  congr 1
  funext h
  split
  · exact filter_stopsAtEnd_map h _
  · rfl

/-- Of all that a run of attributes can take, only one stops before `>`. -/
theorem filter_hits_attributeRun (cs : Text) :
    (attributeRun.hits cs).filter stopsAtEnd =
      ((splitTail none cs).map fun found => Hit.mk found.1 [] ('>' :: found.2)).toList := by
  induction hn : cs.length using Nat.strong_induction_on generalizing cs with
  | _ n ih =>
    subst hn
    cases cs with
    | nil =>
      rw [attributeRun, Pattern.hits_many]
      rfl
    | cons c cs =>
      by_cases hgt : c = '>'
      · subst c
        rw [attributeRun, Pattern.hits_many, hits_attributeStep_end, splitTail, if_pos rfl]
        rfl
      rw [filter_hits_attributeRun_cons hgt, splitTail, if_neg hgt]
      cases hq : isQuote c with
      | false =>
        have hlen : cs.length < (c :: cs).length := Nat.lt_succ_self _
        rw [hits_attributeStep_plain hgt hq, List.flatMap_singleton, if_pos hlen,
          ih cs.length hlen cs rfl, if_neg Bool.false_ne_true]
        cases splitTail none cs with
        | none => rfl
        | some found => rfl
      | true =>
        rw [hits_attributeStep_quote hq, if_pos rfl, splitTail_some]
        cases hsplit : splitQuote c cs with
        | none => rfl
        | some parts =>
          obtain ⟨body, rest⟩ := parts
          have hlen : rest.length < (c :: cs).length := by
            have hcs := congrArg List.length (splitQuote_eq_some hsplit).1
            simp only [List.length_append, List.length_cons] at hcs ⊢
            omega
          rw [Option.map_some, Option.toList_some, List.flatMap_singleton, if_pos hlen,
            ih rest.length hlen rest rfl, Option.bind_some, Option.map_map]
          cases splitTail none rest with
          | none => rfl
          | some found => simp [Hit.andThen]

theorem flatMap_hits_attributeRun {f : Hit → List Hit} (hf : ∀ h, stopsAtEnd h = false → f h = [])
    (cs : Text) :
    (attributeRun.hits cs).flatMap f =
      (((splitTail none cs).map fun found => Hit.mk found.1 [] ('>' :: found.2)).toList).flatMap
        f := by
  rw [← filter_hits_attributeRun]
  induction attributeRun.hits cs with
  | nil => rfl
  | cons h hs ih =>
    cases hh : stopsAtEnd h with
    | true => rw [List.filter_cons_of_pos hh, List.flatMap_cons, List.flatMap_cons, ih]
    | false =>
      rw [List.filter_cons_of_neg (by simp [hh]), List.flatMap_cons, hf h hh, ih, List.nil_append]

def Grammar.tailRun : Grammar → Pattern
  | .markup => .seq attributeRun (.one (· == '>'))
  | .document => .seq (.group 2 attributeRun) (.one (· == '>'))

def Grammar.attributeGroup : Grammar → Text → List (Nat × Text)
  | .markup, _ => []
  | .document, attrs => [(2, attrs)]

theorem hits_end_of_not_stops (h : Hit) (hs : stopsAtEnd h = false) :
    (Pattern.one (· == '>')).hits h.rest = [] := by
  cases hr : h.rest with
  | nil => rfl
  | cons c cs =>
    rw [stopsAtEnd, hr, List.head?_cons, Option.some_beq_some] at hs
    rw [Pattern.hits, hs]
    rfl

theorem hits_tailRun (g : Grammar) (cs : Text) :
    g.tailRun.hits cs = ((splitTail none cs).map fun found =>
      Hit.mk (found.1 ++ ['>']) (g.attributeGroup found.1) found.2).toList := by
  cases g with
  | markup =>
    rw [Grammar.tailRun, Pattern.hits, flatMap_hits_attributeRun]
    · cases splitTail none cs with
      | none => rfl
      | some found => rfl
    · intro h hs
      rw [hits_end_of_not_stops h hs]
      rfl
  | document =>
    rw [Grammar.tailRun, Pattern.hits, Pattern.hits, List.flatMap_map, flatMap_hits_attributeRun]
    · cases splitTail none cs with
      | none => rfl
      | some found => rfl
    · intro h hs
      rw [Hit.named, hits_end_of_not_stops h hs]
      rfl

theorem hits_tailRun_eq_nil_iff : g.tailRun.hits cs = [] ↔ splitTail none cs = none := by
  rw [hits_tailRun, Option.toList_eq_nil_iff, Option.map_eq_none_iff]

theorem first?_tailRun (g : Grammar) (cs : Text) :
    g.tailRun.first? cs = (splitTail none cs).map fun found =>
      Hit.mk (found.1 ++ ['>']) (g.attributeGroup found.1) found.2 := by
  rw [Pattern.first?, hits_tailRun, Option.head?_toList]

theorem not_special_of_continuesName (h : g.continuesName c) : c ≠ '>' ∧ isQuote c = false := by
  have hspecial : c ≠ '>' ∧ c ≠ '"' ∧ c ≠ '\'' := by
    refine ⟨?_, ?_, ?_⟩ <;> (rintro rfl; cases g <;> exact absurd h (by decide))
  refine ⟨hspecial.1, ?_⟩
  rw [Bool.eq_false_iff, Ne, isQuote_iff, not_or]
  exact hspecial.2

/-- Where no tag ends, none ends behind fewer characters of its name. -/
theorem hits_tailRun_append (hu : ∀ c ∈ u, g.continuesName c) (h : g.tailRun.hits cs = []) :
    g.tailRun.hits (u ++ cs) = [] := by
  rw [hits_tailRun_eq_nil_iff] at h ⊢
  have happend : splitTail none (u ++ cs) = _ :=
    splitTail_append (fun _ hd => by cases hd) fun c hc => not_special_of_continuesName (hu c hc)
  rw [happend, h]
  rfl

def slashText (closing : Bool) : Text :=
  if closing then ['/'] else []

def Grammar.nameGroup : Grammar → Bool → Text → Text
  | .markup, _, name => name
  | .document, closing, name => slashText closing ++ name

theorem not_startsName_slash (g : Grammar) : g.startsName '/' = false := by
  cases g <;> decide

theorem not_startsName_bang (g : Grammar) : g.startsName '!' = false := by
  cases g <;> decide

theorem hits_nameRun_of_not (hc : g.startsName c = false) (cs : Text) :
    g.nameRun.hits (c :: cs) = [] :=
  Pattern.hits_one_seq_of_not hc _ _

theorem hits_slashRun (cs : Text) :
    slashRun.hits ('/' :: cs) = [⟨['/'], [], cs⟩, .nothing ('/' :: cs)] := rfl

theorem hits_slashRun_of_ne (hc : c ≠ '/') (cs : Text) :
    slashRun.hits (c :: cs) = [.nothing (c :: cs)] := by
  rw [slashRun, Pattern.hits, Pattern.hits, Pattern.hits, if_neg (by simpa using hc)]
  rfl

def Grammar.headHit (g : Grammar) (closing : Bool) (h : Hit) : Hit :=
  ⟨slashText closing ++ h.taken, (1, g.nameGroup closing h.taken) :: h.groups, h.rest⟩

theorem hits_headRun_closing (g : Grammar) (cs : Text) :
    g.headRun.hits ('/' :: cs) = (g.nameRun.hits cs).map (g.headHit true) := by
  have hnone := hits_nameRun_of_not (not_startsName_slash g) cs
  cases g with
  | markup =>
    rw [Grammar.headRun, Pattern.hits, hits_slashRun, List.flatMap_cons, List.flatMap_cons,
      Pattern.hits, Pattern.hits]
    simp only [Hit.nothing, hnone, List.map_nil, List.flatMap_nil, List.append_nil, List.map_map]
    rfl
  | document =>
    rw [Grammar.headRun, Pattern.hits, Pattern.hits, hits_slashRun, List.flatMap_cons,
      List.flatMap_cons]
    simp only [Hit.nothing, hnone, List.map_nil, List.flatMap_nil, List.append_nil, List.map_map]
    rfl

theorem hits_headRun_opening (hc : c ≠ '/') (cs : Text) :
    g.headRun.hits (c :: cs) = (g.nameRun.hits (c :: cs)).map (g.headHit false) := by
  cases g with
  | markup =>
    rw [Grammar.headRun, Pattern.hits, hits_slashRun_of_ne hc, List.flatMap_singleton,
      Pattern.hits, List.map_map]
    rfl
  | document =>
    rw [Grammar.headRun, Pattern.hits, Pattern.hits, hits_slashRun_of_ne hc,
      List.flatMap_singleton, List.map_map]
    rfl

/-- The name of a tag is taken as long as possible, and a tag that does not end then does not end
with a shorter name either. -/
theorem first?_nameRun_tail (f : Hit → Hit) (hf : ∀ h, (f h).rest = h.rest) (hc : g.startsName c)
    {a : Pattern} {t : Text} (ha : a.hits t = (g.nameRun.hits (c :: cs)).map f) :
    (Pattern.seq a g.tailRun).first? t =
      (g.tailRun.first? (cs.dropWhile g.continuesName)).map
        (f ⟨c :: cs.takeWhile g.continuesName, [], cs.dropWhile g.continuesName⟩).andThen := by
  obtain ⟨shorter, hs, hrest⟩ := Pattern.hits_greedy_one g.continuesName cs
  have hname : g.nameRun.hits (c :: cs) =
      ⟨c :: cs.takeWhile g.continuesName, [], cs.dropWhile g.continuesName⟩ ::
        shorter.map (Hit.after [c]) := by
    rw [Grammar.nameRun, Pattern.hits_one_seq hc, hs]
    rfl
  rw [hname, List.map_cons] at ha
  have hfirst := Pattern.first?_seq (b := g.tailRun) ha
  rw [hf] at hfirst
  apply hfirst
  intro hnil k hk
  obtain ⟨l, hl, rfl⟩ := List.mem_map.1 hk
  obtain ⟨m, hm, rfl⟩ := List.mem_map.1 hl
  obtain ⟨u, hu, hname⟩ := hrest m hm
  rw [hf]
  change g.tailRun.hits m.rest = []
  rw [hu]
  exact hits_tailRun_append hname hnil

theorem tagOf_element (hc : c ≠ '/') (closing : Bool) (name attrs rest : Text) :
    g.tagOf ⟨'<' :: (slashText closing ++ (c :: name) ++ (attrs ++ ['>'])),
        (1, g.nameGroup closing (c :: name)) :: g.attributeGroup attrs, rest⟩ =
      ⟨(if closing then "</" else "<").toList ++ (c :: name) ++ attrs ++ ['>'],
        some (lowercase (c :: name)), closing, g.report attrs⟩ := by
  cases g with
  | markup =>
    cases closing <;> simp [Grammar.tagOf, slashText, Grammar.nameGroup, Grammar.report, hc]
  | document =>
    have hattrs (name : Text) : List.lookup 2 [(1, name), (2, attrs)] = some attrs := rfl
    cases closing <;>
      simp [Grammar.tagOf, slashText, Grammar.nameGroup, Grammar.attributeGroup, Grammar.report,
        hattrs, hc]

def Grammar.found (g : Grammar) (h : Hit) : Tag × Text :=
  (g.tagOf (h.after ['<']), h.rest)

theorem first?_element {a : Pattern} {t : Text} (closing : Bool)
    (ha : a.hits t = (g.nameRun.hits cs).map (g.headHit closing)) :
    ((Pattern.seq a g.tailRun).first? t).map g.found = g.elementAt closing cs := by
  have hnone (hn : g.nameRun.hits cs = []) : (Pattern.seq a g.tailRun).first? t = none := by
    rw [Pattern.first?, Pattern.hits, ha, hn]
    rfl
  cases cs with
  | nil =>
    rw [hnone rfl]
    rfl
  | cons c cs =>
    cases hc : g.startsName c with
    | false =>
      rw [hnone (hits_nameRun_of_not hc cs), Grammar.elementAt, hc, if_neg Bool.false_ne_true]
      rfl
    | true =>
      have hslash : c ≠ '/' := by
        rintro rfl
        rw [not_startsName_slash] at hc
        cases hc
      rw [first?_nameRun_tail (g.headHit closing) (fun _ => rfl) hc ha, first?_tailRun,
        Grammar.elementAt, hc, if_pos rfl, Option.map_map, Option.map_map]
      congr 1
      funext found
      exact congrArg (·, found.2) (tagOf_element hslash closing _ found.1 found.2)

theorem first?_declaration (g : Grammar) (cs : Text) :
    (g.tailRun.first? cs).map (g.found ∘ Hit.after ['!']) = g.declarationAt cs := by
  rw [first?_tailRun, Grammar.declarationAt, Option.map_map]
  congr 1
  funext found
  cases g with
  | markup => rfl
  | document => rfl

def Grammar.opening (g : Grammar) : Pattern :=
  .seq (.alt (.one (· == '!')) g.headRun) g.tailRun

def Grammar.openingAt (g : Grammar) : Text → Option (Tag × Text)
  | '!' :: cs => g.declarationAt cs
  | '/' :: cs => g.elementAt true cs
  | cs => g.elementAt false cs

def behindBang? : Text → Option Text
  | '!' :: cs => some cs
  | _ => none

theorem behindBang?_of_ne (hc : c ≠ '!') (cs : Text) : behindBang? (c :: cs) = none := by
  rw [behindBang?]
  rintro us ⟨⟩
  exact hc rfl

theorem Grammar.tagAt_eq_or (g : Grammar) (cs : Text) :
    g.tagAt cs = ((behindBang? cs).bind g.commentAt).or (g.openingAt cs) := by
  cases cs with
  | nil => rfl
  | cons c cs =>
    by_cases hb : c = '!'
    · subst c
      rw [behindBang?, Option.bind_some, tagAt, openingAt]
      cases g.commentAt cs with
      | none => rfl
      | some found => rfl
    rw [behindBang?_of_ne hb]
    by_cases hs : c = '/'
    · subst c
      rfl
    · rw [tagAt_cons_of_ne hb hs, openingAt]
      · rfl
      · rintro us ⟨⟩
        exact hb rfl
      · rintro us ⟨⟩
        exact hs rfl

theorem first?_opening (g : Grammar) (cs : Text) :
    (g.opening.first? cs).map g.found = g.openingAt cs := by
  have hhits : g.opening.hits cs = (Pattern.seq (.one (· == '!')) g.tailRun).hits cs ++
      (Pattern.seq g.headRun g.tailRun).hits cs := Pattern.hits_alt_seq _ _ _ cs
  have helement (hbang : ∀ ds, cs ≠ '!' :: ds) :
      g.opening.first? cs = (Pattern.seq g.headRun g.tailRun).first? cs := by
    have hnil : (Pattern.seq (.one (· == '!')) g.tailRun).hits cs = [] := by
      cases cs with
      | nil => rfl
      | cons c ds =>
        apply Pattern.hits_one_seq_of_not
        rw [beq_eq_false_iff_ne]
        rintro rfl
        exact hbang ds rfl
    rw [Pattern.first?, hhits, hnil]
    rfl
  unfold Grammar.openingAt
  split
  case h_1 ds =>
    have hhead : (Pattern.seq g.headRun g.tailRun).hits ('!' :: ds) = [] := by
      rw [Pattern.hits, hits_headRun_opening (by decide),
        hits_nameRun_of_not (not_startsName_bang g)]
      rfl
    rw [Pattern.first?, hhits, hhead, List.append_nil, Pattern.hits_one_seq rfl, List.head?_map,
      Option.map_map]
    exact first?_declaration g ds
  case h_2 ds =>
    rw [helement (by simp)]
    exact first?_element true (hits_headRun_closing g ds)
  case h_3 hbang hslash =>
    rw [helement hbang]
    apply first?_element
    cases cs with
    | nil => cases g <;> rfl
    | cons c ds =>
      apply hits_headRun_opening
      rintro rfl
      exact hslash ds rfl

theorem first?_commentTail (cs : Text) :
    (Pattern.seq (.many false (.one (· != '\n'))) (.word "-->".toList)).first? cs =
      (splitComment cs).map fun found => Hit.mk (found.1 ++ "-->".toList) [] found.2 := by
  induction cs with
  | nil =>
    rw [Pattern.first?, Pattern.hits_many_one_seq_nil]
    rfl
  | cons c cs ih =>
    rw [splitComment, Pattern.first?]
    by_cases hw : ['-', '-', '>'].isPrefixOf (c :: cs) = true
    · have hline : c ≠ '\n' := by
        rintro rfl
        simp at hw
      have hword : (Pattern.word "-->".toList).hits (c :: cs) =
          [⟨"-->".toList, [], cs.drop 2⟩] := by
        have hp : "-->".toList <+: c :: cs := List.isPrefixOf_iff_prefix.1 hw
        rw [Pattern.hits_word, if_pos hp]
        rfl
      rw [if_pos hw, Pattern.hits_many_one_seq (by simpa using hline), if_neg Bool.false_ne_true,
        hword]
      rfl
    · have hword : (Pattern.word "-->".toList).hits (c :: cs) = [] := by
        rw [Pattern.hits_word, if_neg]
        exact fun hp => hw (List.isPrefixOf_iff_prefix.2 hp)
      rw [if_neg hw]
      by_cases hline : c = '\n'
      · rw [if_pos hline, Pattern.hits_many_one_seq_of_not (by simpa using hline), hword]
        rfl
      · rw [if_neg hline, Pattern.hits_many_one_seq (by simpa using hline),
          if_neg Bool.false_ne_true, hword, List.nil_append, List.head?_map, ← Pattern.first?, ih,
          Option.map_map, Option.map_map]
        rfl

theorem hits_commentEnd (cs : Text) :
    (Pattern.seq commentRun (.one (· == '>'))).hits cs =
      (Pattern.seq (.word "!--".toList)
        (.seq (.many false (.one (· != '\n'))) (.word "-->".toList))).hits cs := by
  rw [commentRun, Pattern.hits_seq_seq]
  apply Pattern.hits_seq_congr
  intro t
  rw [Pattern.hits_seq_seq]
  exact Pattern.hits_seq_congr (Pattern.hits_word_seq "--".toList '>') _ t

theorem first?_comment (cs : Text) :
    ((Pattern.seq commentRun (.one (· == '>'))).first? cs).map Grammar.document.found =
      (behindBang? cs).bind Grammar.document.commentAt := by
  have hnone (hw : ¬"!--".toList <+: cs) :
      (Pattern.seq commentRun (.one (· == '>'))).first? cs = none := by
    rw [Pattern.first?, hits_commentEnd, Pattern.hits, Pattern.hits_word, if_neg hw]
    rfl
  by_cases hw : "!--".toList <+: cs
  · obtain ⟨ds, rfl⟩ := hw
    have hword : (Pattern.word "!--".toList).hits ("!--".toList ++ ds) =
        [⟨"!--".toList, [], ds⟩] := by
      rw [Pattern.hits_word, if_pos (List.prefix_append _ _)]
      rfl
    have hfirst := Pattern.first?_seq
      (b := .seq (.many false (.one (· != '\n'))) (.word "-->".toList)) hword (by simp)
    rw [Pattern.first?, hits_commentEnd, ← Pattern.first?, hfirst, first?_commentTail,
      Option.map_map, Option.map_map]
    rfl
  · rw [hnone hw]
    unfold behindBang?
    split
    case h_1 ds =>
      rw [Option.bind_some]
      unfold Grammar.commentAt
      split
      case h_1 es => exact absurd (List.prefix_append _ _) hw
      case h_2 => rfl
    case h_2 => rfl

/-- The tag that backtracking settles on behind `<` is the tag that is read there. -/
theorem Grammar.first?_pattern (g : Grammar) (cs : Text) :
    (g.pattern.first? ('<' :: cs)).map (fun h => (g.tagOf h, h.rest)) = g.tagAt cs := by
  rw [tagAt_eq_or, ← first?_opening]
  cases g with
  | markup =>
    have hlt : Grammar.markup.pattern.hits ('<' :: cs) =
        (Grammar.markup.opening.hits cs).map (Hit.after ['<']) := Pattern.hits_one_seq rfl _ cs
    have hcomment : (behindBang? cs).bind Grammar.markup.commentAt = none := by
      cases behindBang? cs <;> rfl
    rw [Pattern.first?, hlt, List.head?_map, Option.map_map, hcomment, Option.none_or]
    rfl
  | document =>
    have hlt : Grammar.document.pattern.hits ('<' :: cs) =
        ((Pattern.seq commentRun (.one (· == '>'))).hits cs ++
          Grammar.document.opening.hits cs).map (Hit.after ['<']) := by
      rw [Grammar.pattern, Pattern.hits_one_seq rfl, Pattern.hits_alt_seq,
        Pattern.hits_seq_seq (.alt _ _)]
      rfl
    rw [Pattern.first?, hlt, List.head?_map, Option.map_map, List.head?_append, ← first?_comment,
      ← Option.map_or]
    rfl

theorem Grammar.hits_pattern_of_ne (hc : c ≠ '<') (cs : Text) : g.pattern.hits (c :: cs) = [] := by
  cases g <;> exact Pattern.hits_one_seq_of_not (by simpa using hc) _ _

theorem Grammar.hits_pattern_nil (g : Grammar) : g.pattern.hits [] = [] := by
  cases g <;> rfl

end SafeOutput.Markup
