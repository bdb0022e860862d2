import Mathlib
import SafeOutput.Proofs.Extraction
import SafeOutput.Proofs.StyleAttribute

namespace SafeOutput.Markup

open Text

variable {opened rest : List Text} {e : Extraction} {token : Token} {tag : BareTag}
  {ts : List Token} {ps : List Piece} {allowed : TagSet}

def Token.bareTag? : Token → Option BareTag
  | .text _ => none
  | .tag it => it.name.map fun name => ⟨name, it.closing⟩

def readTags (ts : List Token) : List BareTag :=
  ts.filterMap Token.bareTag?

theorem readTags_append (ts us : List Token) : readTags (ts ++ us) = readTags ts ++ readTags us :=
  List.filterMap_append

theorem readTags_toTag (tag : BareTag) (ts : List Token) :
    readTags (.tag tag.toTag :: ts) = tag :: readTags ts := rfl

theorem readTags_consChar (c : Char) (ts : List Token) :
    readTags (Token.consChar c ts) = readTags ts := by
  match ts with
  | [] => rfl
  | .text gap :: ts => rfl
  | .tag it :: ts => rfl

theorem readTags_scanned (ps : List Piece) : readTags (scanned ps) = tagsOf ps := by
  induction ps with
  | nil => rfl
  | cons p ps ih =>
    cases p with
    | text gap => rw [scanned, foldr_consChar_eq readTags_consChar, ih, tagsOf]
    | tag it => rw [scanned, readTags_toTag, ih, tagsOf]

def Token.Bare : Token → Prop
  | .text _ => True
  | .tag it => ∃ tag : BareTag, it = tag.toTag ∧ isRawText tag.name = false

theorem bare_of_mem_scanned (hs : ∀ p ∈ ps, p.Safe (· ∈ allowed))
    (hraw : ∀ name ∈ rawTextNames, name ∉ allowed) (h : token ∈ scanned ps) : token.Bare := by
  cases token with
  | text gap => trivial
  | tag it =>
    obtain ⟨tag, htag, rfl⟩ := mem_scanned h
    exact ⟨tag, rfl, (hs _ htag).not_isRawText hraw⟩

theorem tokens_stripTags (g : Grammar) (hne : allowed.isEmpty = false) (t : Text) :
    g.tokens (stripTags (some allowed) t).value = scanned (onePass allowed t) := by
  rw [stripTags_allowed hne, tokens_writePieces g (onePass_safe allowed t)]

/-- The frames inside the open elements. White space is kept in a `pre` and in all that is open
inside it. -/
def framesOf : List Text → List Frame
  | [] => []
  | name :: opened => ⟨name, (name :: opened).contains "pre".toList⟩ :: framesOf opened

@[simp] theorem map_name_framesOf (opened : List Text) :
    (framesOf opened).map Frame.name = opened := by
  induction opened with
  | nil => rfl
  | cons name opened ih => rw [framesOf, List.map_cons, ih]

theorem closeFrames_framesOf (name : Text) (opened : List Text) :
    Extraction.closeFrames name (framesOf (name :: opened)) = framesOf opened :=
  if_pos rfl

namespace Extraction

@[simp] theorem frames_pushGap (e : Extraction) (gap : Text) :
    (e.pushGap gap).frames = e.frames := by
  unfold pushGap
  split
  · rfl
  · rfl

@[simp] theorem frames_freshLine (e : Extraction) : e.freshLine.frames = e.frames := by
  unfold freshLine
  split
  · rfl
  · rfl

@[simp] theorem frames_pushBreak (e : Extraction) (name : Text) (closing : Bool) :
    (e.pushBreak name closing).frames = e.frames := by
  unfold pushBreak
  split
  · rfl
  split
  · rfl
  split
  · exact e.frames_freshLine
  split
  · rfl
  · rfl

/-- A reader inside these elements, and not inside raw text. -/
structure Inside (e : Extraction) (opened : List Text) : Prop where
  frames : e.frames = framesOf opened
  skipping : e.skipping = none

theorem Inside.start : Extraction.start.Inside [] :=
  ⟨rfl, rfl⟩

theorem Inside.names (h : e.Inside opened) : e.frames.map Frame.name = opened := by
  rw [h.frames, map_name_framesOf]

theorem Inside.keepsSpace_eq (h : e.Inside opened) :
    e.keepsSpace = opened.contains "pre".toList := by
  rw [keepsSpace, h.frames]
  cases opened with
  | nil => rfl
  | cons name opened => rfl

theorem Inside.frames_openFrame (h : e.Inside opened) (name : Text) :
    (e.openFrame name []).frames = framesOf (name :: opened) := by
  have hkeeps : (name == "pre".toList || opened.contains "pre".toList) =
      (name :: opened).contains "pre".toList := by
    rw [List.contains_cons, BEq.comm]
  rw [openFrame, attributesKeepSpace_nil, Option.getD_none, h.keepsSpace_eq, h.frames, hkeeps]
  rfl

theorem Inside.pushGap (h : e.Inside opened) (gap : Text) : (e.pushGap gap).Inside opened :=
  ⟨(e.frames_pushGap gap).trans h.frames, (Adds.pushGap h.skipping gap).skipping⟩

theorem pushTag_toTag (h : e.skipping = none) (tag : BareTag) :
    e.pushTag tag.toTag =
      let broken := e.pushBreak tag.name tag.closing
      if tag.closing then { broken with frames := closeFrames tag.name broken.frames }
      else if isVoid tag.name then broken else broken.openFrame tag.name [] := by
  rw [pushTag, h]
  rfl

theorem Inside.pushTag (h : e.Inside opened) (hraw : isRawText tag.name = false)
    (hn : nestStep opened tag = some rest) : (e.pushTag tag.toTag).Inside rest := by
  have hbroken : (e.pushBreak tag.name tag.closing).Inside opened :=
    ⟨(e.frames_pushBreak _ _).trans h.frames, (Adds.pushBreak h.skipping _ hraw).skipping⟩
  rw [pushTag_toTag h.skipping]
  dsimp only
  split
  case isTrue hc =>
    refine ⟨?_, hbroken.skipping⟩
    rw [hbroken.frames, nestStep_of_close hc hn, closeFrames_framesOf]
  case isFalse hc =>
    rw [nestStep_of_open (Bool.eq_false_iff.2 hc), Option.some.injEq] at hn
    rw [← hn]
    split
    · exact hbroken
    · exact ⟨hbroken.frames_openFrame _, hbroken.skipping⟩

theorem Inside.push (h : e.Inside opened) (ht : token.Bare)
    (hn : nest opened (readTags [token]) = some rest) : (e.push token).Inside rest := by
  cases token with
  | text gap =>
    cases hn
    rw [Extraction.push, h.skipping]
    exact h.pushGap gap
  | tag it =>
    obtain ⟨tag, rfl, hraw⟩ := ht
    rw [readTags_toTag, nest_cons] at hn
    obtain ⟨next, hstep, hnil⟩ := Option.bind_eq_some_iff.1 hn
    cases hnil
    exact h.pushTag hraw hstep

/-- The reader stays inside the elements that the tags leave open. -/
theorem Inside.run (h : e.Inside opened) (ht : ∀ token ∈ ts, token.Bare)
    (hn : nest opened (readTags ts) = some rest) : (ts.foldl Extraction.push e).Inside rest := by
  induction ts generalizing e opened with
  | nil =>
    cases hn
    exact h
  | cons token ts ih =>
    obtain ⟨htoken, hts⟩ := List.forall_mem_cons.1 ht
    rw [← List.singleton_append, readTags_append, nest_append] at hn
    obtain ⟨next, hstep, hrest⟩ := Option.bind_eq_some_iff.1 hn
    exact ih (h.push htoken hstep) hts hrest

theorem exists_inside {before after : List Token} (ht : ∀ token ∈ before, token.Bare)
    (hn : nest [] (readTags (before ++ after)) = some rest) :
    ∃ opened, nest [] (readTags before) = some opened ∧
      (before.foldl Extraction.push .start).Inside opened ∧
      nest opened (readTags after) = some rest := by
  rw [readTags_append, nest_append] at hn
  obtain ⟨opened, hbefore, hafter⟩ := Option.bind_eq_some_iff.1 hn
  exact ⟨opened, hbefore, Inside.start.run ht hbefore, hafter⟩

/-- Where the tags nest, a closer takes off one frame, its own. -/
theorem Inside.frames_closer (h : e.Inside opened) {it : Tag} (ht : Token.Bare (.tag it))
    (hc : it.closing = true) (hn : nest opened (readTags (.tag it :: ts)) = some rest) :
    ∃ f : Frame, some f.name = it.name ∧ e.frames = f :: (e.push (.tag it)).frames := by
  obtain ⟨tag, rfl, hraw⟩ := ht
  rw [readTags_toTag, nest_cons] at hn
  obtain ⟨next, hstep, -⟩ := Option.bind_eq_some_iff.1 hn
  have hnext := h.pushTag hraw hstep
  rw [nestStep_of_close hc hstep] at h
  refine ⟨⟨tag.name, (tag.name :: next).contains "pre".toList⟩, rfl, ?_⟩
  rw [Extraction.push, hnext.frames]
  exact h.frames

end Extraction

/-- Reading filtered markup as plain text keeps step with the balancing that wrote it. Both grammars
find the same tags in the same places, those that balancing emits. Up to any point, the frames of
the reader are the elements open there, white space is kept just inside a `pre`, and nothing is
skipped; each closer takes off one frame, its own, and none is left at the end. -/
theorem stripTags_frames (allowed : TagSet) (hne : allowed.isEmpty = false)
    (hraw : ∀ name ∈ rawTextNames, name ∉ allowed) (t : Text) :
    let out := (stripTags (some allowed) t).value
    let ts := Grammar.document.tokens out
    spans ts = spans (Grammar.markup.tokens out) ∧
      readTags ts = (balance (keptTags allowed (Grammar.markup.tokens t))).emitted ∧
      (∀ before after, ts = before ++ after →
        let e := before.foldl Extraction.push .start
        nest [] (readTags before) = some (e.frames.map Frame.name) ∧
          (e.keepsSpace ↔ "pre".toList ∈ e.frames.map Frame.name) ∧
          e.skipping = none ∧
          ∀ it more, after = .tag it :: more → it.closing = true →
            ∃ f : Frame, some f.name = it.name ∧ e.frames = f :: (e.push (.tag it)).frames) ∧
      (ts.foldl Extraction.push .start).frames = [] := by
  intro out ts
  have hdocument : ts = scanned (onePass allowed t) := tokens_stripTags .document hne t
  have htags : readTags ts = tagsOf (onePass allowed t) := by
    rw [hdocument, readTags_scanned]
  have hbare : ∀ token ∈ ts, token.Bare := by
    intro token hm
    rw [hdocument] at hm
    exact bare_of_mem_scanned (onePass_safe allowed t) hraw hm
  have hnest : nest [] (readTags ts) = some [] := by
    rw [htags]
    exact onePass_wellNested allowed t
  refine ⟨?_, ?_, ?_, ?_⟩
  · rw [hdocument, tokens_stripTags .markup hne t]
  · rw [htags, tagsOf_onePass]
  · intro before after hts e
    rw [hts] at hnest
    rw [hts, List.forall_mem_append] at hbare
    obtain ⟨opened, hbefore, hinside, hafter⟩ := Extraction.exists_inside hbare.1 hnest
    refine ⟨?_, ?_, hinside.skipping, ?_⟩
    · rw [hbefore, hinside.names]
    · rw [hinside.keepsSpace_eq, hinside.names, List.contains_iff_mem]
    · intro it more hit hc
      rw [hit] at hafter hbare
      exact hinside.frames_closer (hbare.2 _ List.mem_cons_self) hc hafter
  · exact (Extraction.Inside.start.run hbare hnest).frames

/-- The closer of the `pre` is not the innermost, so the one of the `b` is put before it; the line
break opens nothing. -/
theorem stripTags_frames_misnested :
    let allowed := TagSet.ofList ["b".toList, "br".toList, "pre".toList]
    let b := "b".toList
    let pre := "pre".toList
    let before : List Token := [.tag (BareTag.opener pre).toTag, .tag (BareTag.opener b).toTag,
      .text "x".toList, .tag (BareTag.opener "br".toList).toTag]
    let closer : Token := .tag (BareTag.closer b).toTag
    let e := before.foldl Extraction.push .start
    allowed.isEmpty = false ∧ (∀ name ∈ rawTextNames, name ∉ allowed) ∧
      Grammar.document.tokens (stripTags (some allowed) "<pre><b>x</i><br></pre>y".toList).value =
        before ++ [closer, .tag (BareTag.closer pre).toTag, .text "y".toList] ∧
      nest [] (readTags before) = some [b, pre] ∧ e.frames.map Frame.name = [b, pre] ∧
      e.keepsSpace = true ∧ ∃ f : Frame, f.name = b ∧ e.frames = f :: (e.push closer).frames := by
  intro allowed b pre before closer e
  have hne : allowed.isEmpty = false := by decide
  have hraw : ∀ name ∈ rawTextNames, name ∉ allowed := by
    have hall : rawTextNames.all fun name => !allowed.contains name := by decide
    intro name hm ha
    have hn := List.all_eq_true.1 hall name hm
    rw [TagSet.contains_iff.2 ha] at hn
    cases hn
  have htokens :
      Grammar.document.tokens (stripTags (some allowed) "<pre><b>x</i><br></pre>y".toList).value =
        before ++ [closer, .tag (BareTag.closer pre).toTag, .text "y".toList] := by
    have hbalance (ts : List BareTag) : balance ts = stackBalance ts := by
      rw [balance_eq, stackBalance, ← run_empty_eq]
    rw [stripTags_allowed hne, onePass, hbalance]
    decide +kernel
  obtain ⟨-, -, hsteps, -⟩ := stripTags_frames allowed hne hraw "<pre><b>x</i><br></pre>y".toList
  obtain ⟨hnest, hkeeps, -, hcloser⟩ := hsteps before _ htokens
  have hopened : nest [] (readTags before) = some [b, pre] := by decide
  have hnames : e.frames.map Frame.name = [b, pre] := by
    rw [hopened, Option.some.injEq] at hnest
    exact hnest.symm
  refine ⟨hne, hraw, htokens, hopened, hnames, ?_, ?_⟩
  · apply hkeeps.2
    rw [hnames]
    decide
  · obtain ⟨f, hname, hframes⟩ := hcloser _ _ rfl rfl
    exact ⟨f, Option.some.inj hname, hframes⟩

end SafeOutput.Markup
