import Mathlib
import SafeOutput.Proofs.Balancing
import SafeOutput.Proofs.Decoding
import SafeOutput.Proofs.Pipeline

namespace SafeOutput.Markup

open Text Escape

variable {c : Char} {t u gap : Text} {e : Extraction} {token : Token} {ts : List Token}
  {allowed : TagSet} {rendered : List (List BareTag)} {ps : List Piece}

def plainSpace (c : Char) : Char :=
  if c = '\u00a0' then ' ' else c

section Runs

variable {run : Text} {rs : List Text}

/-- A text as its longest runs of white space and of other characters. -/
def spaceRuns (t : Text) : List Text :=
  t.splitBy fun c d => isHtmlSpace c == isHtmlSpace d

/-- The text with one space for each of its longest runs of white space. -/
def singleSpaced (t : Text) : Text :=
  (spaceRuns t).flatMap fun run => if run.all isHtmlSpace then [' '] else run

theorem collapseSpace_of_not (h : ∀ c ∈ t.head?, isHtmlSpace c = false) (inRun : Bool) :
    collapseSpace inRun t = collapseSpace false t := by
  cases t with
  | nil => rfl
  | cons c cs =>
    have hc : ¬isHtmlSpace c = true := by
      rw [h c rfl]
      exact Bool.false_ne_true
    rw [collapseSpace, collapseSpace, if_neg hc, if_neg hc]

theorem collapseSpace_solid (h : ∀ c ∈ run, isHtmlSpace c = false) (t : Text) :
    collapseSpace false (run ++ t) = run ++ collapseSpace false t := by
  induction run with
  | nil => rfl
  | cons c run ih =>
    obtain ⟨hc, hrun⟩ := List.forall_mem_cons.1 h
    have hn : ¬isHtmlSpace c = true := by
      rw [hc]
      exact Bool.false_ne_true
    rw [List.cons_append, collapseSpace, if_neg hn, ih hrun, List.cons_append]

theorem collapseSpace_blank (h : ∀ c ∈ run, isHtmlSpace c = true) (t : Text) :
    collapseSpace true (run ++ t) = collapseSpace true t := by
  induction run with
  | nil => rfl
  | cons c run ih =>
    obtain ⟨hc, hrun⟩ := List.forall_mem_cons.1 h
    rw [List.cons_append, collapseSpace, if_pos hc, if_pos rfl, ih hrun]

theorem isHtmlSpace_of_isChain (h : (c :: run).IsChain fun c d => isHtmlSpace c == isHtmlSpace d) :
    ∀ d ∈ c :: run, isHtmlSpace d = isHtmlSpace c := by
  induction run generalizing c with
  | nil =>
    intro d hd
    rw [List.mem_singleton.1 hd]
  | cons d run ih =>
    rw [List.isChain_cons_cons] at h
    rw [List.forall_mem_cons]
    refine ⟨rfl, ?_⟩
    intro e he
    rw [ih h.2 e he, eq_of_beq h.1]

theorem collapseSpace_flatten
    (hne : [] ∉ rs) (hin : ∀ run ∈ rs, run.IsChain fun c d => isHtmlSpace c == isHtmlSpace d)
    (hbetween : rs.IsChain fun run next =>
      ∃ hr hn, (isHtmlSpace (run.getLast hr) == isHtmlSpace (next.head hn)) = false) :
    collapseSpace false rs.flatten =
      rs.flatMap fun run => if run.all isHtmlSpace then [' '] else run := by
  induction rs with
  | nil => rfl
  | cons run rs ih =>
    rw [List.mem_cons, not_or] at hne
    obtain ⟨hrun, hrs⟩ := List.forall_mem_cons.1 hin
    obtain ⟨hnext, htail⟩ := List.isChain_cons.1 hbetween
    have hih := ih hne.2 hrs htail
    rw [List.flatten_cons, List.flatMap_cons]
    cases run with
    | nil => exact absurd rfl hne.1
    | cons c cs =>
      have hall := isHtmlSpace_of_isChain hrun
      cases hc : isHtmlSpace c with
      | true =>
        rw [hc] at hall
        -- The next run starts with something else, so the one space is all that is written.
        have hstart : ∀ d ∈ rs.flatten.head?, isHtmlSpace d = false := by
          intro d hd
          cases rs with
          | nil => cases hd
          | cons next rs =>
            obtain ⟨hr, hn, he⟩ := hnext next rfl
            rw [hall _ (List.getLast_mem hr)] at he
            cases next with
            | nil => exact absurd rfl hn
            | cons f fs =>
              cases hd
              simpa using he
        rw [List.cons_append, collapseSpace, if_pos hc, if_neg Bool.false_ne_true,
          collapseSpace_blank (List.forall_mem_cons.1 hall).2, collapseSpace_of_not hstart, hih,
          if_pos (List.all_eq_true.2 hall)]
        rfl
      | false =>
        rw [hc] at hall
        have hsome : ¬(c :: cs).all isHtmlSpace = true := by
          rw [List.all_cons, hc]
          exact Bool.false_ne_true
        rw [collapseSpace_solid hall, hih, if_neg hsome]

theorem collapseSpace_eq (t : Text) : collapseSpace false t = singleSpaced t := by
  obtain ⟨ht, hne, hin, hbetween⟩ := List.splitBy_eq_iff.1 (rfl : spaceRuns t = spaceRuns t)
  rw [singleSpaced, ← collapseSpace_flatten hne hin hbetween, ← ht]

end Runs

def Extraction.read (e : Extraction) (ts : List Token) : Text :=
  (ts.foldl Extraction.push e).out.reverse.map plainSpace

theorem plainText_eq (t : Text) : plainText t = Extraction.start.read (Grammar.document.tokens t) :=
  rfl

theorem plainText_gap (h : '<' ∉ t) :
    plainText t = (dropLeadingSpace (singleSpaced (decodeReferences t))).map plainSpace := by
  rw [plainText_eq, Grammar.document.tokens_of_gap h, ← collapseSpace_eq]
  cases t with
  | nil =>
    rw [decodeReferences_nil]
    rfl
  | cons c cs =>
    change (((dropLeadingSpace (collapseSpace false (decodeReferences (c :: cs)))).reverse ++
      []).reverse).map plainSpace = _
    rw [List.append_nil, List.reverse_reverse]

theorem plainText_pre (h : '<' ∉ t) :
    plainText ("<pre>".toList ++ t) = (decodeReferences t).map plainSpace := by
  have htag : Grammar.document.tokens ((BareTag.opener "pre".toList).render ++ t) = _ :=
    Grammar.document.tokens_render (by decide)
  have hpre : plainText ("<pre>".toList ++ t) =
      Extraction.start.read (.tag (BareTag.opener "pre".toList).toTag :: gapTokens t) := by
    rw [← Grammar.document.tokens_of_gap h, ← htag, plainText_eq]
    rfl
  rw [hpre]
  cases t with
  | nil =>
    rw [decodeReferences_nil]
    decide
  | cons c cs =>
    change (((decodeReferences (c :: cs)).reverse ++ []).reverse).map plainSpace = _
    rw [List.append_nil, List.reverse_reverse]

section Solid

def solid (t : Text) : Text :=
  t.filter fun c => !isHtmlSpace c && c != '\u00a0'

theorem solid_append (t u : Text) : solid (t ++ u) = solid t ++ solid u :=
  List.filter_append _ _

theorem solid_cons (c : Char) (t : Text) : solid (c :: t) = solid [c] ++ solid t :=
  solid_append [c] t

theorem solid_flatMap {α : Type} (f : α → Text) (xs : List α) :
    solid (xs.flatMap f) = xs.flatMap fun x => solid (f x) := by
  induction xs with
  | nil => rfl
  | cons x xs ih => rw [List.flatMap_cons, solid_append, ih, List.flatMap_cons]

theorem solid_cons_of_space (h : isHtmlSpace c = true) (t : Text) : solid (c :: t) = solid t := by
  apply List.filter_cons_of_neg
  rw [h]
  exact Bool.false_ne_true

theorem solid_map_plainSpace (t : Text) : solid (t.map plainSpace) = solid t := by
  induction t with
  | nil => rfl
  | cons c cs ih =>
    by_cases hc : c = '\u00a0'
    · subst c
      exact ih
    · have hstay : plainSpace c = c := if_neg hc
      rw [List.map_cons, hstay, solid_cons, ih, ← solid_cons]

theorem solid_collapseSpace (inRun : Bool) (t : Text) :
    solid (collapseSpace inRun t) = solid t := by
  fun_induction collapseSpace inRun t with
  | case1 => rfl
  | case2 c cs hc ih => rw [ih, solid_cons_of_space hc]
  | case3 inRun c cs hc _ ih => rw [solid_cons_of_space (by decide), ih, solid_cons_of_space hc]
  | case4 inRun c cs hc ih => rw [solid_cons, ih, ← solid_cons]

theorem solid_dropLeadingSpace (t : Text) : solid (dropLeadingSpace t) = solid t := by
  unfold dropLeadingSpace
  split
  case h_1 => exact (solid_cons_of_space (by decide) _).symm
  case h_2 => rfl

end Solid

def Token.solidText : Token → Text
  | .text gap => solid (decodeReferences gap)
  | .tag _ => []

def Token.NotRaw : Token → Prop
  | .text _ => True
  | .tag it => ∀ name ∈ it.name, isRawText name = false

structure Extraction.Adds (e : Extraction) (added : Text) (next : Extraction) : Prop where
  skipping : next.skipping = none
  out : solid next.out.reverse = solid e.out.reverse ++ added

theorem Extraction.Adds.nothing (h : e.skipping = none) : e.Adds [] e :=
  ⟨h, (List.append_nil _).symm⟩

theorem Extraction.Adds.write (h : e.skipping = none) (chunk : Text) :
    e.Adds (solid chunk) { e with out := chunk.reverse ++ e.out } := by
  refine ⟨h, ?_⟩
  rw [List.reverse_append, List.reverse_reverse, solid_append]

theorem Extraction.Adds.pushGap (h : e.skipping = none) (gap : Text) :
    e.Adds (solid (decodeReferences gap)) (e.pushGap gap) := by
  unfold Extraction.pushGap
  split
  · exact .write h _
  · have hchunk (b : Bool) : solid (if b then collapseSpace false (decodeReferences gap) else
        dropLeadingSpace (collapseSpace false (decodeReferences gap))) =
          solid (decodeReferences gap) := by
      cases b with
      | true => exact solid_collapseSpace false _
      | false => exact (solid_dropLeadingSpace _).trans (solid_collapseSpace false _)
    rw [← hchunk e.endsSolid]
    exact .write h _

theorem Extraction.Adds.pushBreak (h : e.skipping = none) {name : Text} (closing : Bool)
    (hn : isRawText name = false) : e.Adds [] (e.pushBreak name closing) := by
  unfold Extraction.pushBreak
  rw [hn, Bool.and_false, if_neg Bool.false_ne_true]
  split
  · exact .write h ['\n']
  split
  · unfold freshLine
    split
    · exact .write h ['\n']
    · exact .nothing h
  split
  · exact .write h ['\t']
  · exact .nothing h

theorem Extraction.Adds.pushTag (h : e.skipping = none) {tag : Tag}
    (ht : ∀ name ∈ tag.name, isRawText name = false) : e.Adds [] (e.pushTag tag) := by
  unfold Extraction.pushTag
  rw [h]
  cases hn : tag.name with
  | none => exact .nothing h
  | some name =>
    have hbreak := Extraction.Adds.pushBreak h tag.closing (ht name hn)
    dsimp only
    split
    · exact ⟨hbreak.skipping, hbreak.out⟩
    split
    · exact hbreak
    · exact ⟨hbreak.skipping, hbreak.out⟩

theorem Extraction.Adds.push (h : e.skipping = none) (ht : token.NotRaw) :
    e.Adds token.solidText (e.push token) := by
  cases token with
  | text gap =>
    rw [Extraction.push, h]
    exact .pushGap h gap
  | tag it => exact .pushTag h ht

theorem Extraction.Adds.run (h : e.skipping = none) (ht : ∀ token ∈ ts, token.NotRaw) :
    e.Adds (ts.flatMap Token.solidText) (ts.foldl Extraction.push e) := by
  induction ts generalizing e with
  | nil => exact ⟨h, (List.append_nil _).symm⟩
  | cons token ts ih =>
    obtain ⟨htoken, hts⟩ := List.forall_mem_cons.1 ht
    have hstep := Extraction.Adds.push h htoken
    have hrest := ih hstep.skipping hts
    refine ⟨hrest.skipping, ?_⟩
    rw [List.foldl_cons, hrest.out, hstep.out, List.flatMap_cons, List.append_assoc]

theorem solid_plainText (h : ∀ token ∈ Grammar.document.tokens t, token.NotRaw) :
    solid (plainText t) = (Grammar.document.tokens t).flatMap Token.solidText := by
  have hrun : Extraction.start.Adds _ _ := Extraction.Adds.run rfl h
  rw [plainText_eq, Extraction.read, solid_map_plainSpace, hrun.out]
  rfl

section TextRuns

variable {xs : List (Option Text)} {read : Text → Text}

/-- The texts between the places marked `none`, each joined into one. -/
def textRuns (xs : List (Option Text)) : List Text :=
  (xs.splitOnP Option.isNone).map fun run => run.flatMap (·.getD [])

/-- What tokens leave behind: the gaps, and a mark wherever balancing writes tags in place of an
allowed one. The first allowed tag has number `i`. -/
def outlineFrom (allowed : TagSet) (rendered : List (List BareTag)) :
    Nat → List Token → List (Option Text)
  | _, [] => []
  | i, .text gap :: ts => some gap :: outlineFrom allowed rendered i ts
  | i, .tag tag :: ts =>
    if (keep? allowed tag).isSome then
      if renderTags (rendered.getD i []) = [] then outlineFrom allowed rendered (i + 1) ts
      else none :: outlineFrom allowed rendered (i + 1) ts
    else outlineFrom allowed rendered i ts

def outline (allowed : TagSet) (t : Text) : List (Option Text) :=
  let tokens := Grammar.markup.tokens t
  outlineFrom allowed (balance (keptTags allowed tokens)).rendered 0 tokens

def readRuns (read : Text → Text) : Text → List (Option Text) → Text
  | u, [] => read u
  | u, none :: xs => read u ++ readRuns read [] xs
  | u, some gap :: xs => readRuns read (u ++ gap) xs

theorem textRuns_none (xs : List (Option Text)) : textRuns (none :: xs) = [] :: textRuns xs := by
  rw [textRuns, List.splitOnP_cons_eq_if_modifyHead, Option.isNone_none, if_pos rfl]
  rfl

theorem textRuns_some (gap : Text) (xs : List (Option Text)) :
    textRuns (some gap :: xs) = (textRuns xs).modifyHead (gap ++ ·) := by
  rw [textRuns, textRuns, List.splitOnP_cons_eq_if_modifyHead, if_neg (by simp)]
  cases xs.splitOnP Option.isNone with
  | nil => rfl
  | cons run runs => rfl

theorem modifyHead_textRuns (read : Text → Text) (u : Text) (xs : List (Option Text)) :
    ((textRuns xs).modifyHead (u ++ ·)).flatMap read = readRuns read u xs := by
  induction xs generalizing u with
  | nil =>
    rw [textRuns, List.splitOnP_nil]
    simp [readRuns]
  | cons x xs ih =>
    cases x with
    | none =>
      have hrest := ih []
      have hid : (textRuns xs).modifyHead ([] ++ ·) = textRuns xs := by
        cases textRuns xs with
        | nil => rfl
        | cons run runs => rfl
      rw [hid] at hrest
      rw [textRuns_none, List.modifyHead_cons, List.flatMap_cons, hrest, List.append_nil, readRuns]
    | some gap =>
      have hassoc : (u ++ ·) ∘ (gap ++ ·) = ((u ++ gap) ++ ·) := by
        funext v
        exact (List.append_assoc u gap v).symm
      rw [textRuns_some, List.modifyHead_modifyHead, hassoc, ih, readRuns]

theorem textRuns_flatMap (read : Text → Text) (xs : List (Option Text)) :
    (textRuns xs).flatMap read = readRuns read [] xs := by
  rw [← modifyHead_textRuns]
  cases textRuns xs with
  | nil => rfl
  | cons run runs => rfl

def Piece.mark : Piece → Option Text
  | .text gap => some gap
  | .tag _ => none

theorem solidText_scanned (u : Text) (ps : List Piece) :
    (u.foldr Token.consChar (scanned ps)).flatMap Token.solidText =
      readRuns (fun run => solid (decodeReferences run)) u (ps.map Piece.mark) := by
  have hgap (u : Text) : (gapTokens u).flatMap Token.solidText = solid (decodeReferences u) := by
    cases u with
    | nil =>
      rw [decodeReferences_nil]
      rfl
    | cons c cs => exact List.append_nil _
  induction ps generalizing u with
  | nil => rw [scanned, foldr_consChar u (by simp), List.append_nil, hgap, List.map_nil, readRuns]
  | cons p ps ih =>
    cases p with
    | text gap => rw [scanned, ← List.foldr_append, ih, List.map_cons, Piece.mark, readRuns]
    | tag it =>
      rw [scanned, foldr_consChar u (by simp), List.flatMap_append, hgap, List.map_cons, Piece.mark,
        readRuns, ← ih []]
      rfl

theorem readRuns_tags (hr : read [] = []) (it : BareTag) (tags : List BareTag) (u : Text)
    (xs : List (Option Text)) :
    readRuns read u (((it :: tags).map Piece.tag).map Piece.mark ++ xs) =
      read u ++ readRuns read [] xs := by
  induction tags generalizing it u with
  | nil => rfl
  | cons next tags ih =>
    have hrest := ih next []
    rw [hr, List.nil_append] at hrest
    exact congrArg (read u ++ ·) hrest

/-- The runs of text in what is written are those of the outline, as filtering writes them. -/
theorem readRuns_piecesFrom (hr : read [] = []) (tags : List BareTag) (i : Nat) (u : Text)
    (ts : List Token) :
    readRuns read (tidyHtml (maskBrackets u))
        ((piecesFrom allowed rendered i ts ++ tags.map Piece.tag).map Piece.mark) =
      readRuns (fun run => read (tidyHtml (maskBrackets run))) u
        (outlineFrom allowed rendered i ts) := by
  induction ts generalizing i u with
  | nil =>
    rw [piecesFrom, outlineFrom, List.nil_append, readRuns]
    cases tags with
    | nil => rfl
    | cons it tags =>
      have hclose := readRuns_tags hr it tags (tidyHtml (maskBrackets u)) []
      rwa [List.append_nil, readRuns, hr, List.append_nil] at hclose
  | cons token ts ih =>
    cases token with
    | text gap =>
      have hjoin : tidyHtml (maskBrackets u) ++ tidyHtml (maskBrackets gap) =
          tidyHtml (maskBrackets (u ++ gap)) := by
        rw [maskBrackets_append, tidyHtml_append]
      rw [piecesFrom, outlineFrom, List.cons_append, List.map_cons, Piece.mark, readRuns, readRuns,
        ← ih, ← hjoin]
      rfl
    | tag tag =>
      rw [piecesFrom, outlineFrom]
      split
      · split
        case isTrue hnil =>
          rw [renderTags_eq_nil_iff.1 hnil]
          exact ih (i + 1) u
        case isFalse hne =>
          cases hw : rendered.getD i [] with
          | nil =>
            rw [hw] at hne
            exact absurd rfl hne
          | cons it more =>
            have hrest := ih (i + 1) []
            rw [List.append_assoc, List.map_append, readRuns_tags hr, readRuns, ← hrest]
            rfl
      · exact ih i u

end TextRuns

theorem BareTag.Allowed.not_isRawText {tag : BareTag} (h : tag.Allowed (· ∈ allowed))
    (hraw : ∀ name ∈ rawTextNames, name ∉ allowed) : isRawText tag.name = false := by
  rw [Bool.eq_false_iff]
  intro hr
  exact hraw tag.name (List.contains_iff_mem.1 hr) h.named

/-- Filtered markup says what the text between its tags said. -/
theorem solid_plainText_onePass (hraw : ∀ name ∈ rawTextNames, name ∉ allowed) (t : Text) :
    solid (plainText (writePieces (onePass allowed t))) =
      solid ((textRuns (outline allowed t)).flatMap fun run =>
        (decodeReferences run).map replaceNull) := by
  have hsafe := onePass_safe allowed t
  have htokens := tokens_writePieces .document hsafe
  have hopen :
      ∀ token ∈ Grammar.document.tokens (writePieces (onePass allowed t)), token.NotRaw := by
    rw [htokens]
    intro token hm
    cases token with
    | text gap => trivial
    | tag it =>
      obtain ⟨tag, htag, rfl⟩ := mem_scanned hm
      intro name hn
      cases hn
      exact (hsafe _ htag).not_isRawText hraw
  let read := fun run => solid (decodeReferences run)
  have hnil : read [] = [] := by
    simp only [read, decodeReferences_nil]
    rfl
  have hread : (fun run => read (tidyHtml (maskBrackets run))) =
      fun run => solid ((decodeReferences run).map replaceNull) := by
    funext run
    simp only [read, decodeReferences_tidyHtml_maskBrackets]
  rw [solid_plainText hopen, htokens, solid_flatMap, textRuns_flatMap, ← hread]
  calc (scanned (onePass allowed t)).flatMap Token.solidText
      = readRuns read [] ((onePass allowed t).map Piece.mark) := solidText_scanned [] _
    _ = readRuns (fun run => read (tidyHtml (maskBrackets run))) [] (outline allowed t) :=
        readRuns_piecesFrom hnil _ 0 [] _

end SafeOutput.Markup

namespace SafeOutput.Sanitizer

open Text Markup

/-- Escaped text is read as the text itself, with single spaces; behind `<pre>` it is read with the
spaces that it has. -/
theorem plainText_escapeHtml (tags : TagSet) (t : Text) :
    ∃ c, ((Sanitizer.mk .standard tags).escapeHtml (.str t)).value = .ok c ∧ c.kind = .html ∧
      (Value.content c).plainText =
        (dropLeadingSpace (singleSpaced (t.map replaceNull))).map plainSpace ∧
      ∀ dir, (Value.content ⟨"<pre>".toList ++ c.text, .html, dir⟩).plainText =
        (t.map replaceNull).map plainSpace := by
  have hlt : '<' ∉ Escape.escapeHtml t := fun hm => absurd (plain_of_mem_escapeHtml hm) (by decide)
  refine ⟨_, Content.wrap_value (by decide) _ .html none, rfl, ?_, ?_⟩
  · have hread := plainText_gap hlt
    rwa [decodeReferences_escapeHtml] at hread
  · intro dir
    have hread := plainText_pre hlt
    rwa [decodeReferences_escapeHtml] at hread

/-- Cleaning and reading as plain text loses no text: up to white space, what is read is what stands
between the tags that are written, with its references resolved. -/
theorem plainText_cleanHtml (s : Sanitizer) (extra : TagSet)
    (hne : (s.safeTags.union extra).isEmpty = false)
    (hraw : ∀ name ∈ rawTextNames, name ∉ s.safeTags.union extra) (t : Text) :
    ∃ c, (s.cleanHtml extra (.str t)).value = .ok c ∧
      solid (Value.content c).plainText =
        solid ((textRuns (outline (s.safeTags.union extra) t)).flatMap fun run =>
          (decodeReferences run).map replaceNull) := by
  refine ⟨_, cleanHtml_str hne t, ?_⟩
  exact solid_plainText_onePass hraw t

/-- References go on across tags that are left out and stray closers, not across tags that are
written. -/
theorem plainText_cleanHtml_joined :
    let s : Sanitizer := ⟨.standard, .ofList ["b".toList]⟩
    let extra := TagSet.ofList ["i".toList]
    (s.safeTags.union extra).isEmpty = false ∧
      (∀ name ∈ rawTextNames, name ∉ s.safeTags.union extra) ∧
      ∃ c, (s.cleanHtml extra (.str "&a<x>mp; <b>&l</i>t;<i>&g<b>t;".toList)).value = .ok c ∧
        solid (Value.content c).plainText = "&<&gt;".toList := by
  intro s extra
  have hne : (s.safeTags.union extra).isEmpty = false := by decide
  have hraw : ∀ name ∈ rawTextNames, name ∉ s.safeTags.union extra := by
    have hall : rawTextNames.all fun name => !(s.safeTags.union extra).contains name := by decide
    intro name hm ha
    have hn := List.all_eq_true.1 hall name hm
    rw [TagSet.contains_iff.2 ha] at hn
    cases hn
  refine ⟨hne, hraw, ?_⟩
  obtain ⟨c, hc, hs⟩ := plainText_cleanHtml s extra hne hraw "&a<x>mp; <b>&l</i>t;<i>&g<b>t;".toList
  refine ⟨c, hc, hs.trans ?_⟩
  have hrendered (ts : List BareTag) : (balance ts).rendered = (stackRun [] ts).1 :=
    congrArg Prod.fst (run_empty_eq ts)
  rw [outline, hrendered]
  decide +kernel

end SafeOutput.Sanitizer
