import Mathlib
import SafeOutput.Markup.Filter
import SafeOutput.Proofs.BareMarkup
import SafeOutput.Proofs.Masking
import SafeOutput.Proofs.Numeral

namespace SafeOutput.Escape

open Text Markup

variable {c d : Char} {t u : Text}

@[simp] theorem tidyHtml_nil : tidyHtml [] = [] := rfl

theorem tidyHtml_append (t u : Text) : tidyHtml (t ++ u) = tidyHtml t ++ tidyHtml u :=
  List.flatMap_append

theorem tidyHtmlChar_of_plain (h : isDelimiter c = false) : tidyHtmlChar c = [c] := by
  simp only [isDelimiter, Bool.or_eq_false_iff, beq_eq_false_iff_ne] at h
  obtain ⟨⟨⟨⟨hlt, hgt⟩, hq⟩, ha⟩, hz⟩ := h
  unfold tidyHtmlChar
  split
  · exact absurd rfl hq
  · exact absurd rfl hlt
  · exact absurd rfl hgt
  · exact absurd rfl ha
  · exact absurd rfl hz
  · rfl

theorem tidyHtmlChar_of_isDelimiter (h : isDelimiter c) :
    (tidyHtmlChar c).all fun d => !isDelimiter d && d != '[' := by
  rcases isDelimiter_iff.1 h with rfl | rfl | rfl | rfl | rfl <;> decide

theorem mem_tidyHtmlChar (h : d ∈ tidyHtmlChar c) :
    isDelimiter d = false ∧ (d = '[' → c = '[') := by
  cases hc : isDelimiter c with
  | true =>
    have hd := List.all_eq_true.1 (tidyHtmlChar_of_isDelimiter hc) d h
    rw [Bool.and_eq_true, Bool.not_eq_true', bne_iff_ne] at hd
    exact ⟨hd.1, fun hb => absurd hb hd.2⟩
  | false =>
    rw [tidyHtmlChar_of_plain hc, List.mem_singleton] at h
    subst d
    exact ⟨hc, id⟩

theorem plain_of_mem_tidyHtml (h : d ∈ tidyHtml t) : isDelimiter d = false := by
  obtain ⟨c, -, hc⟩ := List.mem_flatMap.1 h
  exact (mem_tidyHtmlChar hc).1

theorem bracket_not_mem_tidyHtml (h : '[' ∉ t) : '[' ∉ tidyHtml t := by
  intro hm
  obtain ⟨c, hc, hd⟩ := List.mem_flatMap.1 hm
  rw [(mem_tidyHtmlChar hd).2 rfl] at hc
  exact h hc

theorem tidyHtml_of_plain (h : ∀ c ∈ t, isDelimiter c = false) : tidyHtml t = t :=
  flatMap_eq_self fun c hc => tidyHtmlChar_of_plain (h c hc)

end SafeOutput.Escape

namespace SafeOutput.Markup

open Text Escape

variable {c : Char} {n : Nat} {cs t u : Text} {allowed : TagSet} {rendered : List (List BareTag)}
  {ts : List Token}

theorem number?_decimal (n : Nat) : number? (decimal n) = some n := by
  have hd : (decimal n).all Char.isDigit := List.all_eq_true.2 fun c hc => isDigit_of_mem_decimal hc
  have hv := Nat.ofDigitChars_ten_toDigits (n := n)
  rw [Nat.ofDigitChars_eq_foldl] at hv
  rw [number?, if_pos hd]
  exact congrArg some hv

theorem markerAt_decimal (n : Nat) (cs : Text) :
    markerAt (decimal n ++ ']' :: cs) = some (decimal n, cs) := by
  have hd : ∀ c ∈ decimal n, isDecimalDigit c = true := by
    intro c hc
    rw [isDecimalDigit, isDigit_of_mem_decimal hc, Bool.true_or]
  have hne : decimal n ≠ [] := Nat.toDigits_ne_nil
  unfold markerAt
  rw [List.takeWhile_append_of_pos hd, List.dropWhile_append_of_pos hd,
    List.takeWhile_cons_of_neg (by decide), List.dropWhile_cons_of_neg (by decide), List.append_nil]
  cases hn : decimal n with
  | nil => exact absurd hn hne
  | cons d ds => rfl

theorem splice_append (h : '[' ∉ t) (outs : Array (List BareTag)) (u : Text) :
    splice outs (t ++ u) = t ++ splice outs u := by
  induction t with
  | nil => rfl
  | cons c cs ih =>
    rw [List.mem_cons, not_or] at h
    rw [List.cons_append, splice, if_neg (Ne.symm h.1), ih h.2, List.cons_append]

theorem elim_renderTags (rendered : List (List BareTag)) (n : Nat) :
    (rendered.toArray[n]?).elim [] renderTags = renderTags (rendered.getD n []) := by
  rw [List.getElem?_toArray, List.getD_eq_getElem?_getD]
  cases rendered[n]? with
  | none => rfl
  | some out => rfl

theorem splice_marker (rendered : List (List BareTag)) (n : Nat) (cs : Text) :
    splice rendered.toArray (marker n ++ cs) =
      renderTags (rendered.getD n []) ++ splice rendered.toArray cs := by
  have hm := markerAt_decimal n cs
  rw [marker, List.cons_append, List.cons_append, List.append_assoc, List.singleton_append, splice,
    if_pos rfl]
  split
  case h_1 digits rest he =>
    rw [hm] at he
    cases he
    rw [number?_decimal, Option.bind_some, elim_renderTags]
  case h_2 he =>
    rw [hm] at he
    cases he

def markersIn : Text → List (Option Nat)
  | [] => []
  | c :: cs =>
    if c = '[' then
      match h : markerAt cs with
      | some (digits, rest) =>
        have := markerAt_length h
        number? digits :: markersIn rest
      | none => markersIn cs
    else markersIn cs
termination_by cs => cs.length

theorem markersIn_append (h : '[' ∉ t) (u : Text) : markersIn (t ++ u) = markersIn u := by
  induction t with
  | nil => rfl
  | cons c cs ih =>
    rw [List.mem_cons, not_or] at h
    rw [List.cons_append, markersIn, if_neg (Ne.symm h.1), ih h.2]

theorem markersIn_marker (n : Nat) (cs : Text) :
    markersIn (marker n ++ cs) = some n :: markersIn cs := by
  have hm := markerAt_decimal n cs
  rw [marker, List.cons_append, List.cons_append, List.append_assoc, List.singleton_append,
    markersIn, if_pos rfl]
  split
  case h_1 digits rest he =>
    rw [hm] at he
    cases he
    rw [number?_decimal]
  case h_2 he =>
    rw [hm] at he
    cases he

theorem plain_of_isDigit (h : c.isDigit) : isDelimiter c = false := by
  rw [Bool.eq_false_iff]
  intro hd
  rcases isDelimiter_iff.1 hd with rfl | rfl | rfl | rfl | rfl <;> exact absurd h (by decide)

theorem plain_of_mem_marker (h : c ∈ marker n) : isDelimiter c = false := by
  rw [marker, List.mem_append, List.mem_cons, List.mem_singleton] at h
  rcases h with (rfl | hd) | rfl
  · rfl
  · exact plain_of_isDigit (isDigit_of_mem_decimal hd)
  · rfl

inductive Piece where
  | text (gap : Text)
  | tag (it : BareTag)
  deriving DecidableEq, Repr

def Piece.write : Piece → Text
  | .text gap => gap
  | .tag it => it.render

def writePieces (ps : List Piece) : Text :=
  ps.flatMap Piece.write

@[simp] theorem writePieces_cons (p : Piece) (ps : List Piece) :
    writePieces (p :: ps) = p.write ++ writePieces ps := rfl

theorem writePieces_append (ps qs : List Piece) :
    writePieces (ps ++ qs) = writePieces ps ++ writePieces qs :=
  List.flatMap_append

theorem writePieces_tags (tags : List BareTag) : writePieces (tags.map .tag) = renderTags tags :=
  List.flatMap_map Piece.tag Piece.write tags

/-- The parts that tokens become: gaps are escaped, the `i`th allowed tag is written as balancing
has it, and other tags are left out. The first allowed tag has number `i`. -/
def piecesFrom (allowed : TagSet) (rendered : List (List BareTag)) : Nat → List Token → List Piece
  | _, [] => []
  | i, .text gap :: ts =>
    .text (tidyHtml (replaceChar '[' "&#91;".toList gap)) :: piecesFrom allowed rendered i ts
  | i, .tag tag :: ts =>
    if (keep? allowed tag).isSome then
      (rendered.getD i []).map .tag ++ piecesFrom allowed rendered (i + 1) ts
    else piecesFrom allowed rendered i ts

/-- Filtering in one pass over the tokens of the text itself, without markers. -/
def onePass (allowed : TagSet) (t : Text) : List Piece :=
  let tokens := Grammar.markup.tokens t
  let balanced := balance (keptTags allowed tokens)
  piecesFrom allowed balanced.rendered 0 tokens ++ balanced.autoClose.map .tag

theorem keep?_mask (allowed : TagSet) (tag : Tag) :
    keep? allowed tag.mask = keep? allowed tag := rfl

theorem keptTags_mask (allowed : TagSet) (ts : List Token) :
    keptTags allowed (ts.map Token.mask) = keptTags allowed ts := by
  induction ts with
  | nil => rfl
  | cons t ts ih =>
    cases t with
    | text gap => exact ih
    | tag it => exact congrArg ((keep? allowed it).toList ++ ·) ih

theorem tidyHtml_marker (n : Nat) : tidyHtml (marker n) = marker n :=
  tidyHtml_of_plain fun _ hc => plain_of_mem_marker hc

/-- Every marker gives way to its tags, and no text is taken for a marker. -/
theorem splice_markFrom (allowed : TagSet) (rendered : List (List BareTag)) (i : Nat)
    (ts : List Token) :
    splice rendered.toArray (tidyHtml (markFrom allowed i (ts.map Token.mask))) =
      writePieces (piecesFrom allowed rendered i ts) := by
  induction ts generalizing i with
  | nil =>
    rw [List.map_nil, markFrom, tidyHtml_nil, splice]
    rfl
  | cons t ts ih =>
    cases t with
    | text gap =>
      have hb := bracket_not_mem_tidyHtml (bracket_not_mem_maskBrackets gap)
      rw [List.map_cons, Token.mask, markFrom, tidyHtml_append, splice_append hb, ih]
      rfl
    | tag it =>
      rw [List.map_cons, Token.mask, markFrom, keep?_mask, piecesFrom]
      split
      · rw [tidyHtml_append, tidyHtml_marker, splice_marker, ih, writePieces_append,
          writePieces_tags]
      · exact ih i

theorem markersIn_markFrom (allowed : TagSet) (i : Nat) (ts : List Token) :
    markersIn (tidyHtml (markFrom allowed i (ts.map Token.mask))) =
      (List.range' i (keptTags allowed ts).length).map some := by
  induction ts generalizing i with
  | nil =>
    rw [List.map_nil, markFrom, tidyHtml_nil, markersIn]
    rfl
  | cons t ts ih =>
    cases t with
    | text gap =>
      have hb := bracket_not_mem_tidyHtml (bracket_not_mem_maskBrackets gap)
      rw [List.map_cons, Token.mask, markFrom, tidyHtml_append, markersIn_append hb, ih]
      rfl
    | tag it =>
      rw [List.map_cons, Token.mask, markFrom, keep?_mask, keptTags]
      cases hk : keep? allowed it with
      | none => exact ih i
      | some kept =>
        rw [Option.isSome_some, if_pos rfl, tidyHtml_append, tidyHtml_marker, markersIn_marker, ih]
        rfl

theorem filterAllowed_text (allowed : TagSet) (t : Text) :
    (filterAllowed allowed t).text = writePieces (onePass allowed t) := by
  have htokens : Grammar.markup.tokens (replaceChar '[' "&#91;".toList t) =
      (Grammar.markup.tokens t).map Token.mask := Grammar.tokens_maskBrackets t
  rw [filterAllowed, htokens, keptTags_mask, splice_markFrom, onePass, writePieces_append,
    writePieces_tags]

/-- Filtering by way of markers is filtering in one pass: the escaped text holds the markers that
were put in, each once and in order, and each of them has its entry among the balanced tags. -/
theorem filterAllowed_eq_onePass (allowed : TagSet) (t : Text) :
    let tags := keptTags allowed (Grammar.markup.tokens t)
    let masked := Grammar.markup.tokens (replaceChar '[' "&#91;".toList t)
    (filterAllowed allowed t).text = writePieces (onePass allowed t) ∧
      markersIn (tidyHtml (markFrom allowed 0 masked)) = (List.range tags.length).map some ∧
      (balance tags).rendered.length = tags.length := by
  intro tags masked
  refine ⟨filterAllowed_text allowed t, ?_, Nesting.run_length _ _⟩
  have hmasked : masked = (Grammar.markup.tokens t).map Token.mask := Grammar.tokens_maskBrackets t
  rw [hmasked, markersIn_markFrom, List.range_eq_range']

end SafeOutput.Markup
