import Mathlib
import SafeOutput.Markup.Filter
import SafeOutput.Proofs.Scan

namespace SafeOutput.Markup

open Text

variable {c : Char} {q : Option Char} {cs t u rest : Text} {tag : Tag} {ts : List Token}

/-- Writes each `[` as a reference. -/
def maskBrackets (t : Text) : Text :=
  replaceChar '[' "&#91;".toList t

@[simp] theorem maskBrackets_nil : maskBrackets [] = [] := rfl

theorem maskBrackets_append (t u : Text) :
    maskBrackets (t ++ u) = maskBrackets t ++ maskBrackets u :=
  List.flatMap_append

theorem maskBrackets_cons (c : Char) (cs : Text) :
    maskBrackets (c :: cs) = maskBrackets [c] ++ maskBrackets cs :=
  maskBrackets_append [c] cs

theorem maskBrackets_bracket (cs : Text) :
    maskBrackets ('[' :: cs) = "&#91;".toList ++ maskBrackets cs := rfl

theorem maskBrackets_cons_of_ne (hc : c ≠ '[') :
    maskBrackets (c :: cs) = c :: maskBrackets cs := by
  rw [maskBrackets, replaceChar, List.flatMap_cons, if_neg hc]
  rfl

theorem bracket_not_mem_maskBrackets (t : Text) : '[' ∉ maskBrackets t :=
  not_mem_replaceChar (by decide) t

def Tag.mask (tag : Tag) : Tag :=
  { tag with raw := maskBrackets tag.raw }

def Token.mask : Token → Token
  | .text gap => .text (maskBrackets gap)
  | .tag tag => .tag tag.mask

def maskSplit (parts : Text × Text) : Text × Text :=
  (maskBrackets parts.1, maskBrackets parts.2)

theorem splitTail_append (hq : ∀ d ∈ q, isQuote d) (hu : ∀ c ∈ u, c ≠ '>' ∧ isQuote c = false) :
    splitTail q (u ++ cs) = (splitTail q cs).map fun (tail, rest) => (u ++ tail, rest) := by
  induction u with
  | nil => exact Option.map_id'.symm
  | cons c u ih =>
    obtain ⟨⟨hgt, hc⟩, hrest⟩ := List.forall_mem_cons.1 hu
    have hstay : splitTail q (c :: (u ++ cs)) =
        (splitTail q (u ++ cs)).map fun (tail, rest) => (c :: tail, rest) := by
      cases q with
      | none => rw [splitTail, if_neg hgt, hc, if_neg Bool.false_ne_true]
      | some d =>
        have hd : c ≠ d := by
          rintro rfl
          rw [hq c rfl] at hc
          cases hc
        rw [splitTail, if_neg hd]
    rw [List.cons_append, hstay, ih hrest, Option.map_map]
    rfl

theorem splitTail_maskBrackets (hq : ∀ d ∈ q, isQuote d) (cs : Text) :
    splitTail q (maskBrackets cs) = (splitTail q cs).map maskSplit := by
  induction cs generalizing q with
  | nil => cases q <;> rfl
  | cons c cs ih =>
    by_cases hb : c = '['
    · -- the reference and the bracket itself are both passed over
      subst c
      have hmark : splitTail q ('[' :: cs) = _ :=
        splitTail_append (u := ['[']) hq (by simp [isQuote])
      rw [maskBrackets_bracket, splitTail_append hq (by simp [isQuote]), ih hq, hmark,
        Option.map_map, Option.map_map]
      rfl
    · have hcons (x : Option (Text × Text)) :
          (x.map maskSplit).map (fun (tail, rest) => (c :: tail, rest)) =
            (x.map fun (tail, rest) => (c :: tail, rest)).map maskSplit := by
        rw [Option.map_map, Option.map_map]
        congr 1
        funext parts
        exact congrArg (·, maskBrackets parts.2) (maskBrackets_cons_of_ne hb).symm
      rw [maskBrackets_cons_of_ne hb]
      cases q with
      | none =>
        by_cases hgt : c = '>'
        · subst c
          rfl
        · have hn : ∀ d ∈ (if isQuote c then some c else none), isQuote d := by
            intro d hd
            split at hd
            case isTrue hc => rwa [← Option.some.inj hd]
            case isFalse => cases hd
          rw [splitTail, splitTail, if_neg hgt, if_neg hgt, ih hn, hcons]
      | some d =>
        have hn : ∀ e ∈ (if c = d then none else some d), isQuote e := by
          intro e he
          split at he
          · cases he
          · exact hq e he
        rw [splitTail, splitTail, ih hn, hcons]

section Names

variable {p : Char → Bool}

theorem takeWhile_maskBrackets (hb : ¬p '[') (ha : ¬p '&') (cs : Text) :
    (maskBrackets cs).takeWhile p = cs.takeWhile p := by
  induction cs with
  | nil => rfl
  | cons c cs ih =>
    by_cases hc : c = '['
    · subst c
      rw [List.takeWhile_cons_of_neg hb]
      exact List.takeWhile_cons_of_neg ha
    · rw [maskBrackets_cons_of_ne hc, List.takeWhile_cons, List.takeWhile_cons, ih]

theorem dropWhile_maskBrackets (hb : ¬p '[') (ha : ¬p '&') (cs : Text) :
    (maskBrackets cs).dropWhile p = maskBrackets (cs.dropWhile p) := by
  induction cs with
  | nil => rfl
  | cons c cs ih =>
    by_cases hc : c = '['
    · subst c
      rw [List.dropWhile_cons_of_neg hb]
      exact List.dropWhile_cons_of_neg ha
    · rw [maskBrackets_cons_of_ne hc, List.dropWhile_cons, List.dropWhile_cons, ih]
      split
      · rfl
      · rw [maskBrackets_cons_of_ne hc]

end Names

def maskFound (found : Tag × Text) : Tag × Text :=
  (found.1.mask, maskBrackets found.2)

theorem Grammar.declarationAt_maskBrackets (cs : Text) :
    Grammar.markup.declarationAt (maskBrackets cs) =
      (Grammar.markup.declarationAt cs).map maskFound := by
  rw [declarationAt, declarationAt, splitTail_maskBrackets (fun _ hd => by cases hd),
    Option.map_map, Option.map_map]
  congr 1
  funext parts
  obtain ⟨attrs, rest⟩ := parts
  simp only [Function.comp_apply, maskSplit, maskFound, Tag.mask, maskBrackets_append]
  rfl

theorem maskBrackets_of_continuesName (h : ∀ c ∈ t, Grammar.markup.continuesName c) :
    maskBrackets t = t :=
  replaceChar_of_not_mem fun hb => absurd (h '[' hb) (by decide)

theorem Grammar.elementAt_maskBrackets (closing : Bool) (cs : Text) :
    Grammar.markup.elementAt closing (maskBrackets cs) =
      (Grammar.markup.elementAt closing cs).map maskFound := by
  cases cs with
  | nil => rfl
  | cons c cs =>
    by_cases hb : c = '['
    · subst c
      rfl
    · rw [maskBrackets_cons_of_ne hb, elementAt, elementAt]
      split
      · -- the name ends before the first bracket, masked or not
        have hname : maskBrackets (cs.takeWhile Grammar.markup.continuesName) =
            cs.takeWhile Grammar.markup.continuesName :=
          maskBrackets_of_continuesName fun d hd => List.mem_takeWhile_imp hd
        rw [takeWhile_maskBrackets (by decide) (by decide),
          dropWhile_maskBrackets (by decide) (by decide),
          splitTail_maskBrackets (fun _ hd => by cases hd), Option.map_map, Option.map_map]
        congr 1
        funext parts
        obtain ⟨attrs, rest⟩ := parts
        simp only [Function.comp_apply, maskSplit, maskFound, Tag.mask, maskBrackets_append,
          maskBrackets_cons_of_ne hb, hname]
        cases closing <;> rfl
      · rfl

theorem Grammar.tagAt_maskBrackets (cs : Text) :
    Grammar.markup.tagAt (maskBrackets cs) = (Grammar.markup.tagAt cs).map maskFound := by
  cases cs with
  | nil => rfl
  | cons c cs =>
    by_cases hb : c = '['
    · subst c
      rfl
    by_cases hd : c = '!'
    · subst c
      exact declarationAt_maskBrackets cs
    by_cases hs : c = '/'
    · subst c
      exact elementAt_maskBrackets true cs
    have he := elementAt_maskBrackets false (c :: cs)
    rw [maskBrackets_cons_of_ne hb] at he ⊢
    rw [tagAt_cons_of_ne hd hs, tagAt_cons_of_ne hd hs, he]

theorem Token.map_mask_consChar (c : Char) (ts : List Token) :
    (Token.consChar c ts).map Token.mask =
      (maskBrackets [c]).foldr Token.consChar (ts.map Token.mask) := by
  by_cases hb : c = '['
  · subst c
    match ts with
    | [] => rfl
    | .text gap :: ts => rfl
    | .tag it :: ts => rfl
  · rw [maskBrackets_cons_of_ne hb]
    match ts with
    | [] => simp [Token.consChar, Token.mask, maskBrackets_cons_of_ne hb]
    | .text gap :: ts => simp [Token.consChar, Token.mask, maskBrackets_cons_of_ne hb]
    | .tag it :: ts => simp [Token.consChar, Token.mask, maskBrackets_cons_of_ne hb]

/-- Masking the brackets of a text changes none of its tags. -/
theorem Grammar.tokens_maskBrackets (t : Text) :
    Grammar.markup.tokens (maskBrackets t) = (Grammar.markup.tokens t).map Token.mask := by
  fun_induction Grammar.tokens Grammar.markup t with
  | case1 => rw [maskBrackets_nil, tokens_nil, List.map_nil]
  | case2 cs tag rest hf _ ih =>
    have hm := tagAt_maskBrackets cs
    rw [hf, Option.map_some] at hm
    rw [maskBrackets_cons_of_ne (by decide), tokens_of_tagAt hm, ih]
    rfl
  | case3 cs hf ih =>
    have hm := tagAt_maskBrackets cs
    rw [hf, Option.map_none] at hm
    rw [maskBrackets_cons_of_ne (by decide), tokens_of_tagAt_none hm, ih,
      Token.map_mask_consChar]
    rfl
  | case4 c cs hc ih =>
    have hlt : '<' ∉ maskBrackets [c] := by
      by_cases hb : c = '['
      · subst c
        decide
      · rw [maskBrackets_cons_of_ne hb, maskBrackets_nil, List.mem_singleton]
        exact Ne.symm hc
    rw [maskBrackets_cons, tokens_append_of_gap hlt, ih, Token.map_mask_consChar]

end SafeOutput.Markup
