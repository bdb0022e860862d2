import Mathlib
import SafeOutput.Proofs.AttributeReading

namespace SafeOutput.Markup

open Text

variable {c : Char}

section Seam

variable (hc : isReferenceChar c = false)

include hc

/-- No reference reaches across a character that is not part of one. -/
theorem transparent_append (rest : Text) : Transparent (· ++ c :: rest) where
  keeps _ _ _ := rfl
  stops cs hstop := by
    cases cs with
    | nil =>
      intro d hd
      cases hd
      exact hc
    | cons d ds => exact hstop

theorem decodeReferences_append_stop (t rest : Text) :
    decodeReferences (t ++ c :: rest) = decodeReferences t ++ decodeReferences (c :: rest) := by
  fun_induction decodeReferences t with
  | case1 => rfl
  | case2 cs meaning behind hr _ ih =>
    have hfound := (transparent_append hc rest).referenceAt_eq cs
    rw [hr] at hfound
    rw [List.cons_append, decodeReferences_of_some hfound, List.append_assoc]
    exact congrArg (meaning ++ ·) ih
  | case3 cs hr ih =>
    have hfound := (transparent_append hc rest).referenceAt_eq cs
    rw [hr] at hfound
    rw [List.cons_append, decodeReferences_of_none hfound, ih, List.cons_append]
  | case4 d cs hd ih =>
    rw [List.cons_append, decodeReferences_cons_of_ne hd, ih, List.cons_append]

end Seam

end SafeOutput.Markup

namespace SafeOutput.Escape

open Text Markup

variable {c : Char} {t : Text} {w : Char → Text} {signs : List Char}

/-- Writing changes exactly these characters, and none of them is in what is written. -/
structure Rewrites (w : Char → Text) (signs : List Char) : Prop where
  plain : ∀ c, c ∉ signs → w c = [c]
  written : ∀ t : Text, (t.flatMap w).Disjoint signs

theorem Rewrites.flatMap_eq_self_iff (hw : Rewrites w signs) (t : Text) :
    t.flatMap w = t ↔ t.Disjoint signs := by
  constructor
  · intro h
    rw [← h]
    exact hw.written t
  · intro h
    exact flatMap_eq_self fun c hc => hw.plain c (h hc)

theorem isDelimiter_eq_false_iff : isDelimiter c = false ↔ c ∉ quotedDelimiters := by
  rw [← Bool.not_eq_true, isDelimiter_iff, quotedDelimiters]
  simp only [List.mem_cons, List.not_mem_nil, or_false]

theorem rewrites_tidyHtmlChar : Rewrites tidyHtmlChar quotedDelimiters where
  plain _ hc := tidyHtmlChar_of_plain (isDelimiter_eq_false_iff.2 hc)
  written := confines_tidyHtmlChar.quoted

theorem rewrites_tidyUnquotedChar :
    Rewrites tidyUnquotedChar (quotedDelimiters ++ unquotedDelimiters) where
  plain c hc := by
    rw [List.mem_append, not_or] at hc
    have hends : endsUnquoted c = false := by
      rw [← Bool.not_eq_true]
      intro he
      exact hc.2 (List.contains_iff_mem.1 he)
    rw [tidyUnquotedChar, hends]
    exact rewrites_tidyHtmlChar.plain c hc.1
  written := confines_tidyHtmlChar.unquoted

theorem tidyHtml_eq_self_iff (t : Text) : tidyHtml t = t ↔ t.Disjoint quotedDelimiters :=
  rewrites_tidyHtmlChar.flatMap_eq_self_iff t

theorem tidyUnquoted_eq_self_iff (t : Text) :
    tidyUnquoted t = t ↔ t.Disjoint (quotedDelimiters ++ unquotedDelimiters) :=
  rewrites_tidyUnquotedChar.flatMap_eq_self_iff t

theorem not_isReferenceChar_of_delimiter (hc : c ∈ quotedDelimiters) :
    isReferenceChar c = false := by
  have hall : quotedDelimiters.all (!isReferenceChar ·) := by decide
  exact (Bool.not_eq_true' _).mp (List.all_eq_true.1 hall c hc)

/-- Behind any text, even one that breaks off within a reference, a delimiter is read as itself. -/
theorem decodeReferences_tidyHtml_seam (hc : c ∈ quotedDelimiters) (t rest : Text) :
    decodeReferences (tidyHtml (t ++ c :: rest)) =
      (decodeReferences t).map replaceNull ++
        replaceNull c :: (decodeReferences rest).map replaceNull := by
  have hamp : c ≠ '&' := by
    rintro rfl
    exact absurd hc (by decide)
  rw [decodeReferences_tidyHtml, decodeReferences_append_stop (not_isReferenceChar_of_delimiter hc),
    decodeReferences_cons_of_ne hamp, List.map_append, List.map_cons]

/-- Tidying changes nothing in what a text says, also where a delimiter follows a reference that is
cut off. It leaves exactly the texts without delimiters as they are, so it leaves all that has been
escaped or tidied before. -/
theorem tidy_exact (t : Text) :
    decodeReferences (tidyHtml t) = (decodeReferences t).map replaceNull ∧
      (∀ c ∈ quotedDelimiters, ∀ rest, decodeReferences (tidyHtml (t ++ c :: rest)) =
        (decodeReferences t).map replaceNull ++
          replaceNull c :: (decodeReferences rest).map replaceNull) ∧
      (tidyHtml t = t ↔ t.Disjoint quotedDelimiters) ∧
      (tidyUnquoted t = t ↔ t.Disjoint (quotedDelimiters ++ unquotedDelimiters)) ∧
      tidyHtml (tidyHtml t) = tidyHtml t ∧
      tidyUnquoted (tidyUnquoted t) = tidyUnquoted t ∧
      tidyHtml (escapeHtml t) = escapeHtml t ∧
      tidyUnquoted (escapeUnquoted t) = escapeUnquoted t ∧
      tidyHtml (tidyUnquoted t) = tidyUnquoted t := by
  have hunquoted := confines_tidyHtmlChar.unquoted t
  refine ⟨decodeReferences_tidyHtml t, fun c hc => decodeReferences_tidyHtml_seam hc t,
    tidyHtml_eq_self_iff t, tidyUnquoted_eq_self_iff t, ?_, ?_, ?_, ?_, ?_⟩
  · exact (tidyHtml_eq_self_iff _).2 (confines_tidyHtmlChar.quoted t)
  · exact (tidyUnquoted_eq_self_iff _).2 hunquoted
  · exact (tidyHtml_eq_self_iff _).2 (confines_escapeHtmlChar.quoted t)
  · exact (tidyUnquoted_eq_self_iff _).2 (confines_escapeHtmlChar.unquoted t)
  · exact (tidyHtml_eq_self_iff _).2 (List.disjoint_append_right.1 hunquoted).1

/-- A reference that is cut off by an apostrophe is not taken for the number of one. -/
theorem tidy_exact_cut_off :
    '\'' ∈ quotedDelimiters ∧ tidyHtml "&#3'9;".toList = "&#3&#39;9;".toList ∧
      decodeReferences (tidyHtml "&#3'9;".toList) = "\x03'9;".toList := by
  have hc : '\'' ∈ quotedDelimiters := by decide
  have hseam := (tidy_exact "&#3".toList).2.1 '\'' hc "9;".toList
  refine ⟨hc, by decide, hseam.trans ?_⟩
  decide +kernel

end SafeOutput.Escape
