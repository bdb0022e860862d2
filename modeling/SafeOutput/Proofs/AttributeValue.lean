import Mathlib
import SafeOutput.Proofs.Decoding
import SafeOutput.Proofs.Pipeline

namespace SafeOutput.Escape

open Text Markup

variable {c d : Char} {t : Text} {w : Char → Text}

/-- What could end a quoted attribute value or its tag, and the null character. -/
def quotedDelimiters : List Char :=
  ['<', '>', '"', '\'', '\x00']

def unquotedDelimiters : List Char :=
  ['\t', '\n', '\x0b', '\x0c', '\r', ' ', '-', '/', '=', '\x60', '\u0085', '\u00a0', '\u2028',
    '\u2029']

theorem not_endsUnquoted_of_isDigit (h : d.isDigit) : endsUnquoted d = false := by
  rw [Bool.eq_false_iff]
  intro he
  have hnot := (List.all_eq_true (p := (!Char.isDigit ·))).1 (by decide) d
    (List.contains_iff_mem.1 he)
  rw [h] at hnot
  cases hnot

theorem plain_of_mem_numericReference (h : d ∈ numericReference c) :
    isDelimiter d = false ∧ endsUnquoted d = false := by
  have hform : numericReference c = '&' :: '#' :: (decimal c.toNat ++ [';']) := rfl
  rw [hform, List.mem_cons, List.mem_cons, List.mem_append, List.mem_singleton] at h
  rcases h with rfl | rfl | hd | rfl
  · decide
  · decide
  · have hdigit := isDigit_of_mem_decimal hd
    exact ⟨plain_of_isDigit hdigit, not_endsUnquoted_of_isDigit hdigit⟩
  · decide

/-- Writes no delimiter, and nothing that ends an unquoted value but for what does so itself. -/
def Confines (w : Char → Text) : Prop :=
  ∀ c, ∀ d ∈ w c, isDelimiter d = false ∧ (endsUnquoted c = false → endsUnquoted d = false)

theorem confines_tidyHtmlChar : Confines tidyHtmlChar := by
  intro c d hd
  refine ⟨(mem_tidyHtmlChar hd).1, ?_⟩
  intro hc
  cases hdelimiter : isDelimiter c with
  | true =>
    have hall : (tidyHtmlChar c).all (!endsUnquoted ·) := by
      rcases isDelimiter_iff.1 hdelimiter with rfl | rfl | rfl | rfl | rfl <;> decide
    simpa using List.all_eq_true.1 hall d hd
  | false =>
    rw [tidyHtmlChar_of_plain hdelimiter, List.mem_singleton] at hd
    rw [hd]
    exact hc

theorem confines_escapeHtmlChar : Confines escapeHtmlChar := by
  intro c d hd
  rw [escapeHtmlChar] at hd
  split at hd
  case isTrue =>
    have hall : "&amp;".toList.all fun e => !isDelimiter e && !endsUnquoted e := by decide
    have he := List.all_eq_true.1 hall d hd
    rw [Bool.and_eq_true, Bool.not_eq_true', Bool.not_eq_true'] at he
    exact ⟨he.1, fun _ => he.2⟩
  case isFalse => exact confines_tidyHtmlChar c d hd

theorem Confines.quoted (hw : Confines w) (t : Text) :
    (t.flatMap w).Disjoint quotedDelimiters := by
  refine disjoint_of_class (p := (!isDelimiter ·)) ?_ (by decide)
  intro d hd
  obtain ⟨c, -, hc⟩ := List.mem_flatMap.1 hd
  exact (Bool.not_eq_true' _).mpr (hw c d hc).1

theorem Confines.unquoted (hw : Confines w) (t : Text) :
    (t.flatMap fun c => if endsUnquoted c then numericReference c else w c).Disjoint
      (quotedDelimiters ++ unquotedDelimiters) := by
  have hplain : ∀ d ∈ t.flatMap fun c => if endsUnquoted c then numericReference c else w c,
      isDelimiter d = false ∧ endsUnquoted d = false := by
    intro d hd
    obtain ⟨c, -, hc⟩ := List.mem_flatMap.1 hd
    split at hc
    case isTrue => exact plain_of_mem_numericReference hc
    case isFalse he =>
      obtain ⟨hdelimiter, hends⟩ := hw c d hc
      exact ⟨hdelimiter, hends (Bool.eq_false_iff.2 he)⟩
  apply List.disjoint_append_right.2
  constructor
  · refine disjoint_of_class (p := (!isDelimiter ·)) ?_ (by decide)
    exact fun d hd => (Bool.not_eq_true' _).mpr (hplain d hd).1
  · refine disjoint_of_class (p := (!endsUnquoted ·)) ?_ (by decide)
    exact fun d hd => (Bool.not_eq_true' _).mpr (hplain d hd).2

theorem tidyHtml_replaceChar (t : Text) :
    tidyHtml (replaceChar '<' "&lt;".toList t) = tidyHtml t := by
  rw [tidyHtml, replaceChar, List.flatMap_assoc, tidyHtml]
  congr 1
  funext c
  split
  case isTrue hc =>
    rw [hc]
    rfl
  case isFalse => exact List.flatMap_singleton _ _

theorem tidyHtml_stripAll (t : Text) :
    tidyHtml (stripAll t) = tidyHtml (gaps (Grammar.markup.tokens t)) :=
  tidyHtml_replaceChar _

theorem decodeReferences_tidyHtml (t : Text) :
    decodeReferences (tidyHtml t) = (decodeReferences t).map replaceNull :=
  keepsReferences_tidyHtmlChar.decodeReferences_flatMap t

end SafeOutput.Escape

namespace SafeOutput.Sanitizer

open Text Markup Escape

theorem escapeHtmlRcdata_eq (tags : TagSet) (v : Value) :
    (Sanitizer.mk .standard tags).escapeHtmlRcdata v =
      (v.contentIf? .html).elim (Escape.escapeHtml v.display) tidyHtml := by
  rw [escapeHtmlRcdata]
  cases v.contentIf? .html with
  | none => rfl
  | some html => rfl

theorem escapeHtmlAttribute_eq (tags : TagSet) (v : Value) :
    (Sanitizer.mk .standard tags).escapeHtmlAttribute v =
      (v.contentIf? .html).elim (Escape.escapeHtml v.display) fun html =>
        tidyHtml (gaps (Grammar.markup.tokens html)) := by
  rw [escapeHtmlAttribute]
  cases v.contentIf? .html with
  | none => rfl
  | some html => exact tidyHtml_stripAll html

theorem escapeHtmlAttributeNospace_eq (tags : TagSet) (v : Value) :
    (Sanitizer.mk .standard tags).escapeHtmlAttributeNospace v =
      (v.contentIf? .html).elim (escapeUnquoted v.display) fun html =>
        tidyUnquoted (stripAll html) := by
  rw [escapeHtmlAttributeNospace]
  cases v.contentIf? .html with
  | none => rfl
  | some html => rfl

/-- Values are confined to the attribute, trusted or not, and say there what they said: a text says
itself, and HTML what stands between its tags with the references resolved. -/
theorem escapeHtmlAttribute_faithful (tags : TagSet) (v : Value) :
    let s : Sanitizer := ⟨.standard, tags⟩
    (s.escapeHtmlRcdata v).Disjoint quotedDelimiters ∧
      (s.escapeHtmlAttribute v).Disjoint quotedDelimiters ∧
      (s.escapeHtmlAttributeNospace v).Disjoint (quotedDelimiters ++ unquotedDelimiters) ∧
      decodeReferences (s.escapeHtmlAttribute v) =
        ((v.contentIf? .html).elim v.display fun html =>
          decodeReferences (gaps (Grammar.markup.tokens html))).map replaceNull ∧
      decodeReferences (s.escapeHtmlRcdata v) =
        ((v.contentIf? .html).elim v.display decodeReferences).map replaceNull := by
  intro s
  rw [escapeHtmlRcdata_eq, escapeHtmlAttribute_eq, escapeHtmlAttributeNospace_eq]
  cases v.contentIf? .html with
  | none =>
    have hquoted := confines_escapeHtmlChar.quoted v.display
    have hdecode := decodeReferences_escapeHtml v.display
    exact ⟨hquoted, hquoted, confines_escapeHtmlChar.unquoted _, hdecode, hdecode⟩
  | some html =>
    have hquoted (t : Text) := confines_tidyHtmlChar.quoted t
    exact ⟨hquoted _, hquoted _, confines_tidyHtmlChar.unquoted _, decodeReferences_tidyHtml _,
      decodeReferences_tidyHtml _⟩

end SafeOutput.Sanitizer
