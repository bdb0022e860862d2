import Mathlib
import SafeOutput.Proofs.Text
import SafeOutput.Sanitizer

namespace SafeOutput

open Text

variable {c d : Char} {s t word : Text}

/-- What opens a comment inside a script element, and what ends the element. -/
def scriptHazards : List Text :=
  ["<!--".toList, "</script".toList]

/-- One of them stands at the head of the text, in letters of either case. -/
def StartsHazard (t : Text) : Prop :=
  ∃ word ∈ scriptHazards, word <+: lowerAscii t

/-- Whatever is written behind the text, no hazard starts in it. -/
def ScriptSafe (s : Text) : Prop :=
  ∀ rest, ∀ i < s.length, ¬StartsHazard ((s ++ rest).drop i)

theorem eq_of_toLower_eq (h : c.toLower = d) (hd : d.isLower = false) : c = d := by
  have hu : ¬c.isUpper := by
    intro hu
    rw [← h, Char.isLower_toLower_eq_isAlpha, isAlpha_iff.2 (.inl hu)] at hd
    cases hd
  rw [← h, Char.toLower_eq_of_not_isUpper hu]

/-- A text agrees with a word as far as it goes exactly if it can be continued to start with it. -/
theorem couldContinueTo_iff (hw : lowerAscii word = word) (t : Text) :
    couldContinueTo word t ↔ ∃ rest, word <+: lowerAscii (t ++ rest) := by
  induction word generalizing t with
  | nil => exact iff_of_true rfl ⟨[], List.nil_prefix⟩
  | cons w ws ih =>
    obtain ⟨-, hws⟩ := List.cons.inj hw
    cases t with
    | nil =>
      -- Nothing is left to disagree, and the word itself is a continuation.
      apply iff_of_true rfl
      refine ⟨w :: ws, ?_⟩
      rw [List.nil_append, hw]
    | cons c cs =>
      have hstep (rest : Text) : w :: ws <+: lowerAscii (c :: cs ++ rest) ↔
          w = c.toLower ∧ ws <+: lowerAscii (cs ++ rest) := List.cons_prefix_cons
      have hcould : couldContinueTo (w :: ws) (c :: cs) =
          (w == c.toLower && couldContinueTo ws cs) := rfl
      rw [hcould, Bool.and_eq_true, beq_iff_eq, ih hws]
      simp only [hstep, exists_and_left]

theorem eq_of_startsHazard (h : StartsHazard (c :: t)) : c = '<' := by
  obtain ⟨word, hm, hp⟩ := h
  have hall : scriptHazards.all fun w => w.head? == some '<' := by decide
  have hhead := eq_of_beq (List.all_eq_true.1 hall word hm)
  obtain ⟨tail, rfl⟩ := List.head?_eq_some_iff.1 hhead
  have hc := (List.cons_prefix_cons.1 hp).1
  exact eq_of_toLower_eq hc.symm (by decide)

theorem exists_startsHazard_iff (c : Char) (cs : Text) :
    (c == '<' &&
      (couldContinueTo "<!--".toList (c :: cs) || couldContinueTo "</script".toList (c :: cs))) ↔
      ∃ rest, StartsHazard (c :: cs ++ rest) := by
  rw [Bool.and_eq_true, Bool.or_eq_true, couldContinueTo_iff (by decide),
    couldContinueTo_iff (by decide), beq_iff_eq]
  constructor
  · rintro ⟨-, ⟨rest, h⟩ | ⟨rest, h⟩⟩
    · exact ⟨rest, _, List.mem_cons_self, h⟩
    · exact ⟨rest, _, List.mem_cons_of_mem _ List.mem_cons_self, h⟩
  · rintro ⟨rest, h⟩
    refine ⟨eq_of_startsHazard h, ?_⟩
    obtain ⟨word, hm, hp⟩ := h
    simp only [scriptHazards, List.mem_cons, List.not_mem_nil, or_false] at hm
    rcases hm with rfl | rfl
    · exact .inl ⟨rest, hp⟩
    · exact .inr ⟨rest, hp⟩

/-- The scan finds a hazard exactly if one starts in the text or could be completed to do so. -/
theorem hasScriptHazard_iff (s : Text) :
    hasScriptHazard s ↔ ∃ rest, ∃ i < s.length, StartsHazard ((s ++ rest).drop i) := by
  induction s with
  | nil =>
    apply iff_of_false Bool.false_ne_true
    rintro ⟨rest, i, hi, -⟩
    exact Nat.not_lt_zero i hi
  | cons c cs ih =>
    rw [hasScriptHazard, Bool.or_eq_true, exists_startsHazard_iff, ih]
    constructor
    · rintro (⟨rest, h⟩ | ⟨rest, i, hi, h⟩)
      · exact ⟨rest, 0, Nat.zero_lt_succ _, h⟩
      · exact ⟨rest, i + 1, Nat.succ_lt_succ hi, h⟩
    · rintro ⟨rest, i, hi, h⟩
      cases i with
      | zero => exact .inl ⟨rest, h⟩
      | succ i => exact .inr ⟨rest, i, Nat.lt_of_succ_lt_succ hi, h⟩

theorem scriptSafe_iff (s : Text) : ScriptSafe s ↔ hasScriptHazard s = false := by
  rw [Bool.eq_false_iff, Ne, hasScriptHazard_iff]
  simp only [ScriptSafe, not_exists, not_and]

theorem ne_innocuousText_of_hasScriptHazard (h : hasScriptHazard s) : s ≠ innocuousText := by
  rintro rfl
  cases h

namespace Sanitizer

/-- Script data are refused exactly if a hazard starts in them or could be completed behind them,
and what is emitted is safe before any text at all. -/
theorem filterHtmlScriptPhrasingData_exact (v : Value) :
    let out := (filterHtmlScriptPhrasingData v).value
    (out = v.display ↔ ScriptSafe v.display) ∧ (¬ScriptSafe v.display → out = innocuousText) ∧
      ScriptSafe out := by
  intro out
  rw [scriptSafe_iff, scriptSafe_iff, Bool.not_eq_false]
  cases h : hasScriptHazard v.display with
  | true =>
    have hout : out = innocuousText := by
      simp only [out, filterHtmlScriptPhrasingData, h, ↓reduceIte]
    have hne := ne_innocuousText_of_hasScriptHazard h
    rw [hout]
    exact ⟨iff_of_false hne.symm (Ne.symm Bool.false_ne_true), fun _ => rfl, rfl⟩
  | false =>
    have hout : out = v.display := by
      simp only [out, filterHtmlScriptPhrasingData, h, Bool.false_eq_true, ↓reduceIte,
        Journal.value_pure]
    rw [hout]
    exact ⟨iff_of_true rfl rfl, fun hf => absurd hf Bool.false_ne_true, h⟩

/-- A closer that is cut off is refused, since its end may follow. -/
theorem filterHtmlScriptPhrasingData_cut_off :
    let v : Value := .str "1 < 2 </SCR".toList
    ¬ScriptSafe v.display ∧ (filterHtmlScriptPhrasingData v).value = innocuousText := by
  intro v
  have hcut : ¬ScriptSafe v.display := by
    intro h
    apply h "ipt>".toList 6 (by decide)
    exact ⟨"</script".toList, by decide, by decide⟩
  exact ⟨hcut, (filterHtmlScriptPhrasingData_exact v).2.1 hcut⟩

end Sanitizer

end SafeOutput
