import Mathlib
import SafeOutput.Escape.Css

namespace SafeOutput.Css

open Escape

variable {c : Char} {before cs t u v w : Text}

/-- What ends an element or a section that holds a style. -/
def enders : List Text := ["</".toList, "]]>".toList]

def Embeddable (t : Text) : Prop :=
  ∀ w ∈ enders, ¬w <:+: t

def completes (before : Text) (c : Char) : Bool :=
  enders.any (·.isSuffixOf (before ++ [c]))

/-- A text with a backslash put before the last character of each ender in it. The flag tells the
characters that are put in from those of the text, which follows `before`. -/
def guarded (before : Text) : Text → List (Char × Bool)
  | [] => []
  | c :: cs =>
    if completes before c then ('\\', true) :: (c, false) :: guarded (before ++ [c]) cs
    else (c, false) :: guarded (before ++ [c]) cs

theorem guarded_of_completes (h : completes before c) (cs : Text) :
    guarded before (c :: cs) = ('\\', true) :: (c, false) :: guarded (before ++ [c]) cs :=
  if_pos h

theorem guarded_of_not (h : completes before c = false) (cs : Text) :
    guarded before (c :: cs) = (c, false) :: guarded (before ++ [c]) cs := by
  rw [guarded, h]
  rfl

theorem unguarded_guarded (before t : Text) :
    ((guarded before t).filter (!·.2)).map Prod.fst = t := by
  induction t generalizing before with
  | nil => rfl
  | cons c cs ih =>
    cases h : completes before c with
    | true =>
      rw [guarded_of_completes h, List.filter_cons_of_neg (by decide),
        List.filter_cons_of_pos rfl, List.map_cons, ih]
    | false => rw [guarded_of_not h, List.filter_cons_of_pos rfl, List.map_cons, ih]

section Seams

/-- No ender starts in one text and ends in the other. -/
def Apart (before t : Text) : Prop :=
  ∀ u v, u ≠ [] → v ≠ [] → u ++ v ∈ enders → u <:+ before → ¬v <+: t

theorem exists_of_completes (h : completes before c) :
    ∃ u, u ++ [c] ∈ enders ∧ u <:+ before := by
  obtain ⟨w, hw, hs⟩ := List.any_eq_true.1 h
  rw [List.isSuffixOf_iff_suffix, List.suffix_concat_iff] at hs
  rcases hs with rfl | ⟨u, rfl, hu⟩
  · exact absurd hw (by decide)
  · exact ⟨u, hw, hu⟩

theorem completes_of_suffix (hw : u ++ [c] ∈ enders) (hu : u <:+ before) : completes before c := by
  refine List.any_eq_true.2 ⟨u ++ [c], hw, ?_⟩
  rw [List.isSuffixOf_iff_suffix]
  exact List.suffix_concat_iff.2 (.inr ⟨u, rfl, hu⟩)

theorem not_completes_of_last (h : enders.all (·.getLast? != some c)) (before : Text) :
    completes before c = false := by
  rw [Bool.eq_false_iff]
  intro hc
  obtain ⟨u, hw, -⟩ := exists_of_completes hc
  have hlast := List.all_eq_true.1 h _ hw
  rw [List.getLast?_concat] at hlast
  exact absurd rfl (bne_iff_ne.1 hlast)

theorem Apart.not_completes (h : Apart before (c :: cs)) : completes before c = false := by
  rw [Bool.eq_false_iff]
  intro hc
  obtain ⟨u, hw, hu⟩ := exists_of_completes hc
  refine h u [c] ?_ (List.cons_ne_nil c []) hw hu ?_
  · rintro rfl
    have hlong : enders.all (2 ≤ ·.length) := by decide
    cases List.all_eq_true.1 hlong _ hw
  · exact List.prefix_append [c] cs

/-- A character at which no ender starts does not bring the texts together. -/
theorem Apart.concat (h : Apart before (c :: cs)) (hc : ∀ w ∈ enders, ¬w <+: c :: cs) :
    Apart (before ++ [c]) cs := by
  intro u v hu hv hw hs hp
  rcases List.suffix_concat_iff.1 hs with rfl | ⟨u, rfl, hbefore⟩
  · exact hu rfl
  rw [List.append_assoc, List.singleton_append] at hw
  have hstart : c :: v <+: c :: cs := List.cons_prefix_cons.2 ⟨rfl, hp⟩
  by_cases hnil : u = []
  · subst u
    exact hc _ hw hstart
  · exact h u (c :: v) hnil (List.cons_ne_nil c v) hw hbefore hstart

theorem apart_nil (t : Text) : Apart [] t := by
  intro u v hu _ _ hs
  exact absurd (List.suffix_nil.1 hs) hu

theorem apart_concat (hc : enders.all fun w => !w.dropLast.contains c) (before t : Text) :
    Apart (before ++ [c]) t := by
  intro u v hu hv hw hs
  rcases List.suffix_concat_iff.1 hs with rfl | ⟨u, rfl, -⟩
  · exact absurd rfl hu
  · have hin := List.all_eq_true.1 hc _ hw
    rw [List.dropLast_append_of_ne_nil hv, Bool.not_eq_true', ← Bool.not_eq_true,
      List.contains_iff_mem] at hin
    refine absurd (List.mem_append_left _ (List.mem_append_right u ?_)) hin
    exact List.mem_cons_self

end Seams

theorem not_starts (h₁ : ∀ rest, c = '<' → cs = '/' :: rest → False)
    (h₂ : ∀ rest, c = ']' → cs = ']' :: '>' :: rest → False) : ∀ w ∈ enders, ¬w <+: c :: cs := by
  intro w hw hp
  rw [enders, List.mem_cons, List.mem_singleton] at hw
  rcases hw with rfl | rfl
  · obtain ⟨rest, hr⟩ := hp
    obtain ⟨hc, hcs⟩ := List.cons.inj hr
    exact h₁ rest hc.symm hcs.symm
  · obtain ⟨rest, hr⟩ := hp
    obtain ⟨hc, hcs⟩ := List.cons.inj hr
    exact h₂ rest hc.symm hcs.symm

/-- Embedding puts a backslash before the last character of each ender, and nothing else. -/
theorem embedCss_eq_guarded (h : Apart before t) :
    embedCss t = (guarded before t).map Prod.fst := by
  fun_induction embedCss t generalizing before with
  | case1 cs ih =>
    have hopen := not_completes_of_last (c := '<') (by decide) before
    have hslash : completes (before ++ ['<']) '/' :=
      completes_of_suffix (u := ['<']) (by decide) (List.suffix_append _ _)
    rw [guarded_of_not hopen, guarded_of_completes hslash, List.map_cons, List.map_cons,
      List.map_cons, ← ih (apart_concat (by decide) _ _)]
  | case2 cs ih =>
    have hbracket := not_completes_of_last (c := ']') (by decide)
    have hclose : completes (before ++ [']'] ++ [']']) '>' := by
      apply completes_of_suffix (u := [']', ']']) (by decide)
      rw [List.append_assoc]
      exact List.suffix_append _ _
    rw [guarded_of_not (hbracket _), guarded_of_not (hbracket _), guarded_of_completes hclose,
      List.map_cons, List.map_cons, List.map_cons, List.map_cons,
      ← ih (apart_concat (by decide) _ _)]
  | case3 c cs h₁ h₂ ih =>
    rw [guarded_of_not h.not_completes, List.map_cons, ← ih (h.concat (not_starts h₁ h₂))]
  | case4 => rfl

theorem embeddable_cons :
    Embeddable (c :: cs) ↔ (∀ w ∈ enders, ¬w <+: c :: cs) ∧ Embeddable cs := by
  simp only [Embeddable, List.infix_cons_iff, not_or, forall_and]

theorem embeddable_nil : Embeddable [] := by
  intro w hw hi
  rw [List.infix_nil] at hi
  subst w
  exact absurd hw (by decide)

theorem embedCss_of_embeddable (h : Embeddable t) : embedCss t = t := by
  fun_induction embedCss t with
  | case1 cs ih =>
    refine absurd ?_ ((embeddable_cons.1 h).1 "</".toList (by decide))
    exact List.prefix_append _ cs
  | case2 cs ih =>
    refine absurd ?_ ((embeddable_cons.1 h).1 "]]>".toList (by decide))
    exact List.prefix_append _ cs
  | case3 c cs _ _ ih => rw [ih (embeddable_cons.1 h).2]
  | case4 => rfl

/-- What an ender goes on with is written only where it stood. -/
theorem starts_of_embedCss (hv : v ∈ ["/".toList, ">".toList, "]>".toList])
    (h : v <+: embedCss t) : v <+: t := by
  fun_induction embedCss t generalizing v with
  | case1 cs ih =>
    simp only [List.mem_cons, List.not_mem_nil, or_false] at hv
    rcases hv with rfl | rfl | rfl <;> exact absurd (List.cons_prefix_cons.1 h).1 (by decide)
  | case2 cs ih =>
    simp only [List.mem_cons, List.not_mem_nil, or_false] at hv
    rcases hv with rfl | rfl | rfl
    · exact absurd (List.cons_prefix_cons.1 h).1 (by decide)
    · exact absurd (List.cons_prefix_cons.1 h).1 (by decide)
    · have htail := (List.cons_prefix_cons.1 h).2
      exact absurd (List.cons_prefix_cons.1 htail).1 (by decide)
  | case3 c cs _ _ ih =>
    simp only [List.mem_cons, List.not_mem_nil, or_false] at hv
    rcases hv with rfl | rfl | rfl
    · obtain ⟨rfl, -⟩ := List.cons_prefix_cons.1 h
      exact List.prefix_append _ cs
    · obtain ⟨rfl, -⟩ := List.cons_prefix_cons.1 h
      exact List.prefix_append _ cs
    · obtain ⟨rfl, htail⟩ := List.cons_prefix_cons.1 h
      exact List.cons_prefix_cons.2 ⟨rfl, ih (by decide) htail⟩
  | case4 => exact h

theorem embeddable_embedCss (t : Text) : Embeddable (embedCss t) := by
  fun_induction embedCss t with
  | case1 cs ih =>
    refine embeddable_cons.2 ⟨?_, embeddable_cons.2 ⟨?_, embeddable_cons.2 ⟨?_, ih⟩⟩⟩
    all_goals exact not_starts nofun nofun
  | case2 cs ih =>
    refine embeddable_cons.2 ⟨?_, embeddable_cons.2 ⟨?_, embeddable_cons.2 ⟨?_,
      embeddable_cons.2 ⟨?_, ih⟩⟩⟩⟩
    all_goals exact not_starts nofun nofun
  | case3 c cs h₁ h₂ ih =>
    refine embeddable_cons.2 ⟨?_, ih⟩
    have hplain := not_starts h₁ h₂
    -- The rest of an ender behind `c` would stand in the text too.
    intro w hw hp
    rw [enders, List.mem_cons, List.mem_singleton] at hw
    rcases hw with rfl | rfl
    · obtain ⟨rfl, htail⟩ := List.cons_prefix_cons.1 hp
      refine hplain "</".toList (by decide) (List.cons_prefix_cons.2 ⟨rfl, ?_⟩)
      exact starts_of_embedCss (by decide) htail
    · obtain ⟨rfl, htail⟩ := List.cons_prefix_cons.1 hp
      refine hplain "]]>".toList (by decide) (List.cons_prefix_cons.2 ⟨rfl, ?_⟩)
      exact starts_of_embedCss (by decide) htail
  | case4 => exact embeddable_nil

/-- An embedded style holds nothing that ends the element or the section around it. It is the style
with a backslash before the last character of each ender; without these it is the style again, which
stays as it is exactly if it holds no ender. Embedding a second time changes nothing. -/
theorem embedCss_exact (css : Text) :
    let out := embedCss css
    Embeddable out ∧ out = (guarded [] css).map Prod.fst ∧
      ((guarded [] css).filter (!·.2)).map Prod.fst = css ∧
      (out = css ↔ Embeddable css) ∧ embedCss out = out := by
  intro out
  have hout : Embeddable out := embeddable_embedCss css
  refine ⟨hout, embedCss_eq_guarded (apart_nil css), unguarded_guarded [] css, ?_,
    embedCss_of_embeddable hout⟩
  constructor
  · intro h
    rw [← h]
    exact hout
  · exact embedCss_of_embeddable

/-- Enders that share characters with what stands beside them are each guarded once. -/
example : embedCss "<</ ]]]]>> <]]>/".toList = "<<\\/ ]]]]\\>> <]]\\>/".toList := by
  decide

end SafeOutput.Css
