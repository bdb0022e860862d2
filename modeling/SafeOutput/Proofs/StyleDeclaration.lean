import Mathlib
import SafeOutput.Markup.Style
import SafeOutput.Proofs.Text

namespace SafeOutput.Markup

open Text

variable {c : Char} {cs t u v word tail rest : Text} {keep : Bool}

/-- What no part of a declaration holds. -/
def declarationStops : List Char := [':', ';', ' ', '\t', '\r', '\n']

structure IsPart (t : Text) : Prop where
  ne_nil : t ≠ []
  chars : ∀ c ∈ t, c ∉ declarationStops

structure StyleDeclaration where
  property : Text
  value : Text
  isPart_property : IsPart property
  isPart_value : IsPart value

/-- The values of `white-space` that keep white space, or that do not. -/
def spaceWords : Bool → List Text
  | true => ["pre".toList, "pre-wrap".toList, "break-spaces".toList]
  | false => ["normal".toList, "nowrap".toList]

namespace StyleDeclaration

def parts (d : StyleDeclaration) : Text × Text :=
  (d.property, d.value)

structure Decides (d : StyleDeclaration) (keep : Bool) : Prop where
  property : lowerAscii d.property = "white-space".toList
  value : lowerAscii d.value ∈ spaceWords keep

end StyleDeclaration

def IsSpace (t : Text) : Prop :=
  ∀ c ∈ t, isHtmlSpace c

def Padded (word t : Text) : Prop :=
  ∃ before after, IsSpace before ∧ IsSpace after ∧ t = before ++ (word ++ after)

/-- Declarations as they may be written one behind the other. Between semicolons there is one of them
or only white space. -/
inductive StyleText : List StyleDeclaration → Text → Prop where
  | blank {t : Text} : IsSpace t → StyleText [] t
  | last {d : StyleDeclaration} {t u : Text} : Padded d.property t → Padded d.value u →
      StyleText [d] (t ++ ':' :: u)
  | skip {ds : List StyleDeclaration} {t rest : Text} : IsSpace t → StyleText ds rest →
      StyleText ds (t ++ ';' :: rest)
  | next {d : StyleDeclaration} {ds : List StyleDeclaration} {t u rest : Text} :
      Padded d.property t → Padded d.value u → StyleText ds rest →
      StyleText (d :: ds) (t ++ ':' :: (u ++ ';' :: rest))

theorem isStyleChar_iff : isStyleChar c ↔ c ∉ declarationStops := by
  simp only [isStyleChar, isHtmlSpace, declarationStops, Bool.not_eq_true', Bool.or_eq_false_iff,
    beq_eq_false_iff_ne, List.mem_cons, List.not_mem_nil, or_false, not_or]
  tauto

theorem isPart_iff : IsPart t ↔ t ≠ [] ∧ t.all isStyleChar := by
  rw [List.all_eq_true]
  simp only [isStyleChar_iff]
  exact ⟨fun h => ⟨h.ne_nil, h.chars⟩, fun h => ⟨h.1, h.2⟩⟩

instance (t : Text) : Decidable (IsPart t) :=
  decidable_of_iff _ isPart_iff.symm

instance (t : Text) : Decidable (IsSpace t) :=
  decidable_of_iff (t.all isHtmlSpace) List.all_eq_true

theorem not_isStyleChar_of_isHtmlSpace (h : isHtmlSpace c) : isStyleChar c = false := by
  rw [isStyleChar, h]
  rfl

theorem not_isHtmlSpace_of_isStyleChar (h : isStyleChar c) : isHtmlSpace c = false := by
  cases hs : isHtmlSpace c with
  | false => rfl
  | true => rw [← h, not_isStyleChar_of_isHtmlSpace hs]

/-- The text ends here or goes on with a colon or a semicolon. -/
def Stops (tail : Text) : Prop :=
  ∀ c ∈ tail.head?, c = ':' ∨ c = ';'

theorem stops_cons (h : c = ':' ∨ c = ';') (rest : Text) : Stops (c :: rest) := by
  intro d hd
  cases hd
  exact h

theorem Stops.not_isHtmlSpace (h : Stops tail) : ∀ c ∈ tail.head?, isHtmlSpace c = false := by
  intro c hc
  rcases h c hc with rfl | rfl <;> rfl

theorem Stops.not_isStyleChar (h : Stops tail) : ∀ c ∈ tail.head?, isStyleChar c = false := by
  intro c hc
  rcases h c hc with rfl | rfl <;> rfl

theorem Stops.dropWhile_isStyleChar (h : Stops tail) : tail.dropWhile isStyleChar = tail :=
  dropWhile_append_stop (List.forall_mem_nil _) h.not_isStyleChar

theorem IsSpace.dropWhile_append (ht : IsSpace t) (h : Stops tail) :
    (t ++ tail).dropWhile isHtmlSpace = tail :=
  dropWhile_append_stop ht h.not_isHtmlSpace

theorem IsSpace.not_isStyleChar (ht : IsSpace t) (h : Stops tail) :
    ∀ c ∈ (t ++ tail).head?, isStyleChar c = false := by
  cases t with
  | nil => exact h.not_isStyleChar
  | cons d ds =>
    intro c hc
    cases hc
    exact not_isStyleChar_of_isHtmlSpace (ht d List.mem_cons_self)

/-- A word is found behind white space, and what follows it behind white space again. -/
theorem Padded.read (h : Padded word t) (hw : IsPart word) (htail : Stops tail) :
    ((t ++ tail).dropWhile isHtmlSpace).takeWhile isStyleChar = word ∧
      (((t ++ tail).dropWhile isHtmlSpace).dropWhile isStyleChar).dropWhile isHtmlSpace = tail := by
  obtain ⟨before, after, hbefore, hafter, rfl⟩ := h
  have hchars := List.all_eq_true.1 (isPart_iff.1 hw).2
  have hfirst : ∀ c ∈ (word ++ (after ++ tail)).head?, isHtmlSpace c = false := by
    cases word with
    | nil => exact absurd rfl hw.ne_nil
    | cons d ds =>
      intro c hc
      cases hc
      exact not_isHtmlSpace_of_isStyleChar (hchars d List.mem_cons_self)
  have hstop := hafter.not_isStyleChar htail
  rw [List.append_assoc, List.append_assoc, dropWhile_append_stop hbefore hfirst,
    takeWhile_append_stop hchars hstop, dropWhile_append_stop hchars hstop,
    hafter.dropWhile_append htail]
  exact ⟨rfl, rfl⟩

section Declarations

theorem styleDeclarationAt_written {d : StyleDeclaration} (ht : Padded d.property t)
    (hu : Padded d.value u) : styleDeclarationAt (t ++ ':' :: u) = some (d.parts, []) ∧
      ∀ rest, styleDeclarationAt (t ++ ':' :: (u ++ ';' :: rest)) = some (d.parts, rest) := by
  have hproperty (v : Text) := ht.read d.isPart_property (stops_cons (.inl rfl) v)
  constructor
  · have hend : Stops [] := nofun
    obtain ⟨hvalue, htail⟩ := hu.read d.isPart_value hend
    rw [List.append_nil] at hvalue htail
    simp only [styleDeclarationAt, hproperty u, htail, hvalue]
    rfl
  · intro rest
    obtain ⟨hvalue, htail⟩ := hu.read d.isPart_value (stops_cons (.inr rfl) rest)
    simp only [styleDeclarationAt, hproperty (u ++ ';' :: rest), htail, hvalue]
    rfl

theorem styleDeclarationAt_blank (ht : IsSpace t) (h : ∀ c ∈ tail.head?, c = ';') :
    styleDeclarationAt (t ++ tail) = none := by
  have hstops : Stops tail := fun c hc => .inr (h c hc)
  rw [styleDeclarationAt, ht.dropWhile_append hstops, hstops.dropWhile_isStyleChar]
  have hdrop : tail.dropWhile isHtmlSpace = tail :=
    dropWhile_append_stop (List.forall_mem_nil _) hstops.not_isHtmlSpace
  simp only [hdrop]
  split
  case h_1 v => cases h ':' rfl
  case h_2 => rfl

theorem styleDeclarations_blank (ht : IsSpace t) (h : ∀ c ∈ tail.head?, c = ';') :
    styleDeclarations (t ++ tail) = styleDeclarations tail := by
  induction t with
  | nil => rfl
  | cons c cs ih =>
    have hnone : styleDeclarationAt (c :: (cs ++ tail)) = none := styleDeclarationAt_blank ht h
    have hskip : styleDeclarations (c :: (cs ++ tail)) = styleDeclarations (cs ++ tail) :=
      styleFinder.findAll_of_none hnone
    rw [List.cons_append, hskip]
    exact ih fun d hd => ht d (List.mem_cons_of_mem c hd)

/-- Each declaration is found as it was meant, and nothing else is found. -/
theorem StyleText.styleDeclarations_eq {ds : List StyleDeclaration} (h : StyleText ds t) :
    styleDeclarations t = ds.map StyleDeclaration.parts := by
  induction h with
  | @blank t ht =>
    have hend : ∀ c ∈ ([] : Text).head?, c = ';' := nofun
    have hblank := styleDeclarations_blank ht hend
    rw [List.append_nil] at hblank
    exact hblank.trans styleFinder.findAll_nil
  | last ht hu =>
    have hread := styleFinder.findAll_of_some (styleDeclarationAt_written ht hu).1
    rw [styleFinder.findAll_nil] at hread
    exact hread
  | @skip ds t rest ht _ ih =>
    have hhead : ∀ c ∈ (';' :: rest).head?, c = ';' := by
      intro c hc
      cases hc
      rfl
    have hskip : styleDeclarations (';' :: rest) = styleDeclarations rest := by
      apply styleFinder.findAll_of_none
      exact styleDeclarationAt_blank (t := []) (List.forall_mem_nil _) hhead
    rw [styleDeclarations_blank ht hhead, hskip, ih]
  | @next d ds t u rest ht hu _ ih =>
    have hread := styleFinder.findAll_of_some ((styleDeclarationAt_written ht hu).2 rest)
    exact hread.trans (congrArg (d.parts :: ·) ih)

end Declarations

section Decision

theorem valueKeepsSpace_eq_some_iff : valueKeepsSpace t = some keep ↔ t ∈ spaceWords keep := by
  have hdisjoint : (spaceWords false).all fun word => !(spaceWords true).contains word := by decide
  unfold valueKeepsSpace
  split
  case isTrue h =>
    have htrue : t ∈ spaceWords true := List.contains_iff_mem.1 h
    cases keep with
    | true => exact iff_of_true rfl htrue
    | false =>
      refine iff_of_false nofun ?_
      intro hfalse
      have hnot := List.all_eq_true.1 hdisjoint t hfalse
      rw [List.contains_iff_mem.2 htrue] at hnot
      cases hnot
  case isFalse h =>
    have htrue : t ∉ spaceWords true := fun hm => h (List.contains_iff_mem.2 hm)
    split
    case isTrue hf =>
      have hfalse : t ∈ spaceWords false := List.contains_iff_mem.1 hf
      cases keep with
      | true => exact iff_of_false nofun htrue
      | false => exact iff_of_true rfl hfalse
    case isFalse hf =>
      refine iff_of_false nofun ?_
      cases keep with
      | true => exact htrue
      | false => exact fun hm => hf (List.contains_iff_mem.2 hm)

namespace StyleDeclaration

def keepsSpace (d : StyleDeclaration) : Option Bool :=
  if lowerAscii d.property = "white-space".toList then valueKeepsSpace (lowerAscii d.value)
  else none

theorem keepsSpace_eq_some_iff (d : StyleDeclaration) :
    d.keepsSpace = some keep ↔ d.Decides keep := by
  unfold keepsSpace
  split
  case isTrue hp =>
    rw [valueKeepsSpace_eq_some_iff]
    exact ⟨fun hv => ⟨hp, hv⟩, fun h => h.value⟩
  case isFalse hp => exact iff_of_false nofun fun h => hp h.property

theorem keepsSpace_eq_none_iff (d : StyleDeclaration) :
    d.keepsSpace = none ↔ ∀ keep, ¬d.Decides keep := by
  rw [Option.eq_none_iff_forall_ne_some]
  exact forall_congr' fun keep => not_congr d.keepsSpace_eq_some_iff

end StyleDeclaration

theorem StyleText.styleKeepsSpace_eq {ds : List StyleDeclaration} (h : StyleText ds t) :
    styleKeepsSpace t = ds.findSome? StyleDeclaration.keepsSpace := by
  rw [styleKeepsSpace, h.styleDeclarations_eq, List.findSome?_map]
  rfl

end Decision

/-- A style is read as the declarations that it was written from. The first of them that says whether
white space is kept decides, and those that do not say it are passed over. -/
theorem styleText_exact {ds : List StyleDeclaration} (h : StyleText ds t) :
    styleDeclarations t = ds.map StyleDeclaration.parts ∧
      (∀ keep, styleKeepsSpace t = some keep ↔ ∃ before d after, ds = before ++ d :: after ∧
        d.Decides keep ∧ ∀ e ∈ before, ∀ other, ¬e.Decides other) ∧
      (styleKeepsSpace t = none ↔ ∀ d ∈ ds, ∀ keep, ¬d.Decides keep) := by
  refine ⟨h.styleDeclarations_eq, ?_, ?_⟩
  · intro keep
    rw [h.styleKeepsSpace_eq, List.findSome?_eq_some_iff]
    simp only [StyleDeclaration.keepsSpace_eq_some_iff, StyleDeclaration.keepsSpace_eq_none_iff]
  · rw [h.styleKeepsSpace_eq, List.findSome?_eq_none_iff]
    simp only [StyleDeclaration.keepsSpace_eq_none_iff]

/-- A value of the property that says nothing of white space does not end the search. -/
theorem styleText_exact_unknown_value : ∃ ds : List StyleDeclaration,
    StyleText ds "color:red;; WHITE-SPACE : initial ;white-space:\tPre-Wrap;".toList ∧
      styleKeepsSpace "color:red;; WHITE-SPACE : initial ;white-space:\tPre-Wrap;".toList =
        some true := by
  obtain ⟨color, hcolor, hred⟩ : ∃ d : StyleDeclaration,
      d.property = "color".toList ∧ d.value = "red".toList :=
    ⟨⟨_, _, by decide, by decide⟩, rfl, rfl⟩
  obtain ⟨unknown, hspace, hinitial⟩ : ∃ d : StyleDeclaration,
      d.property = "WHITE-SPACE".toList ∧ d.value = "initial".toList :=
    ⟨⟨_, _, by decide, by decide⟩, rfl, rfl⟩
  obtain ⟨known, hknown, hwrap⟩ : ∃ d : StyleDeclaration,
      d.property = "white-space".toList ∧ d.value = "Pre-Wrap".toList :=
    ⟨⟨_, _, by decide, by decide⟩, rfl, rfl⟩
  have hnil : IsSpace [] := by decide
  have hone : IsSpace [' '] := by decide
  have hbare (word : Text) : Padded word ([] ++ (word ++ [])) := ⟨[], [], hnil, hnil, rfl⟩
  have hspaced (word : Text) : Padded word ([' '] ++ (word ++ [' '])) := ⟨_, _, hone, hone, rfl⟩
  have htab : Padded known.value (['\t'] ++ (known.value ++ [])) := ⟨_, _, by decide, hnil, rfl⟩
  have hlast := StyleText.next (hbare known.property) htab (.blank hnil)
  have hmid := StyleText.next (hspaced unknown.property) (hspaced unknown.value) hlast
  have htext := StyleText.next (hbare color.property) (hbare color.value) (.skip hnil hmid)
  rw [hcolor, hred, hspace, hinitial, hknown, hwrap] at htext
  refine ⟨_, htext, ((styleText_exact htext).2.1 true).2 ⟨[color, unknown], known, [], rfl, ?_, ?_⟩⟩
  · exact ⟨by rw [hknown]; decide, by rw [hwrap]; decide⟩
  · intro d hd other h
    rcases List.mem_pair.1 hd with rfl | rfl
    · have hproperty := h.property
      rw [hcolor] at hproperty
      exact absurd hproperty (by decide)
    · have hvalue := h.value
      rw [hinitial] at hvalue
      cases other with
      | true => exact absurd hvalue (by decide)
      | false => exact absurd hvalue (by decide)

end SafeOutput.Markup
