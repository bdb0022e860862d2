import Mathlib
import SafeOutput.Proofs.FilterStability
import SafeOutput.Sanitizer

namespace SafeOutput.FilterContext

theorem accepts_filter {context : FilterContext} (h : context.accepts context.sentinel) (t : Text) :
    context.accepts (context.filter t) := by
  cases ha : context.accepts t with
  | true =>
    rw [filter_of_accepts ha, accepts_emit]
    exact ha
  | false =>
    rw [filter_of_refused ha]
    exact h

end SafeOutput.FilterContext

namespace SafeOutput.Names

open Text Accept

variable {c : Char} {a t word : Text} {lower : Text → Text}

def lowerings : List (Text → Text) := [lowerAscii, lowercase]

/-- The characters of names besides ASCII letters and digits: two fold to letters. -/
def nameSigns : List Char := ['\u017f', '\u212a', '_', '$', ':', '-']

def nameEnds : List Char := ['=', '/', '"', '\'', '\x60', '<', '>']

section Characters

theorem isNameChar_iff : isNameChar c ↔ c.isAlphanum ∨ c ∈ nameSigns := by
  simp only [isNameChar, nameSigns, Bool.or_eq_true, beq_iff_eq, isFoldedAlphanum_iff,
    List.mem_cons, List.not_mem_nil, or_false, or_assoc]

theorem not_isBlank_of_isNameChar (h : isNameChar c) : isBlank c = false := by
  rcases isNameChar_iff.1 h with ha | hm
  · exact not_isBlank_of_isAlphanum ha
  · have hall : nameSigns.all (!isBlank ·) := by decide
    exact (Bool.not_eq_true' _).mp (List.all_eq_true.1 hall c hm)

/-- A text of the characters of names, so that nothing in it ends the name. -/
structure IsName (a : Text) : Prop where
  chars : ∀ c ∈ a, c.isAlphanum ∨ c ∈ nameSigns
  unspaced : ∀ c ∈ a, isBlank c = false
  unbroken : a.Disjoint nameEnds

theorem IsName.isNameChar (h : IsName a) (hc : c ∈ a) : isNameChar c :=
  isNameChar_iff.2 (h.chars c hc)

theorem isName_iff : IsName a ↔ ∀ c ∈ a, isNameChar c := by
  constructor
  · intro h c hc
    exact h.isNameChar hc
  · intro h
    have hnone : nameEnds.all (!Accept.isNameChar ·) := by decide
    refine ⟨?_, ?_, disjoint_of_class h hnone⟩
    · intro c hc
      exact isNameChar_iff.1 (h c hc)
    · intro c hc
      exact not_isBlank_of_isNameChar (h c hc)

end Characters

section Mappings

/-- On names, a mapping of case is not seen by folding. -/
def KeepsFold (lower : Text → Text) : Prop :=
  ∀ t, IsName t → (lower t).map foldChar = t.map foldChar

theorem ascii_of_isNameChar (h : isNameChar c) (hs : c ≠ '\u017f') (hk : c ≠ '\u212a') :
    c.toNat < 128 := by
  rcases isNameChar_iff.1 h with ha | hm
  · exact ascii_of_isAlphanum ha
  · simp only [nameSigns, List.mem_cons, List.not_mem_nil, or_false, hs, hk, false_or] at hm
    rcases hm with rfl | rfl | rfl | rfl <;> decide

theorem map_foldChar_lowerChar (h : isNameChar c) : (lowerChar c).map foldChar = [foldChar c] := by
  by_cases hs : c = '\u017f'
  · subst c
    decide +kernel
  by_cases hk : c = '\u212a'
  · subst c
    decide +kernel
  rw [lowerChar_of_ascii (ascii_of_isNameChar h hs hk), List.map_singleton, foldChar_toLower]

theorem map_foldChar_lowercaseAfter (before : Text) (h : ∀ c ∈ t, isNameChar c) :
    (lowercaseAfter before t).map foldChar = t.map foldChar := by
  induction t generalizing before with
  | nil => rfl
  | cons c cs ih =>
    obtain ⟨hc, hcs⟩ := List.forall_mem_cons.1 h
    have hsigma : (c == 'Σ') = false := by
      rw [beq_eq_false_iff_ne]
      rintro rfl
      exact absurd hc (by decide)
    rw [lowercaseAfter, hsigma, List.map_append, ih _ hcs, List.map_cons]
    exact congrArg (· ++ _) (map_foldChar_lowerChar hc)

theorem keepsFold_lowerAscii : KeepsFold lowerAscii := by
  intro t _
  rw [lowerAscii, List.map_map]
  apply List.map_congr_left
  intro c _
  exact foldChar_toLower c

theorem keepsFold_lowercase : KeepsFold lowercase := by
  intro t ht
  exact map_foldChar_lowercaseAfter [] (isName_iff.1 ht)

theorem keepsFold_of_mem (h : lower ∈ lowerings) : KeepsFold lower := by
  simp only [lowerings, List.mem_cons, List.not_mem_nil, or_false] at h
  rcases h with rfl | rfl
  · exact keepsFold_lowerAscii
  · exact keepsFold_lowercase

end Mappings

section Words

/-- Attributes that run a script or load something start so. -/
def barredStarts : List Text := ["on".toList, "src".toList]

def barredAttributes : List Text :=
  ["action".toList, "archive".toList, "background".toList, "cite".toList, "classid".toList,
    "codebase".toList, "content".toList, "data".toList, "dsync".toList, "href".toList,
    "http-equiv".toList, "longdesc".toList, "style".toList, "usemap".toList]

def barredElements : List Text :=
  ["base".toList, "iframe".toList, "link".toList, "no".toList, "object".toList, "script".toList,
    "style".toList, "textarea".toList, "title".toList, "xmp".toList]

structure HarmlessAttribute (a : Text) : Prop where
  starts : ∀ w ∈ barredStarts, ¬w <+: a
  names : a ∉ barredAttributes

def HarmlessElement (a : Text) : Prop :=
  ∀ w ∈ barredElements, ¬w <+: a

def isFolded (word : Text) : Bool :=
  word.map foldChar == word

theorem map_foldChar_starts (hw : isFolded word) (h : word <+: t) : word <+: t.map foldChar := by
  rw [← eq_of_beq hw]
  exact h.map foldChar

/-- Barred words are folded, so that folding hides none of them. -/
theorem HarmlessAttribute.of_map_foldChar (h : HarmlessAttribute (a.map foldChar)) :
    HarmlessAttribute a where
  starts w hw hp := by
    have hall : barredStarts.all isFolded := by decide
    exact h.starts w hw (map_foldChar_starts (List.all_eq_true.1 hall w hw) hp)
  names hm := by
    have hall : barredAttributes.all isFolded := by decide
    apply h.names
    rw [eq_of_beq (List.all_eq_true.1 hall a hm)]
    exact hm

theorem HarmlessElement.of_map_foldChar (h : HarmlessElement (a.map foldChar)) :
    HarmlessElement a := by
  intro w hw hp
  have hall : barredElements.all isFolded := by decide
  exact h w hw (map_foldChar_starts (List.all_eq_true.1 hall w hw) hp)

theorem dropFolded?_blank_iff (ha : IsName a) :
    (dropFolded? word a).any (·.all isBlank) ↔ a.map foldChar = word := by
  constructor
  · intro h
    cases hd : dropFolded? word a with
    | none =>
      rw [hd] at h
      cases h
    | some rest =>
      rw [hd] at h
      obtain ⟨u, rfl, hu⟩ := dropFolded?_eq_some hd
      cases rest with
      | nil =>
        rw [List.append_nil]
        exact hu
      | cons c cs =>
        have hblank : isBlank c := List.all_eq_true.1 h c List.mem_cons_self
        rw [ha.unspaced c (List.mem_append_right u List.mem_cons_self)] at hblank
        cases hblank
  · intro h
    have hd : dropFolded? word a = some [] :=
      dropFolded?_eq_some_iff.2 ⟨a, (List.append_nil a).symm, h⟩
    rw [hd]
    rfl

theorem isDangerousAttribute_eq (t : Text) : isDangerousAttribute t =
    (barredStarts.any (startsFolded · t) ||
      barredAttributes.any fun w => (dropFolded? w t).any (·.all isBlank)) := rfl

theorem isDangerousElement_eq (t : Text) : isDangerousElement t =
    barredElements.any (startsFolded · t) := rfl

theorem not_isDangerousAttribute_iff (ha : IsName a) :
    isDangerousAttribute a = false ↔ HarmlessAttribute (a.map foldChar) := by
  rw [isDangerousAttribute_eq, Bool.or_eq_false_iff, List.any_eq_false, List.any_eq_false]
  constructor
  · rintro ⟨hstarts, hnames⟩
    constructor
    · intro w hw
      rw [← startsFolded_iff_prefix_map]
      exact hstarts w hw
    · intro hm
      exact hnames _ hm ((dropFolded?_blank_iff ha).2 rfl)
  · intro h
    constructor
    · intro w hw
      rw [startsFolded_iff_prefix_map]
      exact h.starts w hw
    · intro w hw hd
      rw [← (dropFolded?_blank_iff ha).1 hd] at hw
      exact h.names hw

theorem not_isDangerousElement_iff :
    isDangerousElement a = false ↔ HarmlessElement (a.map foldChar) := by
  rw [isDangerousElement_eq, List.any_eq_false]
  simp only [startsFolded_iff_prefix_map]
  rfl

theorem isSafeAttributeName_iff :
    isSafeAttributeName a ↔ IsName a ∧ HarmlessAttribute (a.map foldChar) := by
  rw [isSafeAttributeName, Bool.and_eq_true, Bool.not_eq_true', List.all_eq_true, ← isName_iff,
    and_comm]
  exact and_congr_right not_isDangerousAttribute_iff

theorem isSafeElementName_iff :
    isSafeElementName a ↔ IsName a ∧ HarmlessElement (a.map foldChar) := by
  rw [isSafeElementName, Bool.and_eq_true, Bool.not_eq_true', List.all_eq_true, ← isName_iff,
    and_comm, not_isDangerousElement_iff]

end Words

section Filters

variable {context : FilterContext} {harmless : Text → Prop}

/-- A filter of names emits a name that is harmless in lower case. It is the text itself exactly if
this is a name and harmless when it is folded. -/
structure Filtered (harmless : Text → Prop) (t a : Text) : Prop where
  isName : IsName a
  lower : ∀ lower ∈ lowerings, harmless (lower a)
  kept : a = t ↔ IsName t ∧ harmless (t.map foldChar)
  replaced : a ≠ t → a = innocuousText

theorem filtered_filter (hfold : ∀ a, harmless (a.map foldChar) → harmless a)
    (haccepts : ∀ t, context.accepts t ↔ IsName t ∧ harmless (t.map foldChar))
    (hemit : context.emit = id) (hsentinel : context.sentinel = innocuousText)
    (hinnocuous : context.accepts innocuousText) (t : Text) :
    Filtered harmless t (context.filter t) := by
  have ha : context.accepts (context.filter t) := by
    apply FilterContext.accepts_filter
    rw [hsentinel]
    exact hinnocuous
  obtain ⟨hname, hharmless⟩ := (haccepts _).1 ha
  refine ⟨hname, ?_, ?_, ?_⟩
  · intro lower hl
    apply hfold
    rw [keepsFold_of_mem hl _ hname]
    exact hharmless
  · rw [← haccepts]
    constructor
    · intro he
      rw [he] at ha
      exact ha
    · intro ht
      rw [FilterContext.filter_of_accepts ht, hemit, id_eq]
  · intro hne
    cases ht : context.accepts t with
    | true =>
      rw [FilterContext.filter_of_accepts ht, hemit] at hne
      exact absurd rfl hne
    | false => rw [FilterContext.filter_of_refused ht, hsentinel]

end Filters

/-- What is emitted as an attribute, unless it was trusted, or as the name of an element is a name
that is not barred, whichever way it is brought to lower case. A text is left alone exactly if it is
a name that is not barred when it is folded. -/
theorem filter_lower_harmless (tags : Markup.TagSet) :
    let s : Sanitizer := ⟨.standard, tags⟩
    (∀ v : Value, v.contentIf? .attributes = none →
      Filtered HarmlessAttribute v.display (s.filterHtmlAttributes v).value) ∧
      ∀ v : Value, Filtered HarmlessElement v.display (s.filterHtmlElementName v).value := by
  intro s
  constructor
  · intro v hv
    unfold Sanitizer.filterHtmlAttributes
    rw [hv]
    have haccepts (t : Text) : FilterContext.htmlAttributes.accepts t ↔ _ := isSafeAttributeName_iff
    apply filtered_filter (fun _ => .of_map_foldChar) haccepts rfl rfl
    decide
  · intro v
    have haccepts (t : Text) : FilterContext.htmlElementName.accepts t ↔ _ := isSafeElementName_iff
    apply filtered_filter (fun _ => .of_map_foldChar) haccepts rfl rfl
    decide

/-- The Kelvin sign becomes a small k, where the long s stays. A name that is barred with a k is
refused with the sign too. -/
theorem filter_lower_harmless_kelvin :
    let v := Value.str "\u212aey-\u017frc".toList
    let a := (Sanitizer.standard.filterHtmlAttributes v).value
    v.contentIf? .attributes = none ∧ a = v.display ∧ lowercase a = "key-\u017frc".toList ∧
      HarmlessAttribute (lowercase a) ∧
      (Sanitizer.standard.filterHtmlElementName (.str "lin\u212a".toList)).value = innocuousText ∧
      HarmlessElement (lowercase innocuousText) := by
  intro v a
  have hv : v.contentIf? .attributes = none := rfl
  have hl : lowercase ∈ lowerings := List.mem_cons_of_mem _ List.mem_cons_self
  obtain ⟨hattribute, helement⟩ := filter_lower_harmless .defaultSafe
  have hlink := helement (.str "lin\u212a".toList)
  refine ⟨hv, by decide, by decide +kernel, (hattribute v hv).lower lowercase hl, ?_, ?_⟩
  · exact hlink.replaced (by decide)
  · exact hlink.lower lowercase hl

end SafeOutput.Names
