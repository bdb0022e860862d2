import Mathlib
import SafeOutput.Proofs.StyleGrammar
import SafeOutput.Sanitizer

namespace SafeOutput.Css

open Text Accept

variable {c : Char} {t item sep word before after left right : Text}

section Places

/-- An item may start here: at the head of the value or right behind a separator. -/
def Begins (start : Text) : Prop :=
  start = [] ∨ ∃ earlier sep, IsSeparator sep ∧ start = earlier ++ sep

theorem Begins.append {start : Text} (h : Begins start) (hs : IsSeparator sep) (item : Text) :
    Begins (item ++ (sep ++ start)) := by
  rcases h with rfl | ⟨earlier, sep', hs', rfl⟩
  · rw [List.append_nil]
    exact .inr ⟨item, sep, hs, rfl⟩
  · refine .inr ⟨item ++ (sep ++ earlier), sep', hs', ?_⟩
    rw [List.append_assoc, List.append_assoc]

/-- A character that is not part of a separator lies in one item. -/
theorem Items.exists_item (h : Items t) (ht : t = before ++ c :: after)
    (hc : isSeparatorChar c = false) :
    ∃ start left right rest, Begins start ∧ Item (left ++ c :: right) ∧ before = start ++ left ∧
      after = right ++ rest := by
  induction h generalizing before with
  | nil => exact absurd ht.symm (List.append_ne_nil_of_right_ne_nil before (List.cons_ne_nil _ _))
  | last hi =>
    rw [ht] at hi
    exact ⟨[], before, after, [], .inl rfl, hi, rfl, (List.append_nil after).symm⟩
  | @cons item sep t hi hs htail ih =>
    rcases append_cons_cases ht with ⟨right, rfl, ha⟩ | ⟨mid, rfl, hmid⟩
    · exact ⟨[], before, right, sep ++ t, .inl rfl, hi, rfl, ha⟩
    · have hsep : c ∉ sep := not_mem_of_class (fun _ => hs.chars) hc
      obtain ⟨mid', rfl, hmid'⟩ := append_eq_append_cons hmid hsep
      obtain ⟨start, left, right, rest, hb, hitem, rfl, ha⟩ := ih hmid'
      refine ⟨item ++ (sep ++ start), left, right, rest, hb.append hs item, hitem, ?_, ha⟩
      rw [List.append_assoc, List.append_assoc]

theorem Item.colour_of_bracket (hi : Item item) (he : item = left ++ '(' :: right) :
    ∃ args, IsColour left args ∧ right = args ++ [')'] := by
  cases hi with
  | word hw =>
    rw [he] at hw
    exact absurd (List.mem_append_right left List.mem_cons_self) (hw.not_mem rfl)
  | @colour name args hc =>
    have hbehind : '(' ∉ args ++ [')'] := by
      intro hm
      rcases List.mem_append.1 hm with hm | hm
      · exact hc.not_mem_args rfl hm
      · cases List.mem_singleton.1 hm
    obtain ⟨rfl, -, hr⟩ :=
      (List.append_cons_inj_of_notMem (hc.not_mem_name rfl) hbehind).1 he
    exact ⟨args, hc, hr.symm⟩

theorem Item.colour_of_closing (hi : Item item) (he : item = left ++ ')' :: right) :
    ∃ name args, IsColour name args ∧ left = name ++ '(' :: args ∧ right = [] := by
  cases hi with
  | word hw =>
    rw [he] at hw
    exact absurd (List.mem_append_right left List.mem_cons_self) (hw.not_mem rfl)
  | @colour name args hc =>
    have hbefore : ')' ∉ name ++ '(' :: args := by
      intro hm
      rcases List.mem_append.1 hm with hm | hm
      · exact hc.not_mem_name rfl hm
      · rcases List.mem_cons.1 hm with he | hm
        · cases he
        · exact hc.not_mem_args rfl hm
    rw [← List.cons_append, ← List.append_assoc] at he
    obtain ⟨rfl, -, hr⟩ := (List.append_cons_inj_of_notMem hbefore List.not_mem_nil).1 he
    exact ⟨name, args, hc, rfl, hr.symm⟩

theorem Word.important_of_mem (hw : Word word) (hm : '!' ∈ word) :
    word.map foldChar = "!important".toList := by
  cases hw with
  | name hmark hne hn =>
    rcases List.mem_append.1 hm with hm | hm
    · rcases hmark with rfl | rfl | rfl <;> exact absurd hm (by decide)
    · cases hn _ hm
  | number hs hd hu =>
    rcases List.mem_append.1 hm with hm | hm
    · rcases hs with rfl | rfl <;> exact absurd hm (by decide)
    · rcases List.mem_append.1 hm with hm | hm
      · rcases hd.chars hm with hdigit | he
        · cases hdigit
        · cases he
      · rcases mem_unit hu hm with hl | he
        · cases hl
        · cases he
  | important hw => exact hw

theorem Item.important_of_exclamation (hi : Item item) (he : item = left ++ '!' :: right) :
    right.map foldChar = "important".toList := by
  have hm : '!' ∈ item := by
    rw [he]
    exact List.mem_append_right left List.mem_cons_self
  cases hi with
  | word hw =>
    have hfold := hw.important_of_mem hm
    rw [he, List.map_append, List.map_cons] at hfold
    have hsplit :
        [] ++ '!' :: "important".toList = left.map foldChar ++ '!' :: right.map foldChar :=
      hfold.symm
    obtain ⟨-, -, hr⟩ := (List.append_cons_inj_of_notMem (by decide) (by decide)).1 hsplit
    exact hr.symm
  | colour hc =>
    rcases List.mem_append.1 hm with hm | hm
    · exact absurd hm (hc.not_mem_name rfl)
    · rcases List.mem_cons.1 hm with he | hm
      · cases he
      · rcases List.mem_append.1 hm with hm | hm
        · exact absurd hm (hc.not_mem_args rfl)
        · cases List.mem_singleton.1 hm

end Places

section Values

/-- The characters of values: letters and digits with the two that fold to letters, white space and
the signs of items and separators. -/
def isValueChar (c : Char) : Bool :=
  c.isAlphanum || c == '\u017f' || c == '\u212a' || isBlank c ||
    ['_', '-', '.', '#', '%', ',', '!', '(', ')'].contains c

/-- A value holds no declaration, comment or string and no function but colours. -/
structure Confined (t : Text) : Prop where
  chars : ∀ c ∈ t, isValueChar c
  opens : ∀ before after, t = before ++ '(' :: after → ∃ start name args rest,
    Begins start ∧ IsColour name args ∧ before = start ++ name ∧ after = args ++ ')' :: rest
  closes : ∀ before after, t = before ++ ')' :: after → ∃ start name args,
    Begins start ∧ IsColour name args ∧ before = start ++ (name ++ '(' :: args)
  exclaims : ∀ before after, t = before ++ '!' :: after → ∃ word rest,
    word.map foldChar = "important".toList ∧ after = word ++ rest

theorem isValueChar_of_isFoldedAlphanum (h : isFoldedAlphanum c) : isValueChar c := by
  rcases isFoldedAlphanum_iff.1 h with ha | rfl | rfl
  · simp only [isValueChar, ha, Bool.true_or]
  · decide
  · decide

theorem isValueChar_of_isWordChar (h : isWordChar c) : isValueChar c := by
  rw [isWordChar, Bool.or_eq_true, List.contains_iff_mem] at h
  rcases h with ha | hm
  · exact isValueChar_of_isFoldedAlphanum ha
  · exact (List.all_eq_true (p := isValueChar)).1 (by decide) c hm

theorem isValueChar_of_isSeparatorChar (h : isSeparatorChar c) : isValueChar c := by
  rw [isSeparatorChar, Bool.or_eq_true, beq_iff_eq] at h
  rcases h with hb | rfl
  · simp only [isValueChar, hb, Bool.or_true, Bool.true_or]
  · decide

theorem isValueChar_of_isColourChar (h : isColourChar c) : isValueChar c := by
  simp only [isColourChar, Bool.or_eq_true, beq_iff_eq] at h
  rcases h with (((hd | rfl) | rfl) | rfl) | rfl
  · exact isValueChar_of_isWordChar (isWordChar_of_isDigit hd)
  · decide
  · decide
  · decide
  · decide

theorem Item.chars (hi : Item item) (hc : c ∈ item) : isValueChar c := by
  cases hi with
  | word hw => exact isValueChar_of_isWordChar (hw.chars hc)
  | colour hcolour =>
    rcases List.mem_append.1 hc with hm | hm
    · apply isValueChar_of_isFoldedAlphanum
      rw [isFoldedAlphanum, hcolour.name_chars hm, Bool.true_or]
    · rcases List.mem_cons.1 hm with rfl | hm
      · decide
      · rcases List.mem_append.1 hm with hm | hm
        · exact isValueChar_of_isColourChar (hcolour.args c hm)
        · rw [List.mem_singleton.1 hm]
          decide

theorem Items.chars (h : Items t) : ∀ c ∈ t, isValueChar c := by
  induction h with
  | nil => nofun
  | last hi =>
    intro c hc
    exact hi.chars hc
  | cons hi hs ht ih =>
    intro c hc
    rcases List.mem_append.1 hc with hm | hm
    · exact hi.chars hm
    · rcases List.mem_append.1 hm with hm | hm
      · exact isValueChar_of_isSeparatorChar (hs.chars hm)
      · exact ih c hm

theorem Items.confined (h : Items t) : Confined t where
  chars := h.chars
  opens before after ht := by
    obtain ⟨start, name, right, rest, hb, hi, rfl, rfl⟩ := h.exists_item ht rfl
    obtain ⟨args, hc, rfl⟩ := hi.colour_of_bracket rfl
    refine ⟨start, name, args, rest, hb, hc, rfl, ?_⟩
    rw [List.append_assoc, List.singleton_append]
  closes before after ht := by
    obtain ⟨start, left, right, rest, hb, hi, rfl, -⟩ := h.exists_item ht rfl
    obtain ⟨name, args, hc, rfl, -⟩ := hi.colour_of_closing rfl
    exact ⟨start, name, args, hb, hc, rfl⟩
  exclaims before after ht := by
    obtain ⟨start, left, word, rest, -, hi, -, ha⟩ := h.exists_item ht rfl
    exact ⟨word, rest, hi.important_of_exclamation rfl, ha⟩

end Values

section Script

def scriptWords : List Text := ["expression".toList, "binding".toList, "moz-binding".toList]

def StartsScript (t : Text) : Prop :=
  ∃ hyphens word rest, (∀ c ∈ hyphens, c = '-') ∧ word.map foldChar ∈ scriptWords ∧
    t = hyphens ++ (word ++ rest)

theorem isScriptValue_eq (t : Text) : isScriptValue t =
    scriptWords.any fun w => startsFolded w (t.dropWhile (· == '-')) := rfl

theorem head_of_scriptWord (h : word.map foldChar ∈ scriptWords) :
    ∃ x xs, word = x :: xs ∧ x ≠ '-' := by
  have hall : scriptWords.all fun w => !w.isEmpty && w.head? != some '-' := by decide
  have hhead := List.all_eq_true.1 hall _ h
  cases word with
  | nil => cases hhead
  | cons x xs =>
    refine ⟨x, xs, rfl, ?_⟩
    rintro rfl
    cases hhead

theorem isScriptValue_iff : isScriptValue t ↔ StartsScript t := by
  rw [isScriptValue_eq, List.any_eq_true]
  constructor
  · rintro ⟨w, hw, hs⟩
    obtain ⟨u, rest, hdrop, rfl⟩ := startsFolded_iff.1 hs
    refine ⟨t.takeWhile (· == '-'), u, rest, ?_, hw, ?_⟩
    · intro c hc
      exact eq_of_beq (List.mem_takeWhile_imp (p := (· == '-')) hc)
    · rw [← hdrop, List.takeWhile_append_dropWhile]
  · rintro ⟨hyphens, word, rest, hh, hw, rfl⟩
    refine ⟨word.map foldChar, hw, startsFolded_iff.2 ⟨word, rest, ?_, rfl⟩⟩
    apply dropWhile_append_stop
    · intro c hc
      exact beq_iff_eq.2 (hh c hc)
    · intro c hc
      obtain ⟨x, xs, rfl, hx⟩ := head_of_scriptWord hw
      cases hc
      exact beq_eq_false_iff_ne.2 hx

theorem isSafeCssValue_iff : isSafeCssValue t ↔ Items t ∧ ¬StartsScript t := by
  rw [isSafeCssValue, Bool.and_eq_true, Bool.not_eq_true', Bool.eq_false_iff, ne_eq,
    isScriptValue_iff, isCssItems_iff]
  exact and_comm

end Script

/-- What would end a declaration, start a block, a comment, a string or an escape, or matters to the
element or the attribute that holds the style. -/
def hazards : List Char :=
  [';', ':', '{', '}', '<', '>', '"', '\'', '\x60', '\\', '/', '*', '@', '&']

theorem isValueChar_of_mem_filter (hc : c ∈ FilterContext.cssValue.filter t) : isValueChar c := by
  rw [FilterContext.filter] at hc
  split at hc
  case isTrue ha => exact (isSafeCssValue_iff.1 ha).1.chars c hc
  case isFalse => exact (List.all_eq_true (p := isValueChar)).1 (by decide) c hc

/-- A style value is accepted exactly if it is a list of items that does not begin as a script
does. Then each bracket belongs to a colour that is an item, and each exclamation makes the
declaration important. So nothing hazardous is emitted for a value that is not trusted as a
style. -/
theorem isSafeCssValue_exact (tags : Markup.TagSet) :
    let s : Sanitizer := ⟨.standard, tags⟩
    (∀ t, isSafeCssValue t ↔ Items t ∧ ¬StartsScript t) ∧
      (∀ t, isSafeCssValue t → Confined t) ∧
      ∀ v : Value, v.contentIf? .css = none → (s.filterCssValue v).value.Disjoint hazards := by
  intro s
  refine ⟨fun t => isSafeCssValue_iff, ?_, ?_⟩
  · intro t ht
    exact (isSafeCssValue_iff.1 ht).1.confined
  · intro v hv
    have hnone : hazards.all (!isValueChar ·) := by decide
    refine disjoint_of_class ?_ hnone
    intro c hc
    unfold Sanitizer.filterCssValue at hc
    rw [hv] at hc
    dsimp only at hc
    split at hc
    case isTrue => cases hc
    case isFalse => exact isValueChar_of_mem_filter hc

/-- The long s in the name of a colour is an s. -/
theorem isSafeCssValue_exact_colours :
    let t := "1.5em -x,\u2003h\u017flA(0, 10%,.5) !important ".toList
    isSafeCssValue t ∧ Confined t ∧ (Value.str t).contentIf? .css = none ∧
      (Sanitizer.standard.filterCssValue (.str t)).value.Disjoint hazards := by
  intro t
  have ht : isSafeCssValue t := by decide +kernel
  have hv : (Value.str t).contentIf? .css = none := rfl
  obtain ⟨-, hconfined, hdisjoint⟩ := isSafeCssValue_exact .defaultSafe
  exact ⟨ht, hconfined t ht, hv, hdisjoint _ hv⟩

end SafeOutput.Css
