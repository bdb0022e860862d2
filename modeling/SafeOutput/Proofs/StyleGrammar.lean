import Mathlib
import SafeOutput.Proofs.SafeScheme

namespace SafeOutput.Css

open Text Accept

variable {c : Char} {t rest item sep name args word : Text}

/-- White space around one comma or one plain space. -/
def IsSeparator (sep : Text) : Prop :=
  ∃ before sign after, sep = before ++ sign :: after ∧ (∀ c ∈ before, isBlank c) ∧
    (sign = ',' ∨ sign = ' ') ∧ ∀ c ∈ after, isBlank c

/-- Digits, among which one point may stand anywhere. -/
inductive IsDecimal : Text → Prop
  | whole {digits : Text} (hne : digits ≠ []) (hd : ∀ c ∈ digits, c.isDigit) : IsDecimal digits
  | point {whole fraction : Text} (hne : whole ≠ [] ∨ fraction ≠ []) (hw : ∀ c ∈ whole, c.isDigit)
      (hf : ∀ c ∈ fraction, c.isDigit) : IsDecimal (whole ++ '.' :: fraction)

inductive Word : Text → Prop
  | name {mark name : Text} (hm : mark = [] ∨ mark = ['.'] ∨ mark = ['#']) (hne : name ≠ [])
      (hn : ∀ c ∈ name, isCssNameChar c) : Word (mark ++ name)
  | number {sign digits unit : Text} (hs : sign = [] ∨ sign = ['-']) (hd : IsDecimal digits)
      (hu : isCssUnit unit) : Word (sign ++ (digits ++ unit))
  | important {word : Text} (hw : word.map foldChar = "!important".toList) : Word word

def colourNames : List Text := ["rgb".toList, "rgba".toList, "hsl".toList, "hsla".toList]

/-- A colour written as a function of numbers. -/
structure IsColour (name args : Text) : Prop where
  name : name.map foldChar ∈ colourNames
  ne_nil : args ≠ []
  args : ∀ c ∈ args, isColourChar c

inductive Item : Text → Prop
  | word {word : Text} (hw : Word word) : Item word
  | colour {name args : Text} (hc : IsColour name args) : Item (name ++ '(' :: (args ++ [')']))

/-- Items with separators between them and perhaps behind the last. -/
inductive Items : Text → Prop
  | nil : Items []
  | last {item : Text} (hi : Item item) : Items item
  | cons {item sep t : Text} (hi : Item item) (hs : IsSeparator sep) (ht : Items t) :
      Items (item ++ (sep ++ t))

section Characters

def isWordChar (c : Char) : Bool :=
  isFoldedAlphanum c || ['_', '-', '.', '#', '%', '!'].contains c

theorem not_isSeparatorChar_of_isFoldedAlphanum (h : isFoldedAlphanum c) :
    isSeparatorChar c = false := by
  rw [isSeparatorChar, not_isBlank_of_isFoldedAlphanum h, Bool.false_or, beq_eq_false_iff_ne]
  rintro rfl
  cases h

theorem not_isSeparatorChar_of_isFoldedLetter (h : isFoldedLetter c) :
    isSeparatorChar c = false := by
  apply not_isSeparatorChar_of_isFoldedAlphanum
  rw [isFoldedAlphanum, h, Bool.true_or]

theorem not_isSeparatorChar_of_isWordChar (h : isWordChar c) : isSeparatorChar c = false := by
  rw [isWordChar, Bool.or_eq_true, List.contains_iff_mem] at h
  rcases h with ha | hm
  · exact not_isSeparatorChar_of_isFoldedAlphanum ha
  · have hnot := (List.all_eq_true (p := (!isSeparatorChar ·))).1 (by decide) c hm
    exact (Bool.not_eq_true' _).mp hnot

theorem isWordChar_of_isDigit (h : c.isDigit) : isWordChar c := by
  rw [isWordChar, isFoldedAlphanum, h, Bool.or_true, Bool.true_or]

theorem isWordChar_of_isCssNameChar (h : isCssNameChar c) : isWordChar c := by
  rw [isCssNameChar, Bool.or_eq_true, Bool.or_eq_true, beq_iff_eq, beq_iff_eq] at h
  rcases h with (ha | rfl) | rfl
  · rw [isWordChar, ha, Bool.true_or]
  · decide
  · decide

theorem IsDecimal.chars (h : IsDecimal t) (hc : c ∈ t) : c.isDigit ∨ c = '.' := by
  cases h with
  | whole hne hd => exact .inl (hd c hc)
  | point hne hw hf =>
    rcases List.mem_append.1 hc with hm | hm
    · exact .inl (hw c hm)
    · rcases List.mem_cons.1 hm with he | hm
      · exact .inr he
      · exact .inl (hf c hm)

theorem mem_unit (h : isCssUnit t) (hc : c ∈ t) : isFoldedLetter c ∨ c = '%' := by
  rw [isCssUnit, Bool.or_eq_true, Bool.and_eq_true, beq_iff_eq] at h
  rcases h with rfl | ⟨-, hl⟩
  · exact .inr (List.mem_singleton.1 hc)
  · exact .inl (List.all_eq_true.1 hl c hc)

theorem isWordChar_of_foldChar (h : isWordChar (foldChar c)) : isWordChar c := by
  cases hl : (foldChar c).isLower with
  | true =>
    have hletter : isFoldedLetter c := hl
    rw [isWordChar, isFoldedAlphanum, hletter, Bool.true_or, Bool.true_or]
  | false =>
    rw [← eq_of_foldChar rfl hl] at h
    exact h

theorem Word.chars (h : Word t) (hc : c ∈ t) : isWordChar c := by
  cases h with
  | name hm hne hn =>
    rcases List.mem_append.1 hc with hc | hc
    · rcases hm with rfl | rfl | rfl
      · cases hc
      · rw [List.mem_singleton.1 hc]
        decide
      · rw [List.mem_singleton.1 hc]
        decide
    · exact isWordChar_of_isCssNameChar (hn c hc)
  | number hs hd hu =>
    rcases List.mem_append.1 hc with hc | hc
    · rcases hs with rfl | rfl
      · cases hc
      · rw [List.mem_singleton.1 hc]
        decide
    · rcases List.mem_append.1 hc with hc | hc
      · rcases hd.chars hc with hdigit | rfl
        · exact isWordChar_of_isDigit hdigit
        · decide
      · rcases mem_unit hu hc with hl | rfl
        · rw [isWordChar, isFoldedAlphanum, hl, Bool.true_or, Bool.true_or]
        · decide
  | important hw =>
    have hall : "!important".toList.all isWordChar := by decide
    rw [← hw, List.all_map] at hall
    exact isWordChar_of_foldChar (List.all_eq_true.1 hall c hc)

theorem IsDecimal.ne_nil (h : IsDecimal t) : t ≠ [] := by
  cases h with
  | whole hne => exact hne
  | point => exact List.append_ne_nil_of_right_ne_nil _ (List.cons_ne_nil _ _)

theorem Word.ne_nil (h : Word t) : t ≠ [] := by
  cases h with
  | name hm hne => exact List.append_ne_nil_of_right_ne_nil _ hne
  | number hs hd =>
    apply List.append_ne_nil_of_right_ne_nil
    exact List.append_ne_nil_of_left_ne_nil hd.ne_nil _
  | important hw =>
    rintro rfl
    cases hw

theorem Word.not_mem (h : Word t) (hc : isWordChar c = false) : c ∉ t :=
  not_mem_of_class (fun _ => h.chars) hc

end Characters

section Words

theorem word_of_isCssName (h : isCssName t) : Word t := by
  unfold isCssName at h
  rw [Bool.and_eq_true, Bool.not_eq_true', List.isEmpty_eq_false_iff, List.all_eq_true] at h
  split at h
  case h_1 cs =>
    have hword : Word (['.'] ++ cs) := .name (.inr (.inl rfl)) h.1 h.2
    exact hword
  case h_2 cs =>
    have hword : Word (['#'] ++ cs) := .name (.inr (.inr rfl)) h.1 h.2
    exact hword
  case h_3 => exact .name (.inl rfl) h.1 h.2

theorem isCssName_of_name {mark : Text} (hm : mark = [] ∨ mark = ['.'] ∨ mark = ['#'])
    (hne : name ≠ []) (hn : ∀ c ∈ name, isCssNameChar c) : isCssName (mark ++ name) := by
  have hname : (!name.isEmpty && name.all isCssNameChar) = true := by
    rw [Bool.and_eq_true, Bool.not_eq_true', List.isEmpty_eq_false_iff, List.all_eq_true]
    exact ⟨hne, hn⟩
  rcases hm with rfl | rfl | rfl
  · rw [List.nil_append]
    unfold isCssName
    split
    case h_1 cs => exact absurd (hn '.' List.mem_cons_self) (by decide)
    case h_2 cs => exact absurd (hn '#' List.mem_cons_self) (by decide)
    case h_3 => exact hname
  · exact hname
  · exact hname

def IsMeasure (t : Text) : Prop :=
  ∃ digits unit, IsDecimal digits ∧ isCssUnit unit ∧ t = digits ++ unit

theorem isMeasure_of_isUnsignedNumber (h : isUnsignedNumber t) : IsMeasure t := by
  have hsplit : t = t.takeWhile Char.isDigit ++ t.dropWhile Char.isDigit :=
    List.takeWhile_append_dropWhile.symm
  have hwhole : ∀ c ∈ t.takeWhile Char.isDigit, c.isDigit := fun _ => List.mem_takeWhile_imp
  have hpoint {fraction : Text} (hd : t.dropWhile Char.isDigit = '.' :: fraction)
      (hne : t.takeWhile Char.isDigit ≠ [] ∨ fraction.takeWhile Char.isDigit ≠ [])
      (hu : isCssUnit (fraction.dropWhile Char.isDigit)) : IsMeasure t := by
    refine ⟨_, _, .point hne hwhole fun _ => List.mem_takeWhile_imp, hu, ?_⟩
    rw [List.append_assoc, List.cons_append, List.takeWhile_append_dropWhile, ← hd]
    exact hsplit
  unfold isUnsignedNumber at h
  split at h
  case h_1 fraction ht hd =>
    rw [Bool.and_eq_true, Bool.not_eq_true', List.isEmpty_eq_false_iff] at h
    exact hpoint hd (.inr h.1) h.2
  case h_2 => cases h
  case h_3 x xs fraction ht hd =>
    apply hpoint hd (.inl _) h
    rw [ht]
    exact List.cons_ne_nil x xs
  case h_4 x xs unit ht hd =>
    refine ⟨_, _, .whole ?_ hwhole, h, hsplit⟩
    rw [ht]
    exact List.cons_ne_nil _ _

theorem not_isDigit_of_mem_unit (h : isCssUnit t) (hc : c ∈ t) : c.isDigit = false := by
  rcases mem_unit h hc with hl | rfl
  · have hn := toNat_of_isFoldedLetter hl
    rw [Bool.eq_false_iff]
    intro hd
    rw [isDigit_iff] at hd
    omega
  · rfl

theorem isUnsignedNumber_append {digits unit : Text} (hd : IsDecimal digits)
    (hu : isCssUnit unit) : isUnsignedNumber (digits ++ unit) := by
  have hstop : ∀ c ∈ unit.head?, c.isDigit = false := fun c hc =>
    not_isDigit_of_mem_unit hu (List.mem_of_mem_head? hc)
  unfold isUnsignedNumber
  cases hd with
  | whole hne hd =>
    rw [takeWhile_append_stop hd hstop, dropWhile_append_stop hd hstop]
    split
    case h_1 => exact absurd rfl hne
    case h_2 => exact absurd rfl hne
    case h_3 =>
      rcases mem_unit hu List.mem_cons_self with hl | he
      · cases hl
      · cases he
    case h_4 => exact hu
  | @point whole fraction hne hw hf =>
    have hpoint : ∀ c ∈ ('.' :: (fraction ++ unit)).head?, c.isDigit = false := by
      intro c hc
      cases hc
      rfl
    rw [List.append_assoc, List.cons_append, takeWhile_append_stop hw hpoint,
      dropWhile_append_stop hw hpoint]
    cases whole with
    | nil =>
      simp only [takeWhile_append_stop hf hstop, dropWhile_append_stop hf hstop, hu, Bool.and_true,
        Bool.not_eq_true', List.isEmpty_eq_false_iff]
      exact hne.resolve_left fun h => h rfl
    | cons x xs =>
      simp only [dropWhile_append_stop hf hstop, hu]

theorem word_of_isCssNumber (h : isCssNumber t) : Word t := by
  unfold isCssNumber at h
  split at h
  case h_1 cs =>
    obtain ⟨digits, unit, hd, hu, rfl⟩ := isMeasure_of_isUnsignedNumber h
    have hword : Word (['-'] ++ (digits ++ unit)) := .number (.inr rfl) hd hu
    exact hword
  case h_2 =>
    obtain ⟨digits, unit, hd, hu, rfl⟩ := isMeasure_of_isUnsignedNumber h
    exact .number (.inl rfl) hd hu

theorem isCssNumber_of_number {sign digits unit : Text} (hs : sign = [] ∨ sign = ['-'])
    (hd : IsDecimal digits) (hu : isCssUnit unit) : isCssNumber (sign ++ (digits ++ unit)) := by
  have hnumber := isUnsignedNumber_append hd hu
  rcases hs with rfl | rfl
  · rw [List.nil_append]
    unfold isCssNumber
    split
    case h_1 cs he =>
      obtain ⟨x, xs, rfl⟩ := List.exists_cons_of_ne_nil hd.ne_nil
      rw [(List.cons.inj he).1] at hd
      rcases hd.chars List.mem_cons_self with hdigit | hp
      · cases hdigit
      · cases hp
    case h_2 => exact hnumber
  · exact hnumber

theorem isImportant_iff : isImportant t ↔ t.map foldChar = "!important".toList := by
  rw [isImportant, beq_iff_eq, dropFolded?_eq_some_iff]
  constructor
  · rintro ⟨u, rfl, hu⟩
    rw [List.append_nil]
    exact hu
  · intro h
    exact ⟨t, (List.append_nil t).symm, h⟩

theorem isCssWord_iff : isCssWord t ↔ Word t := by
  rw [isCssWord, Bool.or_eq_true, Bool.or_eq_true]
  constructor
  · rintro ((hn | hn) | hi)
    · exact word_of_isCssName hn
    · exact word_of_isCssNumber hn
    · exact .important (isImportant_iff.1 hi)
  · intro h
    cases h with
    | name hm hne hn => exact .inl (.inl (isCssName_of_name hm hne hn))
    | number hs hd hu => exact .inl (.inr (isCssNumber_of_number hs hd hu))
    | important hw => exact .inr (isImportant_iff.2 hw)

end Words

section Colours

def colourStarts : List String := ["rgb(", "rgba(", "hsl(", "hsla("]

theorem name_of_colourStart {start : String} {u : Text} (hs : start ∈ colourStarts)
    (hu : u.map foldChar = start.toList) :
    ∃ name, name.map foldChar ∈ colourNames ∧ u = name ++ ['('] := by
  have hall : colourStarts.all fun start =>
      colourNames.any fun name => start.toList == name ++ ['('] := by decide
  obtain ⟨name, hname, he⟩ := List.any_eq_true.1 (List.all_eq_true.1 hall start hs)
  rw [eq_of_beq he] at hu
  obtain ⟨v, w, rfl, rfl, hw⟩ := List.map_eq_append_iff.1 hu
  obtain ⟨d, ds, rfl, hd, hds⟩ := List.map_eq_cons_iff.1 hw
  rw [List.map_eq_nil_iff.1 hds, eq_of_foldChar hd rfl]
  exact ⟨v, hname, rfl⟩

theorem colourStart_of_name (hn : name.map foldChar ∈ colourNames) :
    ∃ start ∈ colourStarts, (name ++ ['(']).map foldChar = start.toList := by
  have hall : colourNames.all fun name =>
      colourStarts.any fun start => name ++ ['('] == start.toList := by decide
  obtain ⟨start, hs, he⟩ := List.any_eq_true.1 (List.all_eq_true.1 hall _ hn)
  refine ⟨start, hs, ?_⟩
  rw [List.map_append, ← eq_of_beq he]
  rfl

theorem IsColour.name_chars (h : IsColour name args) (hc : c ∈ name) : isFoldedLetter c := by
  have hall : colourNames.all fun name => name.all Char.isLower := by decide
  have hlower := List.all_eq_true.1 hall _ h.name
  rw [List.all_map] at hlower
  exact List.all_eq_true.1 hlower c hc

theorem IsColour.name_ne_nil (h : IsColour name args) : name ≠ [] := by
  rintro rfl
  exact absurd h.name (by decide)

theorem IsColour.not_mem_name (h : IsColour name args) (hc : isFoldedLetter c = false) :
    c ∉ name :=
  not_mem_of_class (fun _ => h.name_chars) hc

theorem IsColour.not_mem_args (h : IsColour name args) (hc : isColourChar c = false) :
    c ∉ args :=
  not_mem_of_class h.args hc

theorem dropColour?_eq_some (h : dropColour? t = some rest) :
    ∃ name args, IsColour name args ∧ t = name ++ '(' :: (args ++ ')' :: rest) := by
  obtain ⟨start, hs, hbind⟩ := List.exists_of_findSome?_eq_some h
  obtain ⟨more, hmore, hm⟩ := Option.bind_eq_some_iff.1 hbind
  obtain ⟨u, rfl, hu⟩ := dropFolded?_eq_some hmore
  obtain ⟨name, hname, rfl⟩ := name_of_colourStart hs hu
  split at hm
  case h_1 x xs behind ht hd =>
    cases hm
    refine ⟨name, more.takeWhile isColourChar, ⟨hname, ?_, fun _ => List.mem_takeWhile_imp⟩, ?_⟩
    · rw [ht]
      exact List.cons_ne_nil _ _
    · rw [← hd, List.takeWhile_append_dropWhile, List.append_assoc]
      rfl
  case h_2 => cases hm

theorem dropColour?_append (h : IsColour name args) (rest : Text) :
    dropColour? (name ++ '(' :: (args ++ ')' :: rest)) = some rest := by
  have hstop : ∀ c ∈ (')' :: rest).head?, isColourChar c = false := by
    intro c hc
    cases hc
    rfl
  obtain ⟨start, hs, hu⟩ := colourStart_of_name h.name
  cases hd : dropColour? (name ++ '(' :: (args ++ ')' :: rest)) with
  | none =>
    have hnone := List.findSome?_eq_none_iff.1 hd start hs
    have hmore := dropFolded?_map (name ++ ['(']) (args ++ ')' :: rest)
    rw [List.append_assoc, List.singleton_append] at hmore
    rw [← hu, hmore, Option.bind_some, takeWhile_append_stop h.args hstop,
      dropWhile_append_stop h.args hstop] at hnone
    obtain ⟨x, xs, rfl⟩ := List.exists_cons_of_ne_nil h.ne_nil
    cases hnone
  | some rest' =>
    -- The brackets fix where the name and the arguments end.
    obtain ⟨name', args', h', he⟩ := dropColour?_eq_some hd
    have hname := eq_of_append_cons_eq he (h.not_mem_name rfl) (h'.not_mem_name rfl)
    rw [hname, List.append_cancel_left_eq, List.cons_inj_right] at he
    have hargs := eq_of_append_cons_eq he (h.not_mem_args rfl) (h'.not_mem_args rfl)
    rw [hargs, List.append_cancel_left_eq, List.cons_inj_right] at he
    rw [he]

end Colours

section Splitting

theorem dropCssItem?_eq_some (h : dropCssItem? t = some rest) :
    ∃ item, Item item ∧ t = item ++ rest := by
  unfold dropCssItem? at h
  split at h
  case h_1 behind hc =>
    cases h
    obtain ⟨name, args, hcolour, rfl⟩ := dropColour?_eq_some hc
    refine ⟨_, .colour hcolour, ?_⟩
    rw [List.append_assoc, List.cons_append, List.append_assoc, List.singleton_append]
  case h_2 =>
    obtain ⟨hw, he⟩ := Option.ite_none_right_eq_some.1 h
    cases he
    exact ⟨_, .word (isCssWord_iff.1 hw), List.takeWhile_append_dropWhile.symm⟩

/-- A word has no bracket, so that it is not taken for the start of a colour. -/
theorem dropColour?_word (hw : Word word) (hr : ∀ c ∈ rest.head?, isSeparatorChar c) :
    dropColour? (word ++ rest) = none := by
  rw [Option.eq_none_iff_forall_ne_some]
  intro behind h
  obtain ⟨name, args, hc, he⟩ := dropColour?_eq_some h
  obtain ⟨mid, rfl, rfl⟩ := append_eq_append_cons he (hw.not_mem rfl)
  cases mid with
  | nil => exact absurd (hr '(' rfl) (by decide)
  | cons d ds =>
    have hd := hc.name_chars (List.mem_append_right word List.mem_cons_self)
    have hsep := hr d rfl
    rw [not_isSeparatorChar_of_isFoldedLetter hd] at hsep
    cases hsep

theorem dropCssItem?_append (hi : Item item) (hr : ∀ c ∈ rest.head?, isSeparatorChar c) :
    dropCssItem? (item ++ rest) = some rest := by
  unfold dropCssItem?
  cases hi with
  | word hw =>
    have hword : ∀ c ∈ item, (!isSeparatorChar c) = true := by
      intro c hc
      rw [not_isSeparatorChar_of_isWordChar (hw.chars hc), Bool.not_false]
    have hstop : ∀ c ∈ rest.head?, (!isSeparatorChar c) = false := by
      intro c hc
      rw [hr c hc, Bool.not_true]
    rw [dropColour?_word hw hr, takeWhile_append_stop hword hstop,
      dropWhile_append_stop hword hstop]
    exact if_pos (isCssWord_iff.2 hw)
  | colour hc =>
    rw [List.append_assoc, List.cons_append, List.append_assoc, List.singleton_append,
      dropColour?_append hc]

theorem Item.head (hi : Item item) : ∃ x xs, item = x :: xs ∧ isSeparatorChar x = false := by
  cases hi with
  | word hw =>
    obtain ⟨x, xs, rfl⟩ := List.exists_cons_of_ne_nil hw.ne_nil
    exact ⟨x, xs, rfl, not_isSeparatorChar_of_isWordChar (hw.chars List.mem_cons_self)⟩
  | colour hc =>
    obtain ⟨x, xs, rfl⟩ := List.exists_cons_of_ne_nil hc.name_ne_nil
    have hx := hc.name_chars List.mem_cons_self
    exact ⟨x, _, rfl, not_isSeparatorChar_of_isFoldedLetter hx⟩

theorem Items.head (h : Items t) : ∀ c ∈ t.head?, isSeparatorChar c = false := by
  intro c hc
  cases h with
  | nil => cases hc
  | last hi =>
    obtain ⟨x, xs, rfl, hx⟩ := hi.head
    cases hc
    exact hx
  | cons hi hs ht =>
    obtain ⟨x, xs, rfl, hx⟩ := hi.head
    cases hc
    exact hx

theorem IsSeparator.chars (hs : IsSeparator sep) (hc : c ∈ sep) : isSeparatorChar c := by
  obtain ⟨before, sign, after, rfl, hb, hsign, ha⟩ := hs
  rw [isSeparatorChar, Bool.or_eq_true, beq_iff_eq]
  rcases List.mem_append.1 hc with hm | hm
  · exact .inl (hb c hm)
  · rcases List.mem_cons.1 hm with rfl | hm
    · rcases hsign with rfl | rfl
      · exact .inr rfl
      · exact .inl rfl
    · exact .inl (ha c hm)

theorem IsSeparator.ne_nil (hs : IsSeparator sep) : sep ≠ [] := by
  obtain ⟨before, sign, after, rfl, -⟩ := hs
  exact List.append_ne_nil_of_right_ne_nil _ (List.cons_ne_nil _ _)

theorem dropSeparator?_eq_some (h : dropSeparator? t = some rest) :
    ∃ sep, IsSeparator sep ∧ t = sep ++ rest := by
  have hblank (u : Text) : ∀ c ∈ u.takeWhile isBlank, isBlank c := fun _ => List.mem_takeWhile_imp
  have hsplit : t.takeWhile isBlank ++ t.dropWhile isBlank = t := List.takeWhile_append_dropWhile
  unfold dropSeparator? at h
  split at h
  case h_1 behind hd =>
    cases h
    refine ⟨_, ⟨t.takeWhile isBlank, ',', behind.takeWhile isBlank, rfl, hblank t, .inl rfl,
      hblank behind⟩, ?_⟩
    rw [List.append_assoc, List.cons_append, List.takeWhile_append_dropWhile, ← hd, hsplit]
  case h_2 =>
    obtain ⟨hc, he⟩ := Option.ite_none_right_eq_some.1 h
    cases he
    refine ⟨t.takeWhile isBlank, ?_, hsplit.symm⟩
    obtain ⟨before, after, hspace⟩ := List.append_of_mem (List.contains_iff_mem.1 hc)
    have hall := hblank t
    rw [hspace] at hall ⊢
    refine ⟨before, ' ', after, rfl, ?_, .inr rfl, ?_⟩
    · intro c hm
      exact hall c (List.mem_append_left _ hm)
    · intro c hm
      exact hall c (List.mem_append_right _ (List.mem_cons_of_mem _ hm))

theorem dropSeparator?_append (hs : IsSeparator sep)
    (ht : ∀ c ∈ t.head?, isSeparatorChar c = false) : dropSeparator? (sep ++ t) = some t := by
  have hstop : ∀ c ∈ t.head?, isBlank c = false := by
    intro c hc
    have hsep := ht c hc
    rw [isSeparatorChar, Bool.or_eq_false_iff] at hsep
    exact hsep.1
  obtain ⟨before, sign, after, rfl, hb, rfl | rfl, ha⟩ := hs
  · have hcomma : ∀ c ∈ (',' :: (after ++ t)).head?, isBlank c = false := by
      intro c hc
      cases hc
      rfl
    unfold dropSeparator?
    rw [List.append_assoc, List.cons_append, dropWhile_append_stop hb hcomma]
    exact congrArg some (dropWhile_append_stop ha hstop)
  · have hall : ∀ c ∈ before ++ ' ' :: after, isBlank c := by
      intro c hc
      rcases List.mem_append.1 hc with hm | hm
      · exact hb c hm
      · rcases List.mem_cons.1 hm with rfl | hm
        · rfl
        · exact ha c hm
    unfold dropSeparator?
    rw [dropWhile_append_stop hall hstop, takeWhile_append_stop hall hstop]
    split
    case h_1 => exact absurd (ht ',' rfl) (by decide)
    case h_2 =>
      apply if_pos
      exact List.contains_iff_mem.2 (List.mem_append_right _ List.mem_cons_self)

end Splitting

section Grammar

theorem items_of_isCssItems (h : isCssItems t) : Items t := by
  fun_induction isCssItems t with
  | case1 t ht =>
    rw [List.isEmpty_iff.1 ht]
    exact .nil
  | case2 => cases h
  | case3 t ht rest hi hr =>
    obtain ⟨item, hitem, rfl⟩ := dropCssItem?_eq_some hi
    rw [List.isEmpty_iff.1 hr, List.append_nil]
    exact .last hitem
  | case4 => cases h
  | case5 t ht rest hi hr next hs _ _ ih =>
    obtain ⟨item, hitem, rfl⟩ := dropCssItem?_eq_some hi
    obtain ⟨sep, hsep, rfl⟩ := dropSeparator?_eq_some hs
    exact .cons hitem hsep (ih h)

theorem isCssItems_of_item (hi : dropCssItem? t = some []) : isCssItems t := by
  rw [isCssItems]
  split
  case isTrue => rfl
  case isFalse =>
    split
    case h_1 hn =>
      rw [hi] at hn
      cases hn
    case h_2 hr =>
      rw [hi] at hr
      cases hr
      rfl

theorem isCssItems_of_separator {next : Text} (hi : dropCssItem? t = some rest)
    (hs : dropSeparator? rest = some next) (hn : isCssItems next) : isCssItems t := by
  rw [isCssItems]
  split
  case isTrue => rfl
  case isFalse =>
    split
    case h_1 hnone =>
      rw [hi] at hnone
      cases hnone
    case h_2 hr =>
      rw [hi] at hr
      cases hr
      split
      case isTrue => rfl
      case isFalse =>
        split
        case h_1 hnone =>
          rw [hs] at hnone
          cases hnone
        case h_2 hnext =>
          rw [hs] at hnext
          cases hnext
          exact hn

theorem isCssItems_of_items (h : Items t) : isCssItems t := by
  induction h with
  | nil =>
    rw [isCssItems]
    rfl
  | last hi =>
    apply isCssItems_of_item
    have hend : dropCssItem? (_ ++ []) = some [] := dropCssItem?_append hi nofun
    rw [List.append_nil] at hend
    exact hend
  | @cons item sep t hi hs ht ih =>
    have hrest : ∀ c ∈ (sep ++ t).head?, isSeparatorChar c := by
      intro c hc
      obtain ⟨x, xs, rfl⟩ := List.exists_cons_of_ne_nil hs.ne_nil
      cases hc
      exact hs.chars List.mem_cons_self
    apply isCssItems_of_separator (dropCssItem?_append hi hrest) _ ih
    exact dropSeparator?_append hs ht.head

/-- What is accepted as items is what the grammar has. -/
theorem isCssItems_iff : isCssItems t ↔ Items t :=
  ⟨items_of_isCssItems, isCssItems_of_items⟩

end Grammar

end SafeOutput.Css
