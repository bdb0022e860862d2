import Mathlib
import SafeOutput.Markup.Style
import SafeOutput.Proofs.TagPattern

namespace SafeOutput.Markup

open Text

variable {c q : Char} {cs name value rest word : Text}

/-- The signs that end the name of an attribute, white space apart. -/
def nameStops : List Char := ['=', '"', '\'', '/', '<', '>']

/-- An attribute as it stands in a tag. The value may hold anything but the quote around it. -/
structure Attribute where
  name : Text
  value : Text
  quote : Char
  name_ne : name ≠ []
  name_chars : ∀ c ∈ name, isHtmlSpace c = false ∧ c ∉ nameStops
  quote_mem : isQuote quote
  quote_not_mem : quote ∉ value

namespace Attribute

def write (a : Attribute) : Text :=
  a.name ++ '=' :: a.quote :: (a.value ++ [a.quote])

def writeAll (as : List Attribute) : Text :=
  [' '].intercalate (as.map write)

/-- Whether white space is kept, if an attribute is a style where its name says so. The first style
decides. -/
def keepsSpace (isStyle : Text → Bool) (as : List Attribute) : Option Bool :=
  (as.find? fun a => isStyle a.name).bind fun a => styleKeepsSpace a.value

end Attribute

def isStyleName (name : Text) : Bool :=
  lowerAscii name == "style".toList

def isReadable : Text → Bool
  | [] => false
  | c :: cs => c.isAlpha && cs.all isAttributeChar

/-- What is read of a name: its longest end that is readable. -/
def readName : Text → Text
  | [] => []
  | c :: cs => if isReadable (c :: cs) then c :: cs else readName cs

theorem attributesKeepSpace_nil : attributesKeepSpace [] = none := by
  rw [attributesKeepSpace, attributes, Finder.findAll_nil]
  rfl

theorem attributes_of_not_isAlpha (h : c.isAlpha = false) :
    attributes (c :: cs) = attributes cs := by
  apply attributeFinder.findAll_of_none
  exact if_neg (Bool.eq_false_iff.1 h)

theorem not_isHtmlSpace_of_isQuote (h : isQuote q) : isHtmlSpace q = false := by
  rcases isQuote_iff.1 h with rfl | rfl
  · decide
  · decide

theorem not_isAlpha_of_isQuote (h : isQuote q) : q.isAlpha = false := by
  rcases isQuote_iff.1 h with rfl | rfl
  · decide
  · decide

theorem quotedAt_append (hq : isQuote q) (hv : q ∉ value) (rest : Text) :
    quotedAt (q :: (value ++ q :: rest)) = some (value, rest) := by
  have hrun : ∀ c ∈ value, (c != q) = true := by
    intro c hc
    rw [bne_iff_ne]
    rintro rfl
    exact hv hc
  have hstop : ∀ c ∈ (q :: rest).head?, (c != q) = false := by
    intro c hc
    cases hc
    exact bne_self_eq_false q
  rw [quotedAt, if_pos hq, dropWhile_append_stop hrun hstop, takeWhile_append_stop hrun hstop]

theorem dropWhile_isHtmlSpace (h : isHtmlSpace c = false) :
    (c :: cs).dropWhile isHtmlSpace = c :: cs := by
  apply List.dropWhile_cons_of_neg
  rw [h]
  exact Bool.false_ne_true

theorem attributeAt_of_equals (hc : c.isAlpha)
    (h : (cs.dropWhile isAttributeChar).dropWhile isHtmlSpace = '=' :: rest) :
    attributeAt (c :: cs) = (quotedAt (rest.dropWhile isHtmlSpace)).map fun found =>
      ((c :: cs.takeWhile isAttributeChar, found.1), found.2) := by
  rw [attributeAt, if_pos hc, h]
  rfl

theorem attributeAt_of_other
    (h : ∀ rest, (cs.dropWhile isAttributeChar).dropWhile isHtmlSpace ≠ '=' :: rest) :
    attributeAt (c :: cs) = none := by
  rw [attributeAt]
  split
  · split
    case h_1 hr => exact absurd hr (h _)
    case h_2 => rfl
  · rfl

theorem attributeAt_append (hw : isReadable word) (hq : isQuote q) (hv : q ∉ value) (rest : Text) :
    attributeAt (word ++ '=' :: q :: (value ++ q :: rest)) = some ((word, value), rest) := by
  cases word with
  | nil => cases hw
  | cons c cs =>
    rw [isReadable, Bool.and_eq_true, List.all_eq_true] at hw
    have hstop : ∀ d ∈ ('=' :: q :: (value ++ q :: rest)).head?, isAttributeChar d = false := by
      intro d hd
      cases hd
      decide
    have hequals : ((cs ++ '=' :: q :: (value ++ q :: rest)).dropWhile isAttributeChar).dropWhile
        isHtmlSpace = '=' :: q :: (value ++ q :: rest) := by
      rw [dropWhile_append_stop hw.2 hstop, dropWhile_isHtmlSpace (by decide)]
    rw [List.cons_append, attributeAt_of_equals hw.1 hequals, takeWhile_append_stop hw.2 hstop,
      dropWhile_isHtmlSpace (not_isHtmlSpace_of_isQuote hq), quotedAt_append hq hv]
    rfl

theorem attributeAt_of_not_isReadable (hn : ∀ d ∈ cs, isHtmlSpace d = false ∧ d ∉ nameStops)
    (h : isReadable (c :: cs) = false) (rest : Text) :
    attributeAt (c :: (cs ++ '=' :: rest)) = none := by
  cases hc : c.isAlpha with
  | false => rw [attributeAt, hc, if_neg Bool.false_ne_true]
  | true =>
    rw [isReadable, hc, Bool.true_and, ← Bool.not_eq_true, List.all_eq_true] at h
    push Not at h
    obtain ⟨d, hd, hnot⟩ := h
    -- The run of the name ends at its first character of another kind.
    cases hrun : cs.dropWhile isAttributeChar with
    | nil => exact absurd (List.dropWhile_eq_nil_iff.1 hrun d hd) hnot
    | cons e es =>
      have he := hn e ((List.dropWhile_subset isAttributeChar) (hrun ▸ List.mem_cons_self))
      apply attributeAt_of_other
      intro behind hequals
      rw [List.dropWhile_append, hrun, List.isEmpty_cons, if_neg Bool.false_ne_true,
        List.cons_append, dropWhile_isHtmlSpace he.1] at hequals
      rw [(List.cons.inj hequals).1] at he
      exact he.2 List.mem_cons_self

theorem attributes_append (hn : ∀ c ∈ name, isHtmlSpace c = false ∧ c ∉ nameStops)
    (hq : isQuote q) (hv : q ∉ value) (rest : Text) :
    attributes (name ++ '=' :: q :: (value ++ q :: rest)) =
      if readName name = [] then attributes (value ++ q :: rest)
      else (readName name, value) :: attributes rest := by
  induction name with
  | nil =>
    rw [List.nil_append, attributes_of_not_isAlpha (by decide),
      attributes_of_not_isAlpha (not_isAlpha_of_isQuote hq)]
    rfl
  | cons c cs ih =>
    obtain ⟨-, hcs⟩ := List.forall_mem_cons.1 hn
    cases hr : isReadable (c :: cs) with
    | true =>
      have hread : readName (c :: cs) = c :: cs := if_pos hr
      rw [hread, if_neg (List.cons_ne_nil c cs)]
      exact attributeFinder.findAll_of_some (attributeAt_append hr hq hv rest)
    | false =>
      have hread : readName (c :: cs) = readName cs := by
        rw [readName, hr, if_neg Bool.false_ne_true]
      rw [hread, ← ih hcs]
      exact attributeFinder.findAll_of_none (attributeAt_of_not_isReadable hcs hr _)

/-- The value behind the name is passed over as a whole, and the name is taken for a style only if
it is one. -/
structure Faithful (name : Text) : Prop where
  read : readName name ≠ []
  style : isStyleName (readName name) → isStyleName name

theorem readName_of_isReadable (h : isReadable name) : readName name = name := by
  cases name with
  | nil => rfl
  | cons c cs => exact if_pos h

theorem isReadable_of_isStyleName (h : isStyleName name) : isReadable name := by
  have hname : name.map Char.toLower = "style".toList := eq_of_beq h
  have halpha : ∀ c ∈ name, c.isAlpha := by
    intro c hc
    have hall : "style".toList.all Char.isLower := by decide
    have hlower := List.all_eq_true.1 hall c.toLower (hname ▸ List.mem_map_of_mem hc)
    rwa [Char.isLower_toLower_eq_isAlpha] at hlower
  cases name with
  | nil => cases hname
  | cons c cs =>
    obtain ⟨hc, hcs⟩ := List.forall_mem_cons.1 halpha
    rw [isReadable, hc, Bool.true_and, List.all_eq_true]
    intro d hd
    rw [isAttributeChar, Char.isAlphanum, hcs d hd]
    rfl

theorem faithful_of_isStyleName (h : isStyleName name) : Faithful name := by
  have hread := isReadable_of_isStyleName h
  refine ⟨?_, fun _ => h⟩
  rw [readName_of_isReadable hread]
  rintro rfl
  cases hread

theorem Faithful.isStyleName_eq (h : Faithful name) :
    isStyleName (readName name) = isStyleName name := by
  rw [Bool.eq_iff_iff]
  refine ⟨h.style, ?_⟩
  intro hs
  rwa [readName_of_isReadable (isReadable_of_isStyleName hs)]

namespace Attribute

variable {a : Attribute} {as : List Attribute}

/-- A name that nothing is read of is passed over, and what is read next is its value. -/
theorem attributes_writeAll (a : Attribute) (as : List Attribute) :
    ∃ behind, attributes (writeAll (a :: as)) =
      if readName a.name = [] then attributes (a.value ++ a.quote :: behind)
      else (readName a.name, a.value) :: attributes (writeAll as) := by
  have hwrite (behind : Text) (hb : attributes behind = attributes (writeAll as)) :
      attributes (a.write ++ behind) =
        if readName a.name = [] then attributes (a.value ++ a.quote :: behind)
        else (readName a.name, a.value) :: attributes (writeAll as) := by
    have hform : a.write ++ behind =
        a.name ++ '=' :: a.quote :: (a.value ++ a.quote :: behind) := by
      simp [write]
    rw [hform, attributes_append a.name_chars a.quote_mem a.quote_not_mem, hb]
  cases as with
  | nil =>
    refine ⟨[], ?_⟩
    rw [← hwrite [] rfl]
    simp [writeAll]
  | cons b bs =>
    refine ⟨' ' :: writeAll (b :: bs), ?_⟩
    rw [← hwrite _ (attributes_of_not_isAlpha (by decide))]
    simp [writeAll]

theorem attributesKeepSpace_cons (h : readName a.name ≠ []) (as : List Attribute) :
    attributesKeepSpace (writeAll (a :: as)) =
      if isStyleName (readName a.name) then styleKeepsSpace a.value
      else attributesKeepSpace (writeAll as) := by
  obtain ⟨behind, hread⟩ := attributes_writeAll a as
  rw [attributesKeepSpace, hread, if_neg h, List.find?_cons]
  cases hs : isStyleName (readName a.name) with
  | true =>
    have hname : lowerAscii (readName a.name) = "style".toList := eq_of_beq hs
    simp only [hname, decide_true, if_true, Option.bind_some]
  | false =>
    have hname : lowerAscii (readName a.name) ≠ "style".toList := ne_of_beq_false hs
    simp only [hname, decide_false, Bool.false_eq_true, if_false]
    rfl

theorem keepsSpace_cons (isStyle : Text → Bool) (a : Attribute) (as : List Attribute) :
    keepsSpace isStyle (a :: as) =
      if isStyle a.name then styleKeepsSpace a.value else keepsSpace isStyle as := by
  rw [keepsSpace, List.find?_cons]
  cases isStyle a.name with
  | true => rfl
  | false => rfl

theorem attributesKeepSpace_eq
    (h : ∀ word ∈ (as.map fun a => readName a.name).takeWhile (!isStyleName ·), word ≠ []) :
    attributesKeepSpace (writeAll as) =
      keepsSpace (fun name => isStyleName (readName name)) as := by
  induction as with
  | nil => exact attributesKeepSpace_nil
  | cons a as ih =>
    rw [List.map_cons, List.takeWhile_cons] at h
    cases hs : isStyleName (readName a.name) with
    | true =>
      have ha : readName a.name ≠ [] := by
        intro hr
        rw [hr] at hs
        cases hs
      rw [attributesKeepSpace_cons ha, keepsSpace_cons, if_pos hs, if_pos hs]
    | false =>
      rw [hs] at h
      obtain ⟨ha, has⟩ := List.forall_mem_cons.1 h
      rw [attributesKeepSpace_cons ha, ih has, keepsSpace_cons]

theorem attributesKeepSpace_eq_iff (h : Faithful a.name) (as : List Attribute) :
    attributesKeepSpace (writeAll (a :: as)) = keepsSpace isStyleName (a :: as) ↔
      isStyleName a.name ∨ attributesKeepSpace (writeAll as) = keepsSpace isStyleName as := by
  rw [attributesKeepSpace_cons h.read, keepsSpace_cons, h.isStyleName_eq]
  cases isStyleName a.name with
  | true => simp only [if_true, true_or]
  | false => simp only [Bool.false_eq_true, if_false, false_or]

def withValue (a : Attribute) (value : Text) (h : '"' ∉ value) : Attribute :=
  ⟨a.name, value, '"', a.name_ne, a.name_chars, rfl, h⟩

def blank (a : Attribute) : Attribute :=
  a.withValue [] List.not_mem_nil

theorem keepsSpace_blank (isStyle : Text → Bool) (as : List Attribute) :
    keepsSpace isStyle (as.map blank) = none := by
  have hblank (a : Attribute) : styleKeepsSpace a.blank.value = none := by
    change styleKeepsSpace [] = none
    rw [styleKeepsSpace, styleDeclarations, Finder.findAll_nil]
    rfl
  induction as with
  | nil => rfl
  | cons a as ih => rw [List.map_cons, keepsSpace_cons, hblank, ih, ite_self]

theorem styleKeepsSpace_pre : styleKeepsSpace "white-space:pre".toList = some true := by
  decide +kernel

/-- Behind a name that is not read as it stands, a value can be taken for a style. -/
theorem exists_misread (h : ¬Faithful a.name) : ∃ b : Attribute, b.name = a.name ∧
    ∀ as, attributesKeepSpace (writeAll (b :: as)) = some true := by
  by_cases hr : readName a.name = []
  · obtain ⟨b, hb, hv, hq⟩ : ∃ b : Attribute, b.name = a.name ∧
        b.value = "style='white-space:pre'".toList ∧ b.quote = '"' :=
      ⟨a.withValue _ (by decide), rfl, rfl, rfl⟩
    refine ⟨b, hb, ?_⟩
    intro as
    obtain ⟨behind, hread⟩ := attributes_writeAll b as
    have hword : isReadable "style".toList := by decide
    have hquote : '\'' ∉ "white-space:pre".toList := by decide
    have hvalue : attributes ("style='white-space:pre'".toList ++ '"' :: behind) =
        ("style".toList, "white-space:pre".toList) :: attributes ('"' :: behind) :=
      attributeFinder.findAll_of_some (attributeAt_append hword rfl hquote _)
    rw [attributesKeepSpace, hread, hb, if_pos hr, hv, hq, hvalue]
    exact styleKeepsSpace_pre
  · obtain ⟨b, hb, hv⟩ : ∃ b : Attribute, b.name = a.name ∧ b.value = "white-space:pre".toList :=
      ⟨a.withValue _ (by decide), rfl, rfl⟩
    refine ⟨b, hb, ?_⟩
    intro as
    have hs : isStyleName (readName a.name) := by
      by_contra hnot
      exact h ⟨hr, fun hs => absurd hs hnot⟩
    rw [attributesKeepSpace_cons (hb ▸ hr), hb, if_pos hs, hv]
    exact styleKeepsSpace_pre

theorem attributesKeepSpace_of_faithful
    (h : ∀ name ∈ (as.map Attribute.name).takeWhile (!isStyleName ·), Faithful name) :
    attributesKeepSpace (writeAll as) = keepsSpace isStyleName as := by
  induction as with
  | nil => exact attributesKeepSpace_nil
  | cons a as ih =>
    rw [List.map_cons, List.takeWhile_cons] at h
    cases hs : isStyleName a.name with
    | true => exact (attributesKeepSpace_eq_iff (faithful_of_isStyleName hs) as).2 (.inl hs)
    | false =>
      rw [hs] at h
      obtain ⟨ha, has⟩ := List.forall_mem_cons.1 h
      exact (attributesKeepSpace_eq_iff ha as).2 (.inr (ih has))

theorem faithful_of_attributesKeepSpace
    (h : ∀ others : List Attribute, others.map Attribute.name = as.map Attribute.name →
      attributesKeepSpace (writeAll others) = keepsSpace isStyleName others)
    (hm : name ∈ (as.map Attribute.name).takeWhile (!isStyleName ·)) : Faithful name := by
  induction as with
  | nil => cases hm
  | cons a as ih =>
    rw [List.map_cons, List.takeWhile_cons] at hm
    cases hs : isStyleName a.name with
    | true =>
      rw [hs] at hm
      cases hm
    | false =>
      rw [hs] at hm
      have ha : Faithful a.name := by
        by_contra hnot
        obtain ⟨b, hb, hmisread⟩ := exists_misread hnot
        have hread := h (b :: as.map blank) (by simp [hb, blank, withValue, Function.comp_def])
        rw [hmisread, keepsSpace_cons, hb, hs, keepsSpace_blank] at hread
        cases hread
      rcases List.mem_cons.1 hm with rfl | hm
      · exact ha
      · apply ih _ hm
        intro others hnames
        have hread := h (a :: others) (by rw [List.map_cons, hnames, List.map_cons])
        rw [attributesKeepSpace_eq_iff ha, hs] at hread
        exact hread.resolve_left Bool.false_ne_true

/-- A name is taken for a style by its readable end, if it has one. So the first style decides for
all values there may be exactly if the names before it have such an end, and none that is a style. -/
theorem attributesKeepSpace_exact (as : List Attribute) :
    ((∀ word ∈ (as.map fun a => readName a.name).takeWhile (!isStyleName ·), word ≠ []) →
        attributesKeepSpace (writeAll as) =
          keepsSpace (fun name => isStyleName (readName name)) as) ∧
      ((∀ others : List Attribute, others.map Attribute.name = as.map Attribute.name →
          attributesKeepSpace (writeAll others) = keepsSpace isStyleName others) ↔
        ∀ name ∈ (as.map Attribute.name).takeWhile (!isStyleName ·), Faithful name) := by
  refine ⟨attributesKeepSpace_eq, ?_, ?_⟩
  · intro h name hm
    exact faithful_of_attributesKeepSpace h hm
  · intro h others hnames
    rw [← hnames] at h
    exact attributesKeepSpace_of_faithful h

/-- The end of the name is read as a style, which the attribute is not. -/
theorem attributesKeepSpace_lookalike : ∃ a : Attribute,
    a.write = "data_style=\"white-space:pre\"".toList ∧
      attributesKeepSpace (writeAll [a]) = some true ∧ keepsSpace isStyleName [a] = none := by
  have hall : "data_style".toList.all fun c => !isHtmlSpace c && !nameStops.contains c := by decide
  have hchars : ∀ c ∈ "data_style".toList, isHtmlSpace c = false ∧ c ∉ nameStops := by
    simpa using hall
  have hread : attributesKeepSpace "data_style=\"white-space:pre\"".toList = some true := by
    decide +kernel
  exact ⟨⟨"data_style".toList, "white-space:pre".toList, '"', by decide, hchars, rfl, by decide⟩,
    rfl, hread, rfl⟩

end Attribute

end SafeOutput.Markup
