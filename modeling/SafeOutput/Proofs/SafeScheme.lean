import Mathlib
import SafeOutput.Proofs.Decoding
import SafeOutput.Proofs.Scheme

namespace SafeOutput.Uri

open Text Escape Accept Markup

variable {c d : Char} {o s t u rest : Text} {names : List String}

/-- A text as it stands in a document, and as it is once its character references are decoded. -/
def readings (o : Text) : List Text :=
  [o, decodeReferences o]

def schemesRead (o : Text) : List Text :=
  ((readings o).filterMap scheme?).map lowerAscii

/-- A text of the form `data:image/…;base64,…`, or the like for sound and film, once its case is
folded as it is where texts are accepted: a long s in `baſe64` counts as an `s`. -/
def IsMediaForm (o : Text) : Prop :=
  ∃ kind ∈ ["image", "audio", "video"], ∃ subtype data,
    o.map foldChar =
      "data:".toList ++ kind.toList ++ ['/'] ++ subtype ++ ";base64,".toList ++ data

theorem mem_schemesRead (h : s ∈ schemesRead o) :
    ∃ r ∈ readings o, ∃ name, scheme? r = some name ∧ lowerAscii name = s := by
  obtain ⟨name, hm, hl⟩ := List.mem_map.1 h
  obtain ⟨r, hr, hn⟩ := List.mem_filterMap.1 hm
  exact ⟨r, hr, name, hn, hl⟩

theorem mem_readings_cons (hu : '&' ∉ u) (hd : d ≠ '&') (h : o ∈ readings (u ++ d :: rest)) :
    ∃ more, o = u ++ d :: more := by
  have hdecode : decodeReferences (u ++ d :: rest) = u ++ d :: decodeReferences rest := by
    rw [decodeReferences_append_of_not_mem hu, decodeReferences, if_neg hd]
  rw [readings, hdecode] at h
  rcases List.mem_cons.1 h with rfl | h
  · exact ⟨rest, rfl⟩
  · exact ⟨_, List.mem_singleton.1 h⟩

theorem mem_readings_of_not_mem (hu : '&' ∉ u) (h : o ∈ readings u) : o = u := by
  have hdecode := decodeReferences_append_of_not_mem hu []
  rw [decodeReferences, List.append_nil] at hdecode
  rw [readings, hdecode] at h
  simpa using h

theorem scheme?_of_colon_not_mem (hp : ∀ c ∈ u, isPadding c = false) (hc : ':' ∉ u) :
    scheme? u = none := by
  rw [Option.eq_none_iff_forall_ne_some]
  intro s h
  obtain ⟨⟨tail, hs⟩, -⟩ := scheme?_eq_some h
  rw [cleared_of_not_isPadding hp] at hs
  rw [hs] at hc
  exact hc (List.mem_append_right s List.mem_cons_self)

def endsSearch (c : Char) : Bool :=
  c == '/' || c == '?' || c == '#'

theorem endsSearch_iff : endsSearch d ↔ d = '/' ∨ d = '?' ∨ d = '#' := by
  simp only [endsSearch, Bool.or_eq_true, beq_iff_eq, or_assoc]

theorem scheme?_of_endsSearch (hp : ∀ c ∈ u, isPadding c = false) (hc : ':' ∉ u)
    (hd : endsSearch d) (rest : Text) : scheme? (u ++ d :: rest) = none := by
  have hstop : isSchemeChar d = false ∧ isPadding d = false ∧ d ≠ ':' := by
    rcases endsSearch_iff.1 hd with rfl | rfl | rfl <;> decide
  have hpad : ∀ c ∈ u ++ [d], isPadding c = false := by
    rw [List.forall_mem_append, List.forall_mem_singleton]
    exact ⟨hp, hstop.2.1⟩
  have hcolon : ':' ∉ u ++ [d] := by
    rw [List.mem_append, List.mem_singleton, not_or]
    exact ⟨hc, Ne.symm hstop.2.2⟩
  rw [Option.eq_none_iff_forall_ne_some]
  intro s h
  obtain ⟨⟨tail, hs⟩, hchars⟩ := scheme?_eq_some h
  rw [List.append_cons, cleared_append hpad (List.append_ne_nil_of_right_ne_nil u (by simp))] at hs
  -- The colon lies behind the sign, which would be part of the scheme.
  obtain ⟨mid, rfl, -⟩ := append_eq_append_cons hs hcolon
  have hd' := hchars d (List.mem_append_left mid (List.mem_append_right u List.mem_cons_self))
  rw [hstop.1] at hd'
  cases hd'

theorem toNat_of_isSubtypeChar (h : isSubtypeChar c) : 0x2B ≤ c.toNat ∧ c.toNat ≤ 0x212A := by
  simp only [isSubtypeChar, isFoldedAlphanum, Bool.or_eq_true, beq_iff_eq, isFoldedLetter_iff,
    isAlpha_iff, isUpper_iff, isLower_iff, isDigit_iff] at h
  rcases h with ((((h | rfl | rfl) | h) | rfl) | rfl) | rfl
  · omega
  · decide
  · decide
  · omega
  · decide
  · decide
  · decide

theorem not_isPadding_of_isSubtypeChar (h : isSubtypeChar c) : isPadding c = false := by
  have := toNat_of_isSubtypeChar h
  rw [isPadding, decide_eq_false_iff_not]
  omega

theorem not_breaksUri_of_isSubtypeChar (h : isSubtypeChar c) : breaksUri c = false := by
  have hn := toNat_of_isSubtypeChar h
  rw [Bool.eq_false_iff]
  intro hb
  simp only [breaksUri, Bool.or_eq_true, Bool.and_eq_true, decide_eq_true_iff,
    List.contains_iff_mem] at hb
  rcases hb with (hb | hb) | hb
  · omega
  · omega
  · have hnot := (List.all_eq_true (p := (!isSubtypeChar ·))).1 (by decide) c hb
    rw [h] at hnot
    cases hnot

theorem tidyUri_append (t u : Text) : tidyUri (t ++ u) = tidyUri t ++ tidyUri u :=
  List.flatMap_append

theorem tidyUri_of_intact (h : ∀ c ∈ u, breaksUri c = false) : tidyUri u = u := by
  apply flatMap_eq_self
  intro c hc
  rw [h c hc]
  rfl

theorem tidyUri_colon (hu : ∀ c ∈ u, isSubtypeChar c) (rest : Text) :
    tidyUri (u ++ ':' :: rest) = u ++ ':' :: tidyUri rest := by
  have hintact : ∀ c ∈ u ++ [':'], breaksUri c = false := by
    rw [List.forall_mem_append, List.forall_mem_singleton]
    exact ⟨fun c hc => not_breaksUri_of_isSubtypeChar (hu c hc), by decide⟩
  rw [List.append_cons, tidyUri_append, tidyUri_of_intact hintact, ← List.append_cons]

theorem isSubtypeChar_of_isLower_foldChar (h : (foldChar c).isLower) : isSubtypeChar c := by
  simp only [isSubtypeChar, isFoldedAlphanum, isFoldedLetter, h, Bool.true_or]

/-- A name before the first colon is the only scheme that can be read, decoded or not. -/
theorem eq_of_mem_schemesRead (hu : ∀ c ∈ u, isSubtypeChar c)
    (h : s ∈ schemesRead (u ++ ':' :: rest)) : s = u.map foldChar := by
  obtain ⟨r, hr, name, hname, rfl⟩ := mem_schemesRead h
  have hcolon : ':' ∉ u := fun hm => absurd (hu ':' hm) (by decide)
  have hamp : '&' ∉ u := fun hm => absurd (hu '&' hm) (by decide)
  obtain ⟨more, rfl⟩ := mem_readings_cons hamp (by decide) hr
  have hchars := (scheme?_eq_some hname).2
  obtain rfl := scheme?_colon (fun c hc => not_isPadding_of_isSubtypeChar (hu c hc)) hcolon hname
  exact lowerAscii_eq_map_foldChar hchars

theorem hasScheme_eq (hn : names.all fun w => w.toList.all Char.isLower) (h : hasScheme names t) :
    ∃ w ∈ names, ∃ u rest, t = u ++ ':' :: rest ∧ u.map foldChar = w.toList ∧
      ∀ c ∈ u, isSubtypeChar c := by
  obtain ⟨w, hw, hs⟩ := List.any_eq_true.1 h
  obtain ⟨rest, hrest⟩ := Option.isSome_iff_exists.1 hs
  obtain ⟨u, rfl, hu⟩ := dropFolded?_colon hrest
  have hlower := List.all_eq_true.1 hn w hw
  rw [← hu, List.all_map, List.all_eq_true] at hlower
  exact ⟨w, hw, u, rest, rfl, hu, fun c hc => isSubtypeChar_of_isLower_foldChar (hlower c hc)⟩

theorem mem_of_hasScheme (hn : names.all fun w => w.toList.all Char.isLower)
    (h : hasScheme names t) (hs : s ∈ schemesRead (tidyUri t)) : s ∈ names.map String.toList := by
  obtain ⟨w, hw, u, rest, rfl, hu, hchars⟩ := hasScheme_eq hn h
  rw [tidyUri_colon hchars] at hs
  rw [eq_of_mem_schemesRead hchars hs, hu]
  exact List.mem_map_of_mem hw

theorem not_isUriSign_of_mem_percentEncode (h : d ∈ percentEncode c) : isUriSign d = false := by
  obtain ⟨b, -, hb⟩ := List.mem_flatMap.1 h
  rcases List.mem_cons.1 hb with rfl | hd
  · decide
  · have ha := isAlphanum_of_mem_hexByte hd
    rw [Bool.eq_false_iff]
    intro hsign
    simp only [isUriSign, Bool.or_eq_true, beq_iff_eq] at hsign
    rcases hsign with (((rfl | rfl) | rfl) | rfl) | rfl <;> exact absurd ha (by decide)

theorem not_isUriSign_of_mem_tidyUri (hu : ∀ c ∈ u, isUriSign c = false) (h : d ∈ tidyUri u) :
    isUriSign d = false := by
  obtain ⟨c, hc, hd⟩ := List.mem_flatMap.1 h
  split at hd
  case isTrue => exact not_isUriSign_of_mem_percentEncode hd
  case isFalse =>
    rw [List.mem_singleton.1 hd]
    exact hu c hc

theorem not_mem_of_not_isUriSign (hu : ∀ c ∈ u, isUriSign c = false) (hd : isUriSign d) :
    d ∉ u := by
  intro hm
  rw [hu d hm] at hd
  cases hd

theorem isSchemeless_eq (h : isSchemeless t) :
    ∃ u v, t = u ++ v ∧ (∀ c ∈ u, isUriSign c = false) ∧
      (v = [] ∨ ∃ d rest, v = d :: rest ∧ endsSearch d) := by
  refine ⟨t.takeWhile (!isUriSign ·), t.dropWhile (!isUriSign ·),
    List.takeWhile_append_dropWhile.symm, ?_, ?_⟩
  · intro c hc
    simpa using List.mem_takeWhile_imp hc
  · rw [isSchemeless] at h
    have hstop := List.head?_dropWhile_not (!isUriSign ·) t
    cases hv : t.dropWhile (!isUriSign ·) with
    | nil => exact .inl rfl
    | cons d rest =>
      rw [hv] at h hstop
      have hsign : isUriSign d := (Bool.not_eq_false' _).mp hstop
      refine .inr ⟨d, rest, rfl, ?_⟩
      simp only [isUriSign, endsSearch_iff, Bool.and_eq_true, bne_iff_ne, Bool.or_eq_true,
        beq_iff_eq] at h hsign ⊢
      tauto

theorem not_mem_schemesRead_of_isSchemeless (h : isSchemeless t) (s : Text) :
    s ∉ schemesRead (tidyUri t) := by
  intro hs
  obtain ⟨r, hr, name, hname, -⟩ := mem_schemesRead hs
  obtain ⟨u, v, rfl, hu, hv⟩ := isSchemeless_eq h
  have hsign (d : Char) (hd : d ∈ tidyUri u) := not_isUriSign_of_mem_tidyUri hu hd
  have hpad (d : Char) (hd : d ∈ tidyUri u) : isPadding d = false := not_isPadding_of_mem_tidyUri hd
  have hcolon : ':' ∉ tidyUri u := not_mem_of_not_isUriSign hsign rfl
  have hamp : '&' ∉ tidyUri u := not_mem_of_not_isUriSign hsign rfl
  rcases hv with rfl | ⟨d, rest, rfl, hd⟩
  · rw [List.append_nil] at hr
    rw [mem_readings_of_not_mem hamp hr, scheme?_of_colon_not_mem hpad hcolon] at hname
    cases hname
  · have hkeep : tidyUri (d :: rest) = d :: tidyUri rest ∧ d ≠ '&' := by
      rcases endsSearch_iff.1 hd with rfl | rfl | rfl <;> exact ⟨rfl, by decide⟩
    rw [tidyUri_append, hkeep.1] at hr
    obtain ⟨more, rfl⟩ := mem_readings_cons hamp hkeep.2 hr
    rw [scheme?_of_endsSearch hpad hcolon hd] at hname
    cases hname

theorem eq_about_of_sentinel (hs : s ∈ schemesRead innocuousUri) : s = "about".toList := by
  have hsplit : innocuousUri = "about".toList ++ ':' :: "invalid#zSoyz".toList := rfl
  have hchars : "about".toList.all isSubtypeChar := by decide
  rw [hsplit] at hs
  exact eq_of_mem_schemesRead (List.all_eq_true.1 hchars) hs

theorem not_breaksUri_of_foldChar (h : breaksUri (foldChar c) = false) : breaksUri c = false := by
  cases hl : (foldChar c).isLower with
  | true => exact not_breaksUri_of_isSubtypeChar (isSubtypeChar_of_isLower_foldChar hl)
  | false => rwa [eq_of_foldChar rfl hl]

theorem tidyUri_of_fold {word : Text} (hw : word.all (!breaksUri ·))
    (hu : u.map foldChar = word) : tidyUri u = u := by
  apply tidyUri_of_intact
  intro c hc
  rw [← hu, List.all_map, List.all_eq_true] at hw
  exact not_breaksUri_of_foldChar (by simpa using hw c hc)

theorem isMediaData_eq (h : isMediaData t) :
    ∃ kind ∈ ["image", "audio", "video"], ∃ start subtype separator data,
      t = start ++ subtype ++ separator ++ data ∧
        start.map foldChar = "data:".toList ++ kind.toList ++ ['/'] ∧
        (∀ c ∈ subtype, isSubtypeChar c) ∧ separator.map foldChar = ";base64,".toList := by
  obtain ⟨form, hform, hany⟩ := List.any_eq_true.1 h
  obtain ⟨rest, hrest, hdata⟩ := (Option.any_eq_true _ _).1 hany
  rw [Bool.and_eq_true] at hdata
  obtain ⟨data, hsep, -⟩ := (Option.any_eq_true _ _).1 hdata.2
  obtain ⟨start, rfl, hstart⟩ := dropFolded?_eq_some hrest
  obtain ⟨separator, hs, hfold⟩ := dropFolded?_eq_some hsep
  have hkind : ∃ kind ∈ ["image", "audio", "video"],
      form.toList = "data:".toList ++ kind.toList ++ ['/'] := by
    simp only [List.mem_cons, List.not_mem_nil, or_false] at hform
    rcases hform with rfl | rfl | rfl
    · exact ⟨"image", by decide, rfl⟩
    · exact ⟨"audio", by decide, rfl⟩
    · exact ⟨"video", by decide, rfl⟩
  obtain ⟨kind, hk, hkform⟩ := hkind
  refine ⟨kind, hk, start, rest.takeWhile isSubtypeChar, separator, data, ?_,
    hstart.trans hkform, fun c hc => List.mem_takeWhile_imp hc, hfold⟩
  rw [List.append_assoc, ← hs, List.append_assoc, List.takeWhile_append_dropWhile]

theorem isMediaForm_tidyUri (h : isMediaData t) : IsMediaForm (tidyUri t) := by
  obtain ⟨kind, hk, start, subtype, separator, data, rfl, hstart, hsub, hsep⟩ := isMediaData_eq h
  have hplain : ("data:".toList ++ kind.toList ++ ['/']).all (!breaksUri ·) := by
    simp only [List.mem_cons, List.not_mem_nil, or_false] at hk
    rcases hk with rfl | rfl | rfl <;> decide
  have htidy : tidyUri (start ++ subtype ++ separator ++ data) =
      start ++ subtype ++ separator ++ tidyUri data := by
    rw [tidyUri_append, tidyUri_append, tidyUri_append, tidyUri_of_fold hplain hstart,
      tidyUri_of_intact fun c hc => not_breaksUri_of_isSubtypeChar (hsub c hc),
      tidyUri_of_fold (by decide) hsep]
  refine ⟨kind, hk, subtype.map foldChar, (tidyUri data).map foldChar, ?_⟩
  rw [htidy, List.map_append, List.map_append, List.map_append, hstart, hsep]

theorem hasScheme_data_of_isMediaData (h : isMediaData t) : hasScheme ["data"] t := by
  obtain ⟨kind, -, start, subtype, separator, data, rfl, hstart, -, -⟩ := isMediaData_eq h
  have hdrop := dropFolded?_map start (subtype ++ separator ++ data)
  have hword : "data:".toList ++ kind.toList ++ ['/'] =
      ("data".toList ++ [':']) ++ (kind.toList ++ ['/']) := by
    rw [List.append_assoc]
    rfl
  rw [hstart, hword, dropFolded?_append] at hdrop
  obtain ⟨mid, hmid, -⟩ := Option.bind_eq_some_iff.1 hdrop
  rw [hasScheme, List.any_cons, startsFolded, List.append_assoc, List.append_assoc,
    ← List.append_assoc subtype, hmid]
  rfl

theorem startsWithScheme_eq (h : startsWithScheme t) :
    ∃ u rest, t = u ++ ':' :: rest ∧ ∀ c ∈ u, isSubtypeChar c := by
  cases t with
  | nil => cases h
  | cons c cs =>
    rw [startsWithScheme, Bool.and_eq_true, beq_iff_eq] at h
    obtain ⟨rest, hr⟩ := List.head?_eq_some_iff.1 h.2
    refine ⟨c :: cs.takeWhile isSubtypeChar, rest, ?_, ?_⟩
    · rw [List.cons_append, ← hr, List.takeWhile_append_dropWhile]
    · rw [List.forall_mem_cons]
      refine ⟨?_, fun d hd => List.mem_takeWhile_imp hd⟩
      rw [isSubtypeChar, isFoldedAlphanum, h.1]
      rfl

theorem ne_javascript_of_startsWithScheme (h : startsWithScheme t)
    (hj : hasScheme ["javascript"] t = false) (hs : s ∈ schemesRead (tidyUri t)) :
    s ≠ "javascript".toList := by
  rintro rfl
  obtain ⟨u, rest, rfl, hu⟩ := startsWithScheme_eq h
  rw [tidyUri_colon hu] at hs
  have hfold := eq_of_mem_schemesRead hu hs
  have hstarts : startsFolded ("javascript".toList ++ [':']) (u ++ ':' :: rest) := by
    rw [startsFolded, hfold, dropFolded?_append, dropFolded?_map]
    rfl
  rw [hasScheme, List.any_cons, hstarts, Bool.true_or] at hj
  cases hj

theorem mem_of_isSafeUri (h : isSafeUri t) (hs : s ∈ schemesRead (tidyUri t)) :
    s ∈ ["http", "https", "mailto", "ftp"].map String.toList := by
  rw [isSafeUri, Bool.and_eq_true, Bool.or_eq_true] at h
  rcases h.2 with hscheme | hless
  · exact mem_of_hasScheme (by decide) hscheme hs
  · exact absurd hs (not_mem_schemesRead_of_isSchemeless hless s)

theorem mem_of_isSafeMediaUri (h : isSafeMediaUri t) (hs : s ∈ schemesRead (tidyUri t)) :
    s ∈ ["http", "https", "ftp", "blob"].map String.toList ∨
      s = "data".toList ∧ IsMediaForm (tidyUri t) := by
  rw [isSafeMediaUri, Bool.and_eq_true, Bool.or_eq_true, Bool.or_eq_true] at h
  rcases h.2 with (hscheme | hdata) | hless
  · exact .inl (mem_of_hasScheme (by decide) hscheme hs)
  · have hmem := mem_of_hasScheme (by decide) (hasScheme_data_of_isMediaData hdata) hs
    exact .inr ⟨List.mem_singleton.1 hmem, isMediaForm_tidyUri hdata⟩
  · exact absurd hs (not_mem_schemesRead_of_isSchemeless hless s)

theorem ne_javascript_of_isLegacyUri (h : isLegacyUri t) (hs : s ∈ schemesRead (tidyUri t)) :
    s ≠ "javascript".toList := by
  rw [isLegacyUri, Bool.and_eq_true, Bool.and_eq_true, Bool.or_eq_true, Bool.not_eq_true',
    Bool.not_eq_true'] at h
  rcases h.2 with hscheme | hless
  · exact ne_javascript_of_startsWithScheme hscheme h.1.2 hs
  · exact absurd hs (not_mem_schemesRead_of_isSchemeless hless s)

theorem filter_uri_cases (context : FilterContext) (he : context.emit = tidyUri)
    (hs : context.sentinel = innocuousUri) (t : Text) :
    context.accepts t ∧ context.filter t = tidyUri t ∨ context.filter t = innocuousUri := by
  rw [FilterContext.filter, he, hs]
  split
  case isTrue ha => exact .inl ⟨ha, rfl⟩
  case isFalse => exact .inr rfl

/-- Whatever text is filtered as a URI, browsers read no scheme in what is emitted but those of the
context, also once references are decoded. -/
theorem schemes_of_filter (t : Text) :
    (∀ s ∈ schemesRead (FilterContext.normalizeUri.filter t),
      s ∈ ["http", "https", "mailto", "ftp"].map String.toList ∨
        s = "about".toList ∧ FilterContext.normalizeUri.filter t = innocuousUri) ∧
    (∀ s ∈ schemesRead (FilterContext.normalizeMediaUri.filter t),
      s ∈ ["http", "https", "ftp", "blob"].map String.toList ∨
        s = "data".toList ∧ IsMediaForm (FilterContext.normalizeMediaUri.filter t) ∨
        s = "about".toList ∧ FilterContext.normalizeMediaUri.filter t = innocuousUri) ∧
    ∀ s ∈ schemesRead (FilterContext.legacyUri.filter t), s ≠ "javascript".toList := by
  refine ⟨?_, ?_, ?_⟩
  · intro s hs
    rcases filter_uri_cases .normalizeUri rfl rfl t with ⟨ha, he⟩ | he
    · rw [he] at hs
      exact .inl (mem_of_isSafeUri ha hs)
    · rw [he] at hs
      exact .inr ⟨eq_about_of_sentinel hs, he⟩
  · intro s hs
    rcases filter_uri_cases .normalizeMediaUri rfl rfl t with ⟨ha, he⟩ | he
    · rw [he] at hs ⊢
      exact (mem_of_isSafeMediaUri ha hs).imp_right .inl
    · rw [he] at hs
      exact .inr (.inr ⟨eq_about_of_sentinel hs, he⟩)
  · intro s hs
    rcases filter_uri_cases .legacyUri rfl rfl t with ⟨ha, he⟩ | he
    · rw [he] at hs
      exact ne_javascript_of_isLegacyUri ha hs
    · rw [he] at hs
      rw [eq_about_of_sentinel hs]
      decide

/-- An image in the URI itself is data where media are wanted, and is refused elsewhere. -/
theorem schemes_of_filter_image :
    let t := "DATA:image/png;base64,AA==".toList
    "about".toList ∈ schemesRead (FilterContext.normalizeUri.filter t) ∧
      "data".toList ∈ schemesRead (FilterContext.normalizeMediaUri.filter t) ∧
      "data".toList ∈ schemesRead (FilterContext.legacyUri.filter t) ∧
      FilterContext.normalizeUri.filter t = innocuousUri ∧
      IsMediaForm (FilterContext.normalizeMediaUri.filter t) ∧
      "data".toList ≠ "javascript".toList := by
  intro t
  obtain ⟨huri, hmedia, hlegacy⟩ := schemes_of_filter t
  have habout : "about".toList ∈ schemesRead (FilterContext.normalizeUri.filter t) := by
    decide +kernel
  have hdata : "data".toList ∈ schemesRead (FilterContext.normalizeMediaUri.filter t) := by
    decide +kernel
  have hloose : "data".toList ∈ schemesRead (FilterContext.legacyUri.filter t) := by
    decide +kernel
  refine ⟨habout, hdata, hloose, ?_, ?_, hlegacy _ hloose⟩
  · exact ((huri _ habout).resolve_left (by decide)).2
  · rcases hmedia _ hdata with h | h | h
    · exact absurd h (by decide)
    · exact h.2
    · exact absurd h.1 (by decide)

end SafeOutput.Uri
