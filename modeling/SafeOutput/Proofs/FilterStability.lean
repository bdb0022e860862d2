import Mathlib
import SafeOutput.Proofs.SafeScheme

namespace SafeOutput.Uri

open Text Escape Accept

variable {c d : Char} {t u word : Text} {p : Char → Bool}

def tidyUriChar (c : Char) : Text :=
  if breaksUri c then percentEncode c else [c]

theorem tidyUri_eq_flatMap (t : Text) : tidyUri t = t.flatMap tidyUriChar := rfl

theorem tidyUriChar_of_intact (h : breaksUri c = false) : tidyUriChar c = [c] := by
  rw [tidyUriChar, h]
  rfl

theorem tidyUri_cons_of_intact (h : breaksUri c = false) (cs : Text) :
    tidyUri (c :: cs) = c :: tidyUri cs := by
  rw [tidyUri_eq_flatMap, List.flatMap_cons, tidyUriChar_of_intact h]
  rfl

theorem tidyUri_cons_of_breaks (h : breaksUri c = true) (cs : Text) :
    tidyUri (c :: cs) = percentEncode c ++ tidyUri cs := by
  rw [tidyUri_eq_flatMap, List.flatMap_cons, tidyUriChar, h]
  rfl

theorem tidyUri_cons_percent (h : breaksUri c = true) (cs : Text) :
    ∃ more, tidyUri (c :: cs) = '%' :: more := by
  obtain ⟨more, hm⟩ := percentEncode_eq_cons c
  exact ⟨more ++ tidyUri cs, by rw [tidyUri_cons_of_breaks h, hm, List.cons_append]⟩

theorem marked_tidyUriChar : Marked '%' tidyUriChar := by
  intro c
  cases h : breaksUri c with
  | false => exact .inl (tidyUriChar_of_intact h)
  | true =>
    rw [tidyUriChar, h]
    exact .inr (percentEncode_eq_cons c)

theorem not_breaksUri_of_isAlphanum (h : c.isAlphanum) : breaksUri c = false := by
  apply not_breaksUri_of_isSubtypeChar
  simp only [isSubtypeChar, isFoldedAlphanum, Bool.or_eq_true, isFoldedLetter_iff]
  rcases isAlphanum_iff.1 h with ha | hd
  · exact .inl (.inl (.inl (.inl (.inl ha))))
  · exact .inl (.inl (.inl (.inr hd)))

theorem not_breaksUri_of_mem_percentEncode (h : d ∈ percentEncode c) : breaksUri d = false := by
  obtain ⟨b, -, hb⟩ := List.mem_flatMap.1 h
  rcases List.mem_cons.1 hb with rfl | hd
  · decide
  · exact not_breaksUri_of_isAlphanum (isAlphanum_of_mem_hexByte hd)

theorem not_breaksUri_of_mem_tidyUri (h : d ∈ tidyUri t) : breaksUri d = false := by
  obtain ⟨c, -, hd⟩ := List.mem_flatMap.1 h
  split at hd
  case isTrue => exact not_breaksUri_of_mem_percentEncode hd
  case isFalse hc =>
    rw [List.mem_singleton.1 hd]
    exact Bool.eq_false_iff.2 hc

theorem tidyUri_tidyUri (t : Text) : tidyUri (tidyUri t) = tidyUri t :=
  tidyUri_of_intact fun _ hc => not_breaksUri_of_mem_tidyUri hc

/-- Characters that tidying leaves alone and does not write for others either. -/
def isUntouched (c : Char) : Bool :=
  !breaksUri c && c != '%'

theorem isUntouched_iff : isUntouched c ↔ breaksUri c = false ∧ c ≠ '%' := by
  rw [isUntouched, Bool.and_eq_true, Bool.not_eq_true', bne_iff_ne]

theorem isUntouched_of_isSubtypeChar (h : isSubtypeChar c) : isUntouched c := by
  apply isUntouched_iff.2
  refine ⟨not_breaksUri_of_isSubtypeChar h, ?_⟩
  rintro rfl
  exact absurd h (by decide)

section Untouched

variable (hp : ∀ c, p c = true → isUntouched c)

include hp

theorem tidyUriChar_of_class (c : Char) (hc : p c = true) : tidyUriChar c = [c] :=
  tidyUriChar_of_intact (isUntouched_iff.1 (hp c hc)).1

theorem percent_of_class : p '%' = false := by
  rw [Bool.eq_false_iff]
  intro h
  exact absurd (hp _ h) (by decide)

theorem takeWhile_tidyUri (t : Text) : (tidyUri t).takeWhile p = t.takeWhile p :=
  marked_tidyUriChar.takeWhile_flatMap (tidyUriChar_of_class hp) (percent_of_class hp) t

theorem dropWhile_tidyUri (t : Text) : (tidyUri t).dropWhile p = tidyUri (t.dropWhile p) :=
  marked_tidyUriChar.dropWhile_flatMap (tidyUriChar_of_class hp) (percent_of_class hp) t

theorem all_tidyUri (t : Text) : (tidyUri t).all p = t.all p :=
  marked_tidyUriChar.all_flatMap (tidyUriChar_of_class hp) (percent_of_class hp) t

end Untouched

/-- A word of untouched characters is found in a tidied text where it was found before. -/
theorem dropFolded?_tidyUri (hw : word.all isUntouched) (t : Text) :
    dropFolded? word (tidyUri t) = (dropFolded? word t).map tidyUri := by
  fun_induction dropFolded? word t with
  | case1 => rfl
  | case2 => rfl
  | case3 ws c cs ih =>
    rw [List.all_cons, Bool.and_eq_true] at hw
    have hc := not_breaksUri_of_foldChar (isUntouched_iff.1 hw.1).1
    rw [tidyUri_cons_of_intact hc, dropFolded?, if_pos rfl]
    exact ih hw.2
  | case4 w ws c cs hne =>
    rw [List.all_cons, Bool.and_eq_true] at hw
    cases hc : breaksUri c with
    | false => rw [tidyUri_cons_of_intact hc, dropFolded?, if_neg hne, Option.map_none]
    | true =>
      obtain ⟨more, hm⟩ := tidyUri_cons_percent hc cs
      have hpercent : foldChar '%' ≠ w := Ne.symm (isUntouched_iff.1 hw.1).2
      rw [hm, dropFolded?, if_neg hpercent, Option.map_none]

theorem any_congr_of_mem {α : Type} {xs : List α} {p q : α → Bool} (h : ∀ x ∈ xs, p x = q x) :
    xs.any p = xs.any q := by
  induction xs with
  | nil => rfl
  | cons x xs ih =>
    obtain ⟨hx, hxs⟩ := List.forall_mem_cons.1 h
    rw [List.any_cons, List.any_cons, hx, ih hxs]

theorem hasScheme_tidyUri (schemes : List String)
    (h : schemes.all fun s => (s.toList ++ [':']).all isUntouched) (t : Text) :
    hasScheme schemes (tidyUri t) = hasScheme schemes t := by
  apply any_congr_of_mem
  intro s hs
  rw [startsFolded, startsFolded, dropFolded?_tidyUri (List.all_eq_true.1 h s hs),
    Option.isSome_map]

theorem not_breaksUri_of_isUriSign (h : isUriSign c) : breaksUri c = false := by
  simp only [isUriSign, Bool.or_eq_true, beq_iff_eq] at h
  rcases h with (((rfl | rfl) | rfl) | rfl) | rfl <;> decide

theorem dropWhile_not_isUriSign_tidyUri (t : Text) :
    (tidyUri t).dropWhile (!isUriSign ·) = tidyUri (t.dropWhile (!isUriSign ·)) := by
  induction t with
  | nil => rfl
  | cons c cs ih =>
    cases hc : isUriSign c with
    | true =>
      have hstop (more : Text) : (c :: more).dropWhile (!isUriSign ·) = c :: more := by
        apply List.dropWhile_cons_of_neg
        rw [hc]
        exact Bool.false_ne_true
      rw [hstop, tidyUri_cons_of_intact (not_breaksUri_of_isUriSign hc), hstop]
    | false =>
      have hwritten : ∀ d ∈ tidyUri [c], (!isUriSign d) = true := by
        intro d hd
        have hsign := not_isUriSign_of_mem_tidyUri (List.forall_mem_singleton.2 hc) hd
        rw [hsign, Bool.not_false]
      have hsplit : tidyUri (c :: cs) = tidyUri [c] ++ tidyUri cs := tidyUri_append [c] cs
      rw [hsplit, List.dropWhile_append_of_pos hwritten, ih, List.dropWhile_cons_of_pos]
      rw [hc, Bool.not_false]

theorem isSchemeless_tidyUri (t : Text) : isSchemeless (tidyUri t) = isSchemeless t := by
  have hstop := List.head?_dropWhile_not (!isUriSign ·) t
  rw [isSchemeless, isSchemeless, dropWhile_not_isUriSign_tidyUri]
  cases hd : t.dropWhile (!isUriSign ·) with
  | nil => rfl
  | cons c cs =>
    rw [hd] at hstop
    have hsign : isUriSign c := (Bool.not_eq_false' _).mp hstop
    rw [tidyUri_cons_of_intact (not_breaksUri_of_isUriSign hsign)]

theorem isBase64_tidyUri (t : Text) : isBase64 (tidyUri t) = isBase64 t := by
  have hdigit : ∀ c, isBase64Char c = true → isUntouched c := by
    intro c hc
    simp only [isBase64Char, Bool.or_eq_true, beq_iff_eq] at hc
    rcases hc with (hc | rfl) | rfl
    · apply isUntouched_of_isSubtypeChar
      simp only [isSubtypeChar, hc, Bool.true_or]
    · decide
    · decide
  have hpad : ∀ c, (c == '=') = true → isUntouched c := by
    intro c hc
    rw [eq_of_beq hc]
    decide
  rw [isBase64, isBase64, takeWhile_tidyUri hdigit, dropWhile_tidyUri hdigit, all_tidyUri hpad]

theorem isBase64Part_tidyUri (t : Text) : isBase64Part (tidyUri t) = isBase64Part t := by
  rw [isBase64Part, isBase64Part, dropFolded?_tidyUri (by decide), Option.any_map]
  congr 1
  funext rest
  exact isBase64_tidyUri rest

theorem isMediaData_tidyUri (t : Text) : isMediaData (tidyUri t) = isMediaData t := by
  have hall : ["data:image/", "data:audio/", "data:video/"].all
      fun start => start.toList.all isUntouched := by decide
  apply any_congr_of_mem
  intro start hs
  rw [dropFolded?_tidyUri (List.all_eq_true.1 hall start hs), Option.any_map]
  congr 1
  funext rest
  simp only [takeWhile_tidyUri fun _ hc => isUntouched_of_isSubtypeChar hc,
    dropWhile_tidyUri fun _ hc => isUntouched_of_isSubtypeChar hc, isBase64Part_tidyUri]

theorem head?_tidyUri (h : isUntouched d) (t : Text) :
    ((tidyUri t).head? == some d) = (t.head? == some d) := by
  cases t with
  | nil => rfl
  | cons c cs =>
    cases hc : breaksUri c with
    | false => rw [tidyUri_cons_of_intact hc, List.head?_cons, List.head?_cons]
    | true =>
      obtain ⟨more, hm⟩ := tidyUri_cons_percent hc cs
      have hd := isUntouched_iff.1 h
      have hne : c ≠ d := by
        rintro rfl
        rw [hc] at hd
        exact absurd hd.1 (Ne.symm Bool.false_ne_true)
      rw [hm, List.head?_cons, List.head?_cons, Option.some_beq_some, Option.some_beq_some,
        beq_eq_false_iff_ne.2 hd.2.symm, beq_eq_false_iff_ne.2 hne]

theorem startsWithScheme_tidyUri (t : Text) :
    startsWithScheme (tidyUri t) = startsWithScheme t := by
  cases t with
  | nil => rfl
  | cons c cs =>
    cases hc : breaksUri c with
    | false =>
      rw [tidyUri_cons_of_intact hc, startsWithScheme, startsWithScheme,
        dropWhile_tidyUri fun _ h => isUntouched_of_isSubtypeChar h, head?_tidyUri (by decide)]
    | true =>
      obtain ⟨more, hm⟩ := tidyUri_cons_percent hc cs
      have hletter : isFoldedLetter c = false := by
        rw [Bool.eq_false_iff]
        intro hl
        have hsub : isSubtypeChar c := by
          simp only [isSubtypeChar, isFoldedAlphanum, hl, Bool.true_or]
        rw [not_breaksUri_of_isSubtypeChar hsub] at hc
        cases hc
      rw [hm, startsWithScheme, startsWithScheme, hletter]
      rfl

section Traversal

theorem dropDot?_eq (t : Text) :
    dropDot? t = (dropFolded? ['.'] t).or (dropFolded? ['%', '2', 'e'] t) := by
  have hthird (c : Char) (cs : Text) : (dropFolded? ['.'] ('%' :: '2' :: c :: cs)).or
      (dropFolded? ['%', '2', 'e'] ('%' :: '2' :: c :: cs)) =
        if foldChar c = 'e' then some cs else none := rfl
  fun_cases dropDot? t with
  | case1 cs => rfl
  | case2 c cs hc => rw [hthird, if_pos hc]
  | case3 c cs hc => rw [hthird, if_neg hc]
  | case4 t hdot hpercent =>
    symm
    rw [Option.or_eq_none_iff, Option.eq_none_iff_forall_ne_some, Option.eq_none_iff_forall_ne_some]
    constructor
    · intro rest h
      obtain ⟨u, rfl, hu⟩ := dropFolded?_eq_some h
      obtain ⟨a, us, rfl, ha, -⟩ := List.map_eq_cons_iff.1 hu
      exact hdot _ (by rw [eq_of_foldChar ha rfl]; rfl)
    · intro rest h
      obtain ⟨u, rfl, hu⟩ := dropFolded?_eq_some h
      obtain ⟨a, us, rfl, ha, hus⟩ := List.map_eq_cons_iff.1 hu
      obtain ⟨b, vs, rfl, hb, hvs⟩ := List.map_eq_cons_iff.1 hus
      obtain ⟨c, ws, rfl, -, -⟩ := List.map_eq_cons_iff.1 hvs
      exact hpercent c (ws ++ rest) (by rw [eq_of_foldChar ha rfl, eq_of_foldChar hb rfl]; rfl)

theorem firstByte_ne_dot {b : UInt8} {bs : List UInt8} (h : String.utf8EncodeChar c = b :: bs)
    (hc : c ≠ '.') : b.toNat ≠ 0x2E := by
  intro hb
  unfold String.utf8EncodeChar at h
  simp only at h
  split at h
  case isTrue hv =>
    rw [← (List.cons.inj h).1, UInt8.toNat_ofNat'] at hb
    apply hc
    apply Char.ext
    apply UInt32.toNat_inj.1
    rw [Nat.mod_eq_of_lt (by omega)] at hb
    exact hb
  case isFalse =>
    split at h
    · rw [← (List.cons.inj h).1, UInt8.toNat_ofNat'] at hb
      omega
    split at h
    · rw [← (List.cons.inj h).1, UInt8.toNat_ofNat'] at hb
      omega
    · rw [← (List.cons.inj h).1, UInt8.toNat_ofNat'] at hb
      omega

theorem dropFolded?_append_left (h : word.length ≤ u.length) (rest : Text) :
    dropFolded? word (u ++ rest) = (dropFolded? word u).map (· ++ rest) := by
  fun_induction dropFolded? word u with
  | case1 => rfl
  | case2 => cases h
  | case3 ws c cs ih =>
    rw [List.cons_append, dropFolded?, if_pos rfl]
    exact ih (Nat.le_of_succ_le_succ h)
  | case4 w ws c cs hne => rw [List.cons_append, dropFolded?, if_neg hne, Option.map_none]

theorem hexByte_ne_dot : ∀ n < 256, n = 0x2E ∨ (hexByte (UInt8.ofNat n)).length = 2 ∧
    dropFolded? ['2', 'e'] (hexByte (UInt8.ofNat n)) = none := by
  decide +kernel

/-- No character but the dot has an encoded form that is taken for a dot. -/
theorem dropFolded?_percentEncode (hc : c ≠ '.') (rest : Text) :
    dropFolded? ['%', '2', 'e'] (percentEncode c ++ rest) = none := by
  rw [percentEncode]
  cases hb : String.utf8EncodeChar c with
  | nil => exact absurd hb String.utf8EncodeChar_ne_nil
  | cons b bs =>
    obtain ⟨hlength, hnone⟩ :=
      (hexByte_ne_dot b.toNat b.toNat_lt).resolve_left (firstByte_ne_dot hb hc)
    rw [UInt8.ofNat_toNat] at hlength hnone
    have hpercent : foldChar '%' = '%' := by decide
    have hfits : ['2', 'e'].length ≤ (hexByte b).length := Nat.le_of_eq hlength.symm
    rw [List.flatMap_cons, List.append_assoc, List.cons_append, dropFolded?, if_pos hpercent,
      dropFolded?_append_left hfits, hnone, Option.map_none]

theorem dropFolded?_dot_tidyUri (t : Text) :
    dropFolded? ['%', '2', 'e'] (tidyUri t) = (dropFolded? ['%', '2', 'e'] t).map tidyUri := by
  cases t with
  | nil => rfl
  | cons c cs =>
    cases hc : breaksUri c with
    | true =>
      have hdot : c ≠ '.' := by
        rintro rfl
        cases hc
      have hpercent : foldChar c ≠ '%' := by
        intro h
        rw [eq_of_foldChar h rfl] at hc
        cases hc
      rw [tidyUri_cons_of_breaks hc, dropFolded?_percentEncode hdot, dropFolded?, if_neg hpercent,
        Option.map_none]
    | false =>
      -- Behind a percent sign of the text itself, digits and letters are found as ever.
      rw [tidyUri_cons_of_intact hc, dropFolded?, dropFolded?]
      split
      · exact dropFolded?_tidyUri (by decide) cs
      · rfl

theorem dropDot?_tidyUri (t : Text) : dropDot? (tidyUri t) = (dropDot? t).map tidyUri := by
  rw [dropDot?_eq, dropDot?_eq, dropFolded?_tidyUri (by decide), dropFolded?_dot_tidyUri,
    Option.map_or]

theorem endsSegment_tidyUri (t : Text) : endsSegment (tidyUri t) = endsSegment t := by
  cases t with
  | nil => rfl
  | cons c cs =>
    cases hc : breaksUri c with
    | false => rw [tidyUri_cons_of_intact hc, endsSegment, endsSegment]
    | true =>
      obtain ⟨more, hm⟩ := tidyUri_cons_percent hc cs
      have hsign : endsSearch c = false := by
        rw [Bool.eq_false_iff]
        intro hs
        rcases endsSearch_iff.1 hs with rfl | rfl | rfl <;> cases hc
      rw [hm]
      exact hsign.symm

theorem isParentSegment_tidyUri (t : Text) :
    isParentSegment (tidyUri t) = isParentSegment t := by
  have hdots : (dropDot? (tidyUri t)).bind dropDot? = ((dropDot? t).bind dropDot?).map tidyUri := by
    rw [dropDot?_tidyUri]
    cases dropDot? t with
    | none => rfl
    | some rest => exact dropDot?_tidyUri rest
  rw [isParentSegment, isParentSegment, hdots]
  cases (dropDot? t).bind dropDot? with
  | none => rfl
  | some rest => exact endsSegment_tidyUri rest

theorem climbs_append (h : ∀ c ∈ u, isUriSign c = false) (t : Text) :
    climbs (u ++ t) = climbs t := by
  induction u with
  | nil => rfl
  | cons c u ih =>
    obtain ⟨hc, hu⟩ := List.forall_mem_cons.1 h
    simp only [isUriSign, Bool.or_eq_false_iff] at hc
    rw [List.cons_append, climbs, ih hu, bne, bne, hc.1.2, hc.2, hc.1.1.2]
    simp only [Bool.not_false, Bool.true_and, Bool.false_and, Bool.false_or]

/-- Tidying neither makes a step to the parent directory nor hides one. -/
theorem climbs_tidyUri (t : Text) : climbs (tidyUri t) = climbs t := by
  induction t with
  | nil => rfl
  | cons c cs ih =>
    cases hc : breaksUri c with
    | false => rw [tidyUri_cons_of_intact hc, climbs, climbs, isParentSegment_tidyUri, ih]
    | true =>
      have hsign : isUriSign c = false := by
        rw [Bool.eq_false_iff]
        intro hs
        rw [not_breaksUri_of_isUriSign hs] at hc
        cases hc
      have hskip := climbs_append (List.forall_mem_singleton.2 hsign) cs
      rw [List.singleton_append] at hskip
      rw [tidyUri_cons_of_breaks hc,
        climbs_append fun d hd => not_isUriSign_of_mem_percentEncode hd, ih, hskip]

end Traversal

def tidiedContexts : List FilterContext :=
  [.normalizeUri, .normalizeMediaUri, .legacyUri]

theorem accepts_tidyUri {context : FilterContext} (h : context ∈ tidiedContexts) (t : Text) :
    context.accepts (tidyUri t) = context.accepts t := by
  simp only [tidiedContexts, List.mem_cons, List.not_mem_nil, or_false] at h
  rcases h with rfl | rfl | rfl
  · rw [FilterContext.accepts, isSafeUri, isSafeUri, climbs_tidyUri,
      hasScheme_tidyUri _ (by decide), isSchemeless_tidyUri]
  · rw [FilterContext.accepts, isSafeMediaUri, isSafeMediaUri, climbs_tidyUri,
      hasScheme_tidyUri _ (by decide), isMediaData_tidyUri, isSchemeless_tidyUri]
  · rw [FilterContext.accepts, isLegacyUri, isLegacyUri, climbs_tidyUri,
      hasScheme_tidyUri _ (by decide), startsWithScheme_tidyUri, isSchemeless_tidyUri]

end SafeOutput.Uri

namespace SafeOutput.FilterContext

open Escape Accept Uri

theorem accepts_emit (context : FilterContext) (t : Text) :
    context.accepts (context.emit t) = context.accepts t := by
  cases context
  case normalizeUri => exact accepts_tidyUri (by decide) t
  case normalizeMediaUri => exact accepts_tidyUri (by decide) t
  case legacyUri => exact accepts_tidyUri (by decide) t
  -- The other contexts emit what they accept as it is.
  all_goals rfl

theorem emit_emit (context : FilterContext) (t : Text) :
    context.emit (context.emit t) = context.emit t := by
  cases context
  case normalizeUri => exact tidyUri_tidyUri t
  case normalizeMediaUri => exact tidyUri_tidyUri t
  case legacyUri => exact tidyUri_tidyUri t
  all_goals rfl

theorem filter_sentinel (context : FilterContext) :
    context.filter context.sentinel = context.sentinel := by
  cases context <;> decide +kernel

theorem filter_of_accepts {context : FilterContext} {t : Text} (h : context.accepts t) :
    context.filter t = context.emit t :=
  if_pos h

theorem filter_of_refused {context : FilterContext} {t : Text} (h : context.accepts t = false) :
    context.filter t = context.sentinel := by
  rw [filter, h]
  rfl

theorem filter_filter (context : FilterContext) (t : Text) :
    context.filter (context.filter t) = context.filter t := by
  cases h : context.accepts t with
  | true =>
    have hemit : context.accepts (context.emit t) := (context.accepts_emit t).trans h
    rw [filter_of_accepts h, filter_of_accepts hemit, emit_emit]
  | false => rw [filter_of_refused h, filter_sentinel]

theorem emit_of_tidied {context : FilterContext} (h : context ∈ tidiedContexts) :
    context.emit = tidyUri := by
  simp only [tidiedContexts, List.mem_cons, List.not_mem_nil, or_false] at h
  rcases h with rfl | rfl | rfl <;> rfl

/-- Filtering a second time changes nothing. What is refused becomes the sentinel, which stays as it
is. A URI that is accepted is tidied, is accepted again and then stays as it is: tidying makes
neither a step to the parent directory nor the scheme of a script. -/
theorem filter_stable (context : FilterContext) (t : Text) :
    let f := fun context t => (Encoder.standard.filter context t).value
    f context (f context t) = f context t ∧
      (context.accepts t = false → f context t = context.sentinel) ∧
      f context context.sentinel = context.sentinel ∧
      (context ∈ tidiedContexts → context.accepts t → f context t = tidyUri t ∧
        context.accepts (tidyUri t) ∧ f context (tidyUri t) = tidyUri t) ∧
      climbs (tidyUri t) = climbs t ∧
      hasScheme ["javascript"] (tidyUri t) = hasScheme ["javascript"] t := by
  refine ⟨filter_filter context t, filter_of_refused, filter_sentinel context, ?_,
    climbs_tidyUri t, hasScheme_tidyUri _ (by decide) t⟩
  intro hc ha
  have hemit := emit_of_tidied hc
  have htidy : context.accepts (tidyUri t) := (accepts_tidyUri hc t).trans ha
  refine ⟨(filter_of_accepts ha).trans (congrFun hemit t), htidy, ?_⟩
  exact (filter_of_accepts htidy).trans ((congrFun hemit _).trans (tidyUri_tidyUri t))

/-- An encoded dot that a space cuts apart stays cut apart, and one that is whole is refused. -/
theorem filter_stable_cut_dot :
    let f := fun context t => (Encoder.standard.filter context t).value
    let uri := "/a/%2 e./b'".toList
    let tidied := "/a/%2%20e./b%27".toList
    f .normalizeUri "/a/%2e./b".toList = innocuousUri ∧ f .normalizeUri uri = tidied ∧
      f .normalizeUri tidied = tidied := by
  intro f uri tidied
  have htidied : tidyUri uri = tidied := by decide +kernel
  obtain ⟨-, -, -, haccepted, -⟩ := filter_stable .normalizeUri uri
  obtain ⟨hfirst, -, hsecond⟩ := haccepted (by decide) (by decide)
  rw [htidied] at hfirst hsecond
  exact ⟨(filter_stable .normalizeUri "/a/%2e./b".toList).2.1 (by decide), hfirst, hsecond⟩

end SafeOutput.FilterContext
