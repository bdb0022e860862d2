import Mathlib
import SafeOutput.Proofs.FilterStability

namespace SafeOutput.Uri

open Text Escape Accept

variable {c : Char} {t cs rest segment : Text} {context : FilterContext}

/-- What stands before any query and fragment. -/
def path (t : Text) : Text :=
  t.takeWhile fun c => c != '?' && c != '#'

def segments (t : Text) : List Text :=
  (path t).splitOn '/'

def firstSegment (t : Text) : Text :=
  t.takeWhile (!endsSearch ·)

def dots : List Text := [".".toList, "%2E".toList, "%2e".toList]

def IsParent (segment : Text) : Prop :=
  ∃ a ∈ dots, ∃ b ∈ dots, segment = a ++ b

instance : DecidablePred IsParent := fun segment =>
  inferInstanceAs (Decidable (∃ a ∈ dots, ∃ b ∈ dots, segment = a ++ b))

section Segments

theorem segments_slash (cs : Text) : segments ('/' :: cs) = [] :: segments cs := by
  have hpath : path ('/' :: cs) = '/' :: path cs := List.takeWhile_cons_of_pos rfl
  rw [segments, hpath, List.splitOn, List.splitOnP_cons_eq_if_modifyHead, if_pos (by decide)]
  rfl

theorem segments_stop (hc : c = '?' ∨ c = '#') (cs : Text) : segments (c :: cs) = [[]] := by
  have hpath : path (c :: cs) = [] := by
    apply List.takeWhile_cons_of_neg
    rcases hc with rfl | rfl <;> decide
  rw [segments, hpath]
  exact List.splitOn_nil '/'

theorem segments_char (hc : endsSearch c = false) (cs : Text) :
    segments (c :: cs) = (segments cs).modifyHead (c :: ·) := by
  simp only [endsSearch, Bool.or_eq_false_iff] at hc
  have hpath : path (c :: cs) = c :: path cs := by
    apply List.takeWhile_cons_of_pos
    rw [bne, bne, hc.1.2, hc.2]
    rfl
  have hslash : ¬(c == '/') = true := by
    rw [hc.1.1]
    exact Bool.false_ne_true
  rw [segments, hpath, List.splitOn, List.splitOnP_cons_eq_if_modifyHead, if_neg hslash]
  rfl

theorem segments_eq_cons (t : Text) : segments t = firstSegment t :: (segments t).tail := by
  induction t with
  | nil => rfl
  | cons c cs ih =>
    cases hc : endsSearch c with
    | true =>
      have hfirst : firstSegment (c :: cs) = [] := by
        apply List.takeWhile_cons_of_neg
        rw [hc]
        exact Bool.false_ne_true
      rw [hfirst]
      rcases endsSearch_iff.1 hc with rfl | hstop
      · rw [segments_slash, List.tail_cons]
      · rw [segments_stop hstop, List.tail_cons]
    | false =>
      have hfirst : firstSegment (c :: cs) = c :: firstSegment cs := by
        apply List.takeWhile_cons_of_pos
        rw [hc, Bool.not_false]
      rw [hfirst, segments_char hc, ih, List.modifyHead_cons, List.tail_cons]

end Segments

section Parent

theorem foldChar_eq_e_iff : foldChar c = 'e' ↔ c = 'E' ∨ c = 'e' := by
  constructor
  · intro h
    by_cases hu : c.isUpper
    · have hall : ∀ n < 128, foldChar (Char.ofNat n) = 'e' →
          Char.ofNat n = 'E' ∨ Char.ofNat n = 'e' := by decide
      have hword : c.isAlphanum := (isAlphanum_of_isUpper hu).1
      have hc := hall c.toNat (ascii_of_isAlphanum hword)
      rw [Char.ofNat_toNat] at hc
      exact hc h
    · unfold foldChar at h
      split at h
      · cases h
      split at h
      · cases h
      · rw [Char.toLower_eq_of_not_isUpper hu] at h
        exact .inr h
  · rintro (rfl | rfl) <;> decide

theorem dropDot?_eq_some_iff : dropDot? t = some rest ↔ ∃ dot ∈ dots, t = dot ++ rest := by
  constructor
  · intro h
    unfold dropDot? at h
    split at h
    case h_1 cs =>
      cases h
      exact ⟨".".toList, by decide, rfl⟩
    case h_2 c cs =>
      obtain ⟨hc, he⟩ := Option.ite_none_right_eq_some.1 h
      cases he
      rcases foldChar_eq_e_iff.1 hc with rfl | rfl
      · exact ⟨"%2E".toList, by decide, rfl⟩
      · exact ⟨"%2e".toList, by decide, rfl⟩
    case h_3 => cases h
  · rintro ⟨dot, hd, rfl⟩
    simp only [dots, List.mem_cons, List.not_mem_nil, or_false] at hd
    rcases hd with rfl | rfl | rfl <;> rfl

theorem firstSegment_dot {dot : Text} (h : dot ∈ dots) (rest : Text) :
    firstSegment (dot ++ rest) = dot ++ firstSegment rest := by
  have hall : dots.all fun dot => dot.all (!endsSearch ·) := by decide
  have hdot := List.all_eq_true.1 (List.all_eq_true.1 hall dot h)
  exact List.takeWhile_append_of_pos hdot

theorem endsSegment_iff : endsSegment t ↔ firstSegment t = [] := by
  cases t with
  | nil => exact iff_of_true rfl rfl
  | cons c cs =>
    have hends : endsSegment (c :: cs) = endsSearch c := rfl
    rw [hends, firstSegment, List.takeWhile_cons]
    cases endsSearch c with
    | true => exact iff_of_true rfl rfl
    | false => exact iff_of_false Bool.false_ne_true (List.cons_ne_nil _ _)

theorem isParentSegment_dots {a b : Text} (ha : a ∈ dots) (hb : b ∈ dots) (rest : Text) :
    isParentSegment (a ++ (b ++ rest)) = endsSegment rest := by
  rw [isParentSegment, dropDot?_eq_some_iff.2 ⟨a, ha, rfl⟩, Option.bind_some,
    dropDot?_eq_some_iff.2 ⟨b, hb, rfl⟩]

theorem isParentSegment_iff : isParentSegment t ↔ IsParent (firstSegment t) := by
  constructor
  · intro h
    rw [isParentSegment] at h
    split at h
    case h_1 rest hrest =>
      obtain ⟨mid, hmid, hbehind⟩ := Option.bind_eq_some_iff.1 hrest
      obtain ⟨a, ha, rfl⟩ := dropDot?_eq_some_iff.1 hmid
      obtain ⟨b, hb, rfl⟩ := dropDot?_eq_some_iff.1 hbehind
      refine ⟨a, ha, b, hb, ?_⟩
      rw [firstSegment_dot ha, firstSegment_dot hb, endsSegment_iff.1 h, List.append_nil]
    case h_2 => cases h
  · rintro ⟨a, ha, b, hb, he⟩
    have ht : t = a ++ (b ++ t.dropWhile (!endsSearch ·)) := by
      rw [← List.append_assoc, ← he]
      exact List.takeWhile_append_dropWhile.symm
    have hfirst : firstSegment (t.dropWhile (!endsSearch ·)) = [] := by
      rw [ht, firstSegment_dot ha, firstSegment_dot hb, ← List.append_assoc] at he
      exact List.append_right_eq_self.1 he
    rw [ht, isParentSegment_dots ha hb]
    exact endsSegment_iff.2 hfirst

/-- Only what follows a slash is looked at, so that the first segment is left out. -/
theorem climbs_iff (t : Text) : climbs t ↔ ∃ segment ∈ (segments t).tail, IsParent segment := by
  induction t with
  | nil =>
    apply iff_of_false Bool.false_ne_true
    rintro ⟨segment, hm, -⟩
    cases hm
  | cons c cs ih =>
    cases hc : endsSearch c with
    | true =>
      rcases endsSearch_iff.1 hc with rfl | hstop
      · have hclimbs : climbs ('/' :: cs) = (isParentSegment cs || climbs cs) := rfl
        rw [hclimbs, Bool.or_eq_true, isParentSegment_iff, ih, segments_slash, List.tail_cons,
          segments_eq_cons cs, List.exists_mem_cons_iff, List.tail_cons]
      · have hclimbs : climbs (c :: cs) = false := by rcases hstop with rfl | rfl <;> rfl
        rw [hclimbs, segments_stop hstop]
        apply iff_of_false Bool.false_ne_true
        rintro ⟨segment, hm, -⟩
        cases hm
    | false =>
      have htail : (segments (c :: cs)).tail = (segments cs).tail := by
        rw [segments_char hc, segments_eq_cons cs, List.modifyHead_cons, List.tail_cons,
          List.tail_cons]
      simp only [endsSearch, Bool.or_eq_false_iff] at hc
      rw [htail, ← ih, climbs, bne, bne, hc.1.1, hc.1.2, hc.2]
      rfl

theorem forall_segments_iff (h : climbs t = false) :
    (∀ segment ∈ (segments t).tail, ¬IsParent segment) ∧
      ((∀ segment ∈ segments t, ¬IsParent segment) ↔ ¬IsParent (firstSegment t)) := by
  have htail : ∀ segment ∈ (segments t).tail, ¬IsParent segment := by
    intro segment hm hp
    rw [(climbs_iff t).2 ⟨segment, hm, hp⟩] at h
    cases h
  refine ⟨htail, ?_⟩
  rw [segments_eq_cons, List.forall_mem_cons]
  exact and_iff_left htail

theorem isParent_firstSegment_tidyUri (t : Text) :
    IsParent (firstSegment (tidyUri t)) ↔ IsParent (firstSegment t) := by
  rw [← isParentSegment_iff, ← isParentSegment_iff, isParentSegment_tidyUri]

theorem not_climbs_of_accepts (hc : context ∈ tidiedContexts) (ha : context.accepts t) :
    climbs t = false := by
  simp only [tidiedContexts, List.mem_cons, List.not_mem_nil, or_false] at hc
  rcases hc with rfl | rfl | rfl
  · rw [FilterContext.accepts, isSafeUri, Bool.and_eq_true] at ha
    exact (Bool.not_eq_true' _).mp ha.1
  · rw [FilterContext.accepts, isSafeMediaUri, Bool.and_eq_true] at ha
    exact (Bool.not_eq_true' _).mp ha.1
  · rw [FilterContext.accepts, isLegacyUri, Bool.and_eq_true, Bool.and_eq_true] at ha
    exact (Bool.not_eq_true' _).mp ha.1.1

end Parent

/-- In a URI that is accepted, and in what is emitted for it, no segment behind a slash stands for
the parent directory. So none does at all exactly if the first does not: that one is not looked
at. -/
theorem parent_segments_exact (hc : context ∈ tidiedContexts) (ha : context.accepts t) :
    let o := (Encoder.standard.filter context t).value
    ∀ u ∈ [t, o], (∀ segment ∈ (segments u).tail, ¬IsParent segment) ∧
      ((∀ segment ∈ segments u, ¬IsParent segment) ↔ ¬IsParent (firstSegment t)) := by
  intro o u hu
  have hclimbs := not_climbs_of_accepts hc ha
  have ho : o = tidyUri t :=
    (FilterContext.filter_of_accepts ha).trans (congrFun (FilterContext.emit_of_tidied hc) t)
  rw [ho, List.mem_cons, List.mem_singleton] at hu
  rcases hu with rfl | rfl
  · exact forall_segments_iff hclimbs
  · rw [← isParent_firstSegment_tidyUri]
    exact forall_segments_iff ((climbs_tidyUri t).trans hclimbs)

theorem parent_segments_exact_query :
    let t := "..%2e/a b/..c?d=/../".toList
    FilterContext.normalizeUri ∈ tidiedContexts ∧ FilterContext.normalizeUri.accepts t ∧
      ∀ segment ∈ segments t, ¬IsParent segment := by
  intro t
  have hc : FilterContext.normalizeUri ∈ tidiedContexts := by decide
  have ha : FilterContext.normalizeUri.accepts t := by decide
  have hfirst : ¬IsParent (firstSegment t) := by decide
  refine ⟨hc, ha, ?_⟩
  exact (parent_segments_exact hc ha t List.mem_cons_self).2.2 hfirst

/-- A first segment of two dots is accepted in each of the contexts and emitted as it is. -/
theorem parent_segments_leading :
    let t := "../b".toList
    (tidiedContexts.all fun context =>
        context.accepts t && (Encoder.standard.filter context t).value == t) ∧
      "..".toList ∈ segments t ∧ IsParent "..".toList := by
  decide

end SafeOutput.Uri
