import Mathlib
import SafeOutput.Text.Class
import SafeOutput.Text.Fold
import SafeOutput.Text.Lowercase

namespace SafeOutput.Text

variable {c d : Char} {t u before after left right rest rest' word : Text}

theorem isUpper_iff : c.isUpper ↔ 65 ≤ c.toNat ∧ c.toNat ≤ 90 := by
  rw [Char.isUpper, decide_eq_true_iff, ge_iff_le, UInt32.le_iff_toNat_le, UInt32.le_iff_toNat_le]
  exact Iff.rfl

theorem isLower_iff : c.isLower ↔ 97 ≤ c.toNat ∧ c.toNat ≤ 122 := by
  rw [Char.isLower, Bool.and_eq_true_iff, decide_eq_true_iff, decide_eq_true_iff, ge_iff_le,
    UInt32.le_iff_toNat_le, UInt32.le_iff_toNat_le]
  exact Iff.rfl

theorem isDigit_iff : c.isDigit ↔ 48 ≤ c.toNat ∧ c.toNat ≤ 57 :=
  Char.isDigit_iff_toNat

theorem isAlpha_iff : c.isAlpha ↔ c.isUpper ∨ c.isLower :=
  Bool.or_eq_true_iff

theorem isAlphanum_iff : c.isAlphanum ↔ c.isAlpha ∨ c.isDigit :=
  Bool.or_eq_true_iff

theorem isAlphanum_of_isUpper (h : c.isUpper) : c.isAlphanum ∧ c.toLower.isAlphanum := by
  have ha : c.isAlpha := isAlpha_iff.2 (.inl h)
  have hl : c.toLower.isLower := by
    rw [Char.isLower_toLower_eq_isAlpha]
    exact ha
  exact ⟨isAlphanum_iff.2 (.inl ha), isAlphanum_iff.2 (.inl (isAlpha_iff.2 (.inr hl)))⟩

theorem ascii_of_isAlphanum (h : c.isAlphanum) : c.toNat < 128 := by
  rw [isAlphanum_iff, isAlpha_iff, isUpper_iff, isLower_iff, isDigit_iff] at h
  omega

section Lowercase

theorem ascii_of_toLower (h : c.toLower.toNat < 128) : c.toNat < 128 := by
  by_cases hu : c.isUpper = true
  · have hrange := isUpper_iff.1 hu
    omega
  · rwa [Char.toLower_eq_of_not_isUpper hu] at h

theorem lowerChar_of_ascii (h : c.toNat < 128) : lowerChar c = [c.toLower] :=
  if_pos h

theorem lowercaseAfter_of_ascii (before : Text) (h : ∀ c ∈ t, c.toNat < 128) :
    lowercaseAfter before t = t.map Char.toLower := by
  induction t generalizing before with
  | nil => rfl
  | cons c cs ih =>
    have hc := h c List.mem_cons_self
    have hne : (c == 'Σ') = false := by
      rw [beq_eq_false_iff_ne]
      rintro rfl
      exact absurd hc (by decide)
    rw [lowercaseAfter, hne, ih _ fun d hd => h d (List.mem_cons_of_mem c hd),
      lowerChar_of_ascii hc]
    rfl

theorem lowercase_of_ascii (h : ∀ c ∈ t, c.toNat < 128) : lowercase t = t.map Char.toLower :=
  lowercaseAfter_of_ascii [] h

/-- Of the characters beyond ASCII, only the Kelvin sign has a small letter of ASCII. -/
theorem ascii_of_lowerChar (h : ∀ d ∈ lowerChar c, d.isLower ∧ d ≠ 'k') : c.toNat < 128 := by
  by_contra hc
  have hall : lowerRuns.all fun r =>
      decide (128 ≤ (r.first : Int) + r.offset) ||
        (r.first == r.last && (r.first : Int) + r.offset == 107) := by decide +kernel
  rw [lowerChar, if_neg hc] at h
  split at h
  case isTrue => exact absurd (h '\u0307' (by simp)).1 (by decide)
  case isFalse =>
    split at h
    case h_1 r hr =>
      obtain ⟨hlow, hk⟩ := h _ List.mem_cons_self
      have hcovers := List.find?_some hr
      simp only [LowerRun.covers, Bool.and_eq_true, decide_eq_true_eq] at hcovers
      have hrow := List.all_eq_true.1 hall r (List.mem_of_find?_eq_some hr)
      simp only [Bool.or_eq_true, Bool.and_eq_true, decide_eq_true_eq, beq_iff_eq] at hrow
      rcases hrow with hfar | ⟨hsingle, hkelvin⟩
      · rw [isLower_iff, Char.toNat_ofNat] at hlow
        split at hlow
        · omega
        · omega
      · apply hk
        have hn : ((c.toNat : Int) + r.offset).toNat = 107 := by omega
        rw [hn]
    case h_2 =>
      have hlow := isLower_iff.1 (h c List.mem_cons_self).1
      omega

theorem ascii_of_lowercaseAfter (h : ∀ d ∈ lowercaseAfter before t, d.isLower ∧ d ≠ 'k') :
    ∀ c ∈ t, c.toNat < 128 := by
  induction t generalizing before with
  | nil => exact fun c hc => absurd hc List.not_mem_nil
  | cons c cs ih =>
    rw [lowercaseAfter] at h
    rw [List.forall_mem_append] at h
    refine List.forall_mem_cons.2 ⟨?_, ih h.2⟩
    split at h
    case isTrue =>
      split at h
      · exact absurd (h.1 'ς' (by simp)).1 (by decide)
      · exact absurd (h.1 'σ' (by simp)).1 (by decide)
    case isFalse => exact ascii_of_lowerChar h.1

end Lowercase

section Blanks

theorem not_isBlank_of_isAlphanum (h : c.isAlphanum) : isBlank c = false := by
  rw [isAlphanum_iff, isAlpha_iff, isUpper_iff, isLower_iff, isDigit_iff] at h
  simp only [isBlank, Bool.or_eq_false_iff, Bool.and_eq_false_iff, decide_eq_false_iff_not,
    beq_eq_false_iff_ne]
  omega

theorem isBlank_toLower (c : Char) : isBlank c.toLower = isBlank c := by
  by_cases hu : c.isUpper
  · obtain ⟨ha, hl⟩ := isAlphanum_of_isUpper hu
    rw [not_isBlank_of_isAlphanum ha, not_isBlank_of_isAlphanum hl]
  · rw [Char.toLower_eq_of_not_isUpper hu]

theorem trim_lowerAscii (t : Text) : trim (lowerAscii t) = lowerAscii (trim t) := by
  have hblank : isBlank ∘ Char.toLower = isBlank := funext isBlank_toLower
  rw [trim, lowerAscii, List.dropWhile_map, hblank, ← List.map_reverse, List.dropWhile_map, hblank,
    ← List.map_reverse]
  rfl

theorem trim_append_left (h : ∀ c ∈ left, isBlank c) (t : Text) : trim (left ++ t) = trim t := by
  rw [trim, List.dropWhile_append_of_pos h]
  rfl

theorem trim_append_right (h : ∀ c ∈ right, isBlank c) (t : Text) : trim (t ++ right) = trim t := by
  have hreverse : ∀ c ∈ right.reverse, isBlank c := fun c hc => h c (List.mem_reverse.1 hc)
  rw [trim, trim, List.dropWhile_append]
  split
  case isTrue he =>
    rw [List.isEmpty_iff.1 he, List.dropWhile_eq_nil_iff.2 h]
  case isFalse =>
    rw [List.reverse_append, List.dropWhile_append_of_pos hreverse]

theorem exists_padding (t : Text) : ∃ left right, (∀ c ∈ left, isBlank c) ∧
    (∀ c ∈ right, isBlank c) ∧ t = left ++ trim t ++ right := by
  let inner := (t.dropWhile isBlank).reverse
  refine ⟨t.takeWhile isBlank, (inner.takeWhile isBlank).reverse, ?_, ?_, ?_⟩
  · intro c hc
    exact List.mem_takeWhile_imp hc
  · intro c hc
    exact List.mem_takeWhile_imp (List.mem_reverse.1 hc)
  · have hinner : trim t ++ (inner.takeWhile isBlank).reverse = t.dropWhile isBlank := by
      rw [trim, ← List.reverse_append, List.takeWhile_append_dropWhile, List.reverse_reverse]
    rw [List.append_assoc, hinner, List.takeWhile_append_dropWhile]

end Blanks

section Folding

theorem foldChar_of_ascii (h : c.toNat < 128) : foldChar c = c.toLower := by
  have hs : (c == '\u017f') = false := by
    rw [beq_eq_false_iff_ne]
    rintro rfl
    exact absurd h (by decide)
  have hk : (c == '\u212a') = false := by
    rw [beq_eq_false_iff_ne]
    rintro rfl
    exact absurd h (by decide)
  rw [foldChar, hs, hk]
  rfl

/-- Only letters fold to something else, and they fold to small letters. -/
theorem eq_of_foldChar (h : foldChar c = d) (hd : d.isLower = false) : c = d := by
  unfold foldChar at h
  split at h
  · subst d
    cases hd
  · split at h
    · subst d
      cases hd
    · subst d
      rw [Char.isLower_toLower_eq_isAlpha] at hd
      have hu : ¬c.isUpper := by
        intro hu
        rw [isAlpha_iff.2 (.inl hu)] at hd
        cases hd
      rw [Char.toLower_eq_of_not_isUpper hu]

theorem isFoldedLetter_iff : isFoldedLetter c ↔ c.isAlpha ∨ c = '\u017f' ∨ c = '\u212a' := by
  unfold isFoldedLetter foldChar
  split
  case isTrue hs =>
    rw [eq_of_beq hs]
    decide
  case isFalse hs =>
    split
    case isTrue hk =>
      rw [eq_of_beq hk]
      decide
    case isFalse hk =>
      rw [Char.isLower_toLower_eq_isAlpha]
      rw [beq_iff_eq] at hs hk
      simp only [hs, hk, or_false]

theorem toNat_of_isFoldedLetter (h : isFoldedLetter c) : 65 ≤ c.toNat := by
  rcases isFoldedLetter_iff.1 h with ha | rfl | rfl
  · rw [isAlpha_iff, isUpper_iff, isLower_iff] at ha
    omega
  · decide
  · decide

theorem foldChar_toLower (c : Char) : foldChar c.toLower = foldChar c := by
  by_cases hu : c.isUpper
  · obtain ⟨ha, hl⟩ := isAlphanum_of_isUpper hu
    rw [foldChar_of_ascii (ascii_of_isAlphanum hl), foldChar_of_ascii (ascii_of_isAlphanum ha),
      Char.toLower_toLower_eq_toLower]
  · rw [Char.toLower_eq_of_not_isUpper hu]

theorem isFoldedAlphanum_iff :
    isFoldedAlphanum c ↔ c.isAlphanum ∨ c = 'ſ' ∨ c = 'K' := by
  rw [isFoldedAlphanum, Bool.or_eq_true, isFoldedLetter_iff, isAlphanum_iff]
  constructor
  · rintro ((ha | hs) | hd)
    · exact .inl (.inl ha)
    · exact .inr hs
    · exact .inl (.inr hd)
  · rintro ((ha | hd) | hs)
    · exact .inl (.inl ha)
    · exact .inr hd
    · exact .inl (.inr hs)

theorem not_isBlank_of_isFoldedAlphanum (h : isFoldedAlphanum c) : isBlank c = false := by
  rcases isFoldedAlphanum_iff.1 h with ha | rfl | rfl
  · exact not_isBlank_of_isAlphanum ha
  · rfl
  · rfl

theorem dropFolded?_eq_some (h : dropFolded? word t = some rest) :
    ∃ u, t = u ++ rest ∧ u.map foldChar = word := by
  fun_induction dropFolded? word t with
  | case1 =>
    cases h
    exact ⟨[], rfl, rfl⟩
  | case2 => cases h
  | case3 ws c cs ih =>
    obtain ⟨u, rfl, hu⟩ := ih h
    exact ⟨c :: u, rfl, congrArg (foldChar c :: ·) hu⟩
  | case4 => cases h

theorem dropFolded?_append (word more t : Text) :
    dropFolded? (word ++ more) t = (dropFolded? word t).bind (dropFolded? more) := by
  fun_induction dropFolded? word t with
  | case1 => rfl
  | case2 => rfl
  | case3 ws c cs ih => rw [List.cons_append, dropFolded?, if_pos rfl, ih]
  | case4 w ws c cs hc => rw [List.cons_append, dropFolded?, if_neg hc, Option.bind_none]

theorem dropFolded?_colon (h : dropFolded? (word ++ [':']) t = some rest) :
    ∃ u, t = u ++ ':' :: rest ∧ u.map foldChar = word := by
  rw [dropFolded?_append] at h
  obtain ⟨mid, hmid, hcolon⟩ := Option.bind_eq_some_iff.1 h
  obtain ⟨u, rfl, hu⟩ := dropFolded?_eq_some hmid
  obtain ⟨v, rfl, hv⟩ := dropFolded?_eq_some hcolon
  obtain ⟨d, rfl⟩ := List.length_eq_one_iff.1 (by rw [← List.length_map foldChar, hv]; rfl)
  obtain rfl : d = ':' := eq_of_foldChar (List.cons.inj hv).1 rfl
  exact ⟨u, rfl, hu⟩

theorem dropFolded?_map (u rest : Text) : dropFolded? (u.map foldChar) (u ++ rest) = some rest := by
  induction u with
  | nil => rfl
  | cons c u ih => rw [List.map_cons, List.cons_append, dropFolded?, if_pos rfl, ih]

theorem dropFolded?_eq_some_iff :
    dropFolded? word t = some rest ↔ ∃ u, t = u ++ rest ∧ u.map foldChar = word := by
  refine ⟨dropFolded?_eq_some, ?_⟩
  rintro ⟨u, rfl, rfl⟩
  exact dropFolded?_map u rest

theorem startsFolded_iff :
    startsFolded word t ↔ ∃ u rest, t = u ++ rest ∧ u.map foldChar = word := by
  simp only [startsFolded, Option.isSome_iff_exists, dropFolded?_eq_some_iff]
  exact exists_comm

theorem startsFolded_iff_prefix_map : startsFolded word t ↔ word <+: t.map foldChar := by
  rw [startsFolded_iff]
  constructor
  · rintro ⟨u, rest, rfl, rfl⟩
    rw [List.map_append]
    exact List.prefix_append _ _
  · rintro ⟨more, h⟩
    obtain ⟨u, rest, rfl, hu, -⟩ := List.map_eq_append_iff.1 h.symm
    exact ⟨u, rest, rfl, hu⟩

end Folding

section Bytes

theorem size_utf8Encode (t : Text) : t.utf8Encode.size = byteSize t := by
  induction t with
  | nil => rfl
  | cons c t ih =>
    rw [List.utf8Encode_cons, ByteArray.size_append, List.utf8Encode_singleton,
      List.size_toByteArray, String.length_utf8EncodeChar, ih, byteSize_cons]

theorem extract_utf8Encode (before part after : Text) :
    (before ++ part ++ after).utf8Encode.extract (byteSize before)
      (byteSize before + byteSize part) = part.utf8Encode := by
  have hb := size_utf8Encode before
  have hp := size_utf8Encode part
  have hstop : byteSize before + byteSize part = (before.utf8Encode ++ part.utf8Encode).size := by
    rw [ByteArray.size_append, hb, hp]
  rw [List.utf8Encode_append, List.utf8Encode_append, hstop, ByteArray.extract_append_size_left]
  apply ByteArray.extract_append_eq_right hb.symm
  rw [ByteArray.size_append]

theorem byteSize_pos {t : Text} (h : t ≠ []) : 0 < byteSize t := by
  cases t with
  | nil => exact absurd rfl h
  | cons c cs =>
    rw [byteSize_cons]
    exact Nat.add_pos_left c.utf8Size_pos _

end Bytes

theorem flatMap_eq_self {w : Char → Text} (h : ∀ c ∈ t, w c = [c]) : t.flatMap w = t :=
  (List.flatMap_congr h).trans (List.flatMap_singleton' t)

theorem replaceChar_of_not_mem {r : Text} (h : c ∉ t) : replaceChar c r t = t := by
  apply flatMap_eq_self
  intro d hd
  apply if_neg
  rintro rfl
  exact h hd

theorem not_mem_replaceChar {r : Text} (h : c ∉ r) (t : Text) : c ∉ replaceChar c r t := by
  intro hm
  obtain ⟨d, -, hd⟩ := List.mem_flatMap.1 hm
  split at hd
  case isTrue => exact h hd
  case isFalse hne => exact hne (List.mem_singleton.1 hd).symm

theorem append_cons_cases (h : t ++ u = before ++ c :: after) :
    (∃ right, t = before ++ c :: right ∧ after = right ++ u) ∨
      ∃ mid, before = t ++ mid ∧ u = mid ++ c :: after := by
  rcases List.append_eq_append_iff.1 h with ⟨mid, hb, hu⟩ | ⟨tail, ht, hu⟩
  · exact .inr ⟨mid, hb, hu⟩
  · rcases List.append_eq_cons_iff.1 hu.symm with ⟨rfl, hbehind⟩ | ⟨right, rfl, ha⟩
    · exact .inr ⟨[], by rw [ht, List.append_nil, List.append_nil], hbehind⟩
    · exact .inl ⟨right, ht, ha⟩

theorem append_eq_append_cons (h : t ++ u = before ++ c :: after) (hc : c ∉ t) :
    ∃ mid, before = t ++ mid ∧ u = mid ++ c :: after := by
  apply (append_cons_cases h).resolve_left
  rintro ⟨right, rfl, -⟩
  exact hc (List.mem_append_right before List.mem_cons_self)

theorem eq_of_append_cons_eq (h : t ++ c :: rest = u ++ c :: rest') (ht : c ∉ t) (hu : c ∉ u) :
    t = u := by
  obtain ⟨mid, rfl, hm⟩ := append_eq_append_cons h ht
  cases mid with
  | nil => rw [List.append_nil]
  | cons d ds =>
    rw [List.cons_append, List.cons.injEq] at hm
    rw [hm.1] at hu
    exact absurd (List.mem_append_right t List.mem_cons_self) hu

section Classes

variable {p : Char → Bool} {signs : List Char}

theorem not_mem_of_class (h : ∀ c ∈ t, p c) (hc : p c = false) : c ∉ t := by
  intro hm
  rw [h c hm] at hc
  cases hc

theorem disjoint_of_class (h : ∀ c ∈ t, p c) (hs : signs.all (!p ·)) : t.Disjoint signs := by
  intro c hc hm
  have hnot := List.all_eq_true.1 hs c hm
  rw [h c hc] at hnot
  cases hnot

end Classes

theorem head?_cases (p : Char → Bool) (cs : Text) :
    (∃ c ds, cs = c :: ds ∧ p c = true) ∨ ∀ c ∈ cs.head?, p c = false := by
  cases cs with
  | nil =>
    apply Or.inr
    intro c hc
    cases hc
  | cons c ds =>
    cases hp : p c with
    | true => exact .inl ⟨c, ds, rfl, hp⟩
    | false =>
      apply Or.inr
      intro d hd
      cases hd
      exact hp

section Stop

variable {p : Char → Bool} (ht : ∀ c ∈ t, p c) (hr : ∀ c ∈ rest.head?, p c = false)

include ht hr

theorem takeWhile_append_stop : (t ++ rest).takeWhile p = t := by
  rw [List.takeWhile_append_of_pos ht]
  cases rest with
  | nil => exact List.append_nil t
  | cons c cs =>
    rw [List.takeWhile_cons, hr c rfl]
    exact List.append_nil t

theorem dropWhile_append_stop : (t ++ rest).dropWhile p = rest := by
  rw [List.dropWhile_append_of_pos ht]
  cases rest with
  | nil => rfl
  | cons c cs =>
    rw [List.dropWhile_cons, hr c rfl]
    rfl

end Stop

section Marked

variable {sign : Char} {w : Char → Text} {p : Char → Bool}

/-- Each character is written as itself or by a text that starts with the sign. -/
def Marked (sign : Char) (w : Char → Text) : Prop :=
  ∀ c, w c = [c] ∨ ∃ more, w c = sign :: more

theorem not_of_marked {more : Text} (hp : ∀ c, p c = true → w c = [c]) (hs : p sign = false)
    (h : w c = sign :: more) : ¬p c = true := by
  intro hc
  rw [hp c hc] at h
  rw [(List.cons.inj h).1, hs] at hc
  cases hc

theorem Marked.takeWhile_flatMap (hw : Marked sign w) (hp : ∀ c, p c = true → w c = [c])
    (hs : p sign = false) (t : Text) : (t.flatMap w).takeWhile p = t.takeWhile p := by
  induction t with
  | nil => rfl
  | cons c cs ih =>
    rw [List.flatMap_cons]
    rcases hw c with hc | ⟨more, hc⟩
    · rw [hc, List.singleton_append, List.takeWhile_cons, List.takeWhile_cons, ih]
    · rw [List.takeWhile_cons_of_neg (not_of_marked hp hs hc), hc, List.cons_append]
      apply List.takeWhile_cons_of_neg
      rw [hs]
      exact Bool.false_ne_true

theorem Marked.dropWhile_flatMap (hw : Marked sign w) (hp : ∀ c, p c = true → w c = [c])
    (hs : p sign = false) (t : Text) : (t.flatMap w).dropWhile p = (t.dropWhile p).flatMap w := by
  induction t with
  | nil => rfl
  | cons c cs ih =>
    by_cases hpc : p c = true
    · rw [List.dropWhile_cons_of_pos hpc, List.flatMap_cons, hp c hpc, List.singleton_append,
        List.dropWhile_cons_of_pos hpc, ih]
    · rw [List.dropWhile_cons_of_neg hpc, List.flatMap_cons]
      rcases hw c with hc | ⟨more, hc⟩
      · rw [hc, List.singleton_append, List.dropWhile_cons_of_neg hpc]
      · rw [hc, List.cons_append]
        apply List.dropWhile_cons_of_neg
        rw [hs]
        exact Bool.false_ne_true

theorem Marked.all_flatMap (hw : Marked sign w) (hp : ∀ c, p c = true → w c = [c])
    (hs : p sign = false) (t : Text) : (t.flatMap w).all p = t.all p := by
  induction t with
  | nil => rfl
  | cons c cs ih =>
    rw [List.flatMap_cons, List.all_append, ih, List.all_cons]
    rcases hw c with hc | ⟨more, hc⟩
    · rw [hc, List.all_cons, List.all_nil, Bool.and_true]
    · rw [hc, List.all_cons, hs, Bool.eq_false_iff.2 (not_of_marked hp hs hc), Bool.false_and]

end Marked

end SafeOutput.Text
