import Mathlib
import SafeOutput.Encoder
import SafeOutput.Proofs.Text

namespace SafeOutput.Uri

open Text Escape Accept

variable {c : Char} {s t u word rest : Text}

/-- Control characters and the space, which may stand before a URI. -/
def isPadding (c : Char) : Bool :=
  c.toNat ≤ 0x20

/-- Tabs and ends of lines, which count for nothing anywhere in a URI. -/
def isLineSign (c : Char) : Bool :=
  c == '\t' || c == '\n' || c == '\r'

def isSchemeChar (c : Char) : Bool :=
  c.isAlphanum || c == '+' || c == '.' || c == '-'

def cleared (t : Text) : Text :=
  (t.dropWhile isPadding).filter (!isLineSign ·)

/-- The scheme of a URI as browsers read it. -/
def scheme? (t : Text) : Option Text :=
  let name := (cleared t).takeWhile isSchemeChar
  if name.head?.any Char.isAlpha ∧ ((cleared t).dropWhile isSchemeChar).head? = some ':' then
    some name
  else none

def IsScript (t : Text) : Prop :=
  (scheme? t).map lowerAscii = some "javascript".toList

instance (t : Text) : Decidable (IsScript t) :=
  inferInstanceAs (Decidable ((scheme? t).map lowerAscii = some "javascript".toList))

theorem scheme?_eq_some (h : scheme? t = some s) :
    (∃ rest, cleared t = s ++ ':' :: rest) ∧ ∀ c ∈ s, isSchemeChar c := by
  rw [scheme?, Option.ite_none_right_eq_some, Option.some.injEq] at h
  obtain ⟨⟨-, hc⟩, rfl⟩ := h
  obtain ⟨rest, hr⟩ := List.head?_eq_some_iff.1 hc
  refine ⟨⟨rest, ?_⟩, fun c hm => List.mem_takeWhile_imp hm⟩
  rw [← hr, List.takeWhile_append_dropWhile]

theorem ascii_of_isSchemeChar (h : isSchemeChar c) : c.toNat < 128 := by
  simp only [isSchemeChar, Bool.or_eq_true, beq_iff_eq] at h
  rcases h with ((h | rfl) | rfl) | rfl
  · exact ascii_of_isAlphanum h
  · decide
  · decide
  · decide

theorem isLineSign_of_not_isPadding (h : isPadding c = false) : isLineSign c = false := by
  rw [Bool.eq_false_iff]
  intro hs
  simp only [isLineSign, Bool.or_eq_true, beq_iff_eq] at hs
  rcases hs with (rfl | rfl) | rfl <;> exact absurd h (by decide)

theorem cleared_of_head (h : ∀ c ∈ t.head?, isPadding c = false) :
    cleared t = t.filter (!isLineSign ·) := by
  cases t with
  | nil => rfl
  | cons c cs =>
    have hc := h c rfl
    rw [cleared, List.dropWhile_cons_of_neg (by rw [hc]; exact Bool.false_ne_true)]

theorem filter_of_not_isPadding (h : ∀ c ∈ t, isPadding c = false) :
    t.filter (!isLineSign ·) = t := by
  rw [List.filter_eq_self]
  intro c hc
  rw [isLineSign_of_not_isPadding (h c hc), Bool.not_false]

theorem cleared_of_not_isPadding (h : ∀ c ∈ t, isPadding c = false) : cleared t = t := by
  rw [cleared_of_head fun c hc => h c (List.mem_of_mem_head? hc), filter_of_not_isPadding h]

theorem cleared_append (h : ∀ c ∈ u, isPadding c = false) (hu : u ≠ []) (rest : Text) :
    cleared (u ++ rest) = u ++ rest.filter (!isLineSign ·) := by
  rw [cleared_of_head, List.filter_append, filter_of_not_isPadding h]
  intro c hc
  rw [List.head?_append_of_ne_nil _ hu] at hc
  exact h c (List.mem_of_mem_head? hc)

/-- A text whose first colon comes with nothing to clear away before it has what stands there for a
scheme, if it has one. -/
theorem scheme?_colon (hp : ∀ c ∈ u, isPadding c = false) (hc : ':' ∉ u)
    (h : scheme? (u ++ ':' :: rest) = some s) : s = u := by
  have hpad : ∀ c ∈ u ++ [':'], isPadding c = false := by
    rw [List.forall_mem_append, List.forall_mem_singleton]
    exact ⟨hp, rfl⟩
  obtain ⟨⟨tail, hs⟩, hchars⟩ := scheme?_eq_some h
  -- Nothing is cleared away before the colon, so that the two readings end at the same one.
  rw [List.append_cons, cleared_append hpad (List.append_ne_nil_of_right_ne_nil u (by decide)),
    List.append_assoc, List.singleton_append] at hs
  have hcolon : ':' ∉ s := fun hm => absurd (hchars ':' hm) (by decide)
  exact (eq_of_append_cons_eq hs hc hcolon).symm

theorem lowerAscii_eq_map_foldChar (h : ∀ c ∈ s, isSchemeChar c) :
    lowerAscii s = s.map foldChar := by
  apply List.map_congr_left
  intro c hc
  exact (foldChar_of_ascii (ascii_of_isSchemeChar (h c hc))).symm

theorem scheme?_of_dropFolded? (hw : word.all Char.isLower)
    (h : dropFolded? (word ++ [':']) t = some rest) (hs : scheme? t = some s) :
    lowerAscii s = word := by
  obtain ⟨u, rfl, rfl⟩ := dropFolded?_colon h
  have hletter (c : Char) (hc : c ∈ u) : isFoldedLetter c :=
    List.all_eq_true.1 hw _ (List.mem_map_of_mem hc)
  have hpad : ∀ c ∈ u, isPadding c = false := by
    intro c hc
    have := toNat_of_isFoldedLetter (hletter c hc)
    rw [isPadding, decide_eq_false_iff_not]
    omega
  have hcolon : ':' ∉ u := fun hm => absurd (hletter ':' hm) (by decide)
  have hchars := (scheme?_eq_some hs).2
  obtain rfl := scheme?_colon hpad hcolon hs
  exact lowerAscii_eq_map_foldChar hchars

theorem not_isScript_of_dropFolded? (word : Text) (hw : word.all Char.isLower)
    (h : (dropFolded? (word ++ [':']) t).isSome) (hne : word ≠ "javascript".toList) :
    ¬IsScript t := by
  intro hs
  obtain ⟨rest, hrest⟩ := Option.isSome_iff_exists.1 h
  obtain ⟨s, hscheme, hl⟩ := Option.map_eq_some_iff.1 hs
  rw [scheme?_of_dropFolded? hw hrest hscheme] at hl
  exact hne hl

theorem hexByte_isAlphanum : ∀ n < 256, (hexByte (UInt8.ofNat n)).all Char.isAlphanum := by
  decide +kernel

theorem isAlphanum_of_mem_hexByte {b : UInt8} (h : c ∈ hexByte b) : c.isAlphanum := by
  have hb := hexByte_isAlphanum b.toNat b.toNat_lt
  rw [UInt8.ofNat_toNat] at hb
  exact List.all_eq_true.1 hb c h

theorem percentEncode_eq_cons (c : Char) : ∃ rest, percentEncode c = '%' :: rest := by
  rw [percentEncode]
  cases hb : String.utf8EncodeChar c with
  | nil => exact absurd hb String.utf8EncodeChar_ne_nil
  | cons b bs => exact ⟨_, rfl⟩

theorem not_isPadding_of_mem_percentEncode {d : Char} (h : d ∈ percentEncode c) :
    isPadding d = false := by
  rw [isPadding, decide_eq_false_iff_not]
  obtain ⟨b, -, hb⟩ := List.mem_flatMap.1 h
  rcases List.mem_cons.1 hb with rfl | hd
  · decide
  · have ha := isAlphanum_of_mem_hexByte hd
    rw [isAlphanum_iff, isAlpha_iff, isUpper_iff, isLower_iff, isDigit_iff] at ha
    omega

theorem not_isPadding_of_mem_tidyUri (h : c ∈ tidyUri t) : isPadding c = false := by
  obtain ⟨d, -, hd⟩ := List.mem_flatMap.1 h
  split at hd
  case isTrue => exact not_isPadding_of_mem_percentEncode hd
  case isFalse hb =>
    rw [List.mem_singleton] at hd
    rw [← hd, breaksUri, Bool.not_eq_true, Bool.or_eq_false_iff, Bool.or_eq_false_iff] at hb
    exact hb.1.1

theorem tidyUri_eq_append (h : tidyUri t = u ++ rest) (hu : '%' ∉ u) : ∃ tail, t = u ++ tail := by
  induction u generalizing t with
  | nil => exact ⟨t, rfl⟩
  | cons c u ih =>
    rw [List.mem_cons, not_or] at hu
    cases t with
    | nil => cases h
    | cons d ds =>
      rw [tidyUri, List.flatMap_cons] at h
      split at h
      case isTrue =>
        obtain ⟨more, hp⟩ := percentEncode_eq_cons d
        rw [hp] at h
        exact absurd (List.cons.inj h).1 hu.1
      case isFalse =>
        obtain ⟨rfl, ht⟩ := List.cons.inj h
        obtain ⟨tail, rfl⟩ := ih ht hu.2
        exact ⟨tail, rfl⟩

theorem hasScheme_of_append (hs : ∀ c ∈ s, isSchemeChar c) (hl : lowerAscii s = word)
    (rest : Text) : startsFolded (word ++ [':']) (s ++ ':' :: rest) := by
  have hfold : s.map foldChar = word := (lowerAscii_eq_map_foldChar hs).symm.trans hl
  rw [startsFolded, dropFolded?_append, ← hfold, dropFolded?_map]
  rfl

/-- No URI that is accepted under the loosest rule runs as a script once it is tidied. -/
theorem not_isScript_tidyUri (h : isLegacyUri t) : ¬IsScript (tidyUri t) := by
  intro hs
  obtain ⟨s, hscheme, hl⟩ := Option.map_eq_some_iff.1 hs
  obtain ⟨⟨rest, hc⟩, hchars⟩ := scheme?_eq_some hscheme
  rw [cleared_of_not_isPadding fun c hm => not_isPadding_of_mem_tidyUri hm,
    List.append_cons] at hc
  -- A scheme has no percent sign, so it stood in the text before it was tidied.
  have hpercent : '%' ∉ s ++ [':'] := by
    rw [List.mem_append, not_or]
    exact ⟨fun hm => absurd (hchars '%' hm) (by decide), by decide⟩
  obtain ⟨tail, rfl⟩ := tidyUri_eq_append hc hpercent
  have hstarts := hasScheme_of_append hchars hl tail
  rw [List.append_assoc, List.singleton_append, isLegacyUri, hasScheme, List.any_cons, hstarts] at h
  simp at h

theorem not_isScript_image (h : isImageData t) : ¬IsScript t := by
  obtain ⟨format, -, hf⟩ := List.any_eq_true.1 h
  obtain ⟨rest, hrest, -⟩ := (Option.any_eq_true _ _).1 hf
  have hword : ("data:image/" ++ format).toList =
      ("data".toList ++ [':']) ++ ("image/".toList ++ format.toList) := by
    rw [String.toList_append]
    rfl
  rw [hword, dropFolded?_append] at hrest
  obtain ⟨mid, hmid, -⟩ := Option.bind_eq_some_iff.1 hrest
  exact not_isScript_of_dropFolded? "data".toList (by decide) (by rw [hmid]; rfl) (by decide)

theorem not_isScript_dial {scheme : String} (hw : scheme.toList.all Char.isLower)
    (hne : scheme.toList ≠ "javascript".toList) (h : isDialUri scheme t) : ¬IsScript t := by
  obtain ⟨rest, hrest, -⟩ := (Option.any_eq_true _ _).1 h
  exact not_isScript_of_dropFolded? scheme.toList hw (by rw [hrest]; rfl) hne

def trustedContexts : List FilterContext :=
  [.imageDataUri, .telUri, .smsUri, .sipUri, .legacyUri]

theorem not_isScript_sentinel (context : FilterContext) : ¬IsScript context.sentinel := by
  cases context <;> decide

theorem not_isScript_filter {context : FilterContext} (h : context ∈ trustedContexts) (t : Text) :
    ¬IsScript (context.filter t) := by
  rw [FilterContext.filter]
  split
  case isFalse => exact not_isScript_sentinel context
  case isTrue ha =>
    simp only [trustedContexts, List.mem_cons, List.not_mem_nil, or_false] at h
    rcases h with rfl | rfl | rfl | rfl | rfl
    · exact not_isScript_image ha
    · exact not_isScript_dial (by decide) (by decide) ha
    · exact not_isScript_dial (by decide) (by decide) ha
    · exact not_isScript_dial (by decide) (by decide) ha
    · exact not_isScript_tidyUri ha

end SafeOutput.Uri
