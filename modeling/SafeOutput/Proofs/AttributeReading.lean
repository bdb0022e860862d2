import Mathlib
import SafeOutput.Proofs.AttributeValue
import SafeOutput.Proofs.Extraction

namespace SafeOutput.Markup

open Text Escape

variable {c : Char} {base m n : Nat} {t cs name meaning rest : Text} {p : Char → Bool}

section Extent

/-- At least `n` characters of the kind that references consist of stand before the rest. -/
def Takes (n : Nat) (cs rest : Text) : Prop :=
  ∃ used, cs = used ++ rest ∧ (∀ c ∈ used, isReferenceChar c) ∧ n ≤ used.length

theorem Takes.mono (h : Takes n cs rest) (hn : m ≤ n) : Takes m cs rest := by
  obtain ⟨used, hcs, hused, hlength⟩ := h
  exact ⟨used, hcs, hused, Nat.le_trans hn hlength⟩

theorem Takes.cons (h : Takes n cs rest) (hc : isReferenceChar c) : Takes n (c :: cs) rest := by
  obtain ⟨used, rfl, hused, hlength⟩ := h
  exact ⟨c :: used, rfl, List.forall_mem_cons.2 ⟨hc, hused⟩, Nat.le_succ_of_le hlength⟩

theorem Takes.semicolon (h : Takes n cs (';' :: rest)) : Takes (n + 1) cs rest := by
  obtain ⟨used, rfl, hused, hlength⟩ := h
  refine ⟨used ++ [';'], by rw [List.append_assoc, List.singleton_append], ?_, ?_⟩
  · intro c hc
    rcases List.mem_append.1 hc with hm | hm
    · exact hused c hm
    · rw [List.mem_singleton.1 hm]
      decide
  · rw [List.length_append]
    exact Nat.succ_le_succ hlength

theorem numericAt_takes (hp : ∀ c, p c = true → c.isAlphanum = true)
    (h : numericAt base p cs = some (meaning, rest)) : Takes meaning.length cs rest := by
  have hdigits : ∀ c ∈ cs.takeWhile p, isReferenceChar c := by
    intro c hc
    exact isReferenceChar_of_isAlphanum (hp c (List.mem_takeWhile_imp hc))
  unfold numericAt at h
  split at h
  case h_1 => cases h
  case h_2 d ds hd =>
    cases h
    have htakes : Takes 1 cs (cs.dropWhile p) := by
      refine ⟨_, List.takeWhile_append_dropWhile.symm, hdigits, ?_⟩
      rw [hd]
      exact Nat.succ_le_succ (Nat.zero_le _)
    unfold dropSemicolon
    split
    case h_1 rest hrest =>
      rw [hrest] at htakes
      exact htakes.semicolon.mono (Nat.le_succ 1)
    case h_2 => exact htakes

theorem namedReferences_length (c : Char) :
    (namedReferences c).all fun entry => entry.2.length ≤ 2 := by
  unfold namedReferences
  split <;> decide +kernel

theorem bareReferenceNames_length : bareReferenceNames.all fun s => 2 ≤ s.length := by
  decide +kernel

theorem length_of_namedReference? (h : namedReference? name = some meaning) :
    0 < name.length ∧ meaning.length ≤ 2 := by
  cases name with
  | nil => cases h
  | cons c cs =>
    obtain ⟨entry, hf, rfl⟩ := Option.map_eq_some_iff.1 h
    have hm := List.mem_of_find?_eq_some hf
    have hentry := List.all_eq_true.1 (namedReferences_length c) entry hm
    rw [List.length_map]
    exact ⟨Nat.succ_pos _, of_decide_eq_true hentry⟩

theorem takes_of_name (hn : name <+: referenceName cs) :
    Takes name.length cs (cs.drop name.length) := by
  obtain ⟨hcs, hchars⟩ := name_at_head hn
  exact ⟨name, (List.prefix_iff_eq_append.1 hcs).symm, hchars, Nat.le_refl _⟩

theorem namedAt_takes (h : namedAt cs = some (meaning, rest)) : Takes meaning.length cs rest := by
  unfold namedAt at h
  split at h
  case h_1 found hfound =>
    cases h
    unfold closedAt at hfound
    split at hfound
    case h_1 behind hbehind =>
      obtain ⟨m, hm, he⟩ := Option.map_eq_some_iff.1 hfound
      cases he
      obtain ⟨hname, hmeaning⟩ := length_of_namedReference? hm
      have htakes := takes_of_name (List.prefix_refl (referenceName cs))
      rw [hbehind] at htakes
      exact htakes.semicolon.mono (Nat.le_trans hmeaning (Nat.succ_le_succ hname))
    case h_2 => cases hfound
  case h_2 =>
    unfold bareAt at h
    split at h
    case h_1 bare hbare =>
      obtain ⟨m, hm, he⟩ := Option.map_eq_some_iff.1 h
      cases he
      obtain ⟨-, hmeaning⟩ := length_of_namedReference? hm
      have hlong := List.all_eq_true.1 bareReferenceNames_length bare
        (List.mem_of_find?_eq_some hbare)
      have hstart := List.find?_some
        (p := fun s : String => s.toList.isPrefixOf (referenceName cs)) hbare
      have htakes := takes_of_name (List.isPrefixOf_iff_prefix.1 hstart)
      rw [String.length_toList] at htakes
      exact htakes.mono (Nat.le_trans hmeaning (of_decide_eq_true hlong))
    case h_2 => cases h

/-- A reference takes characters of its own, at least as many as it stands for. -/
theorem referenceAt_takes (h : referenceAt cs = some (meaning, rest)) :
    Takes meaning.length cs rest := by
  have hhex : ∀ c, isHexDigit c = true → c.isAlphanum = true := fun _ => isAlphanum_of_isHexDigit
  unfold referenceAt at h
  split at h
  case h_1 => exact ((numericAt_takes hhex h).cons (by decide)).cons (by decide)
  case h_2 => exact ((numericAt_takes hhex h).cons (by decide)).cons (by decide)
  case h_3 =>
    apply Takes.cons _ (by decide)
    exact numericAt_takes (fun _ hc => isAlphanum_iff.2 (.inr hc)) h
  case h_4 => exact namedAt_takes h

end Extent

def NoReference (t : Text) : Prop :=
  ∀ before after, t = before ++ '&' :: after → referenceAt after = none

theorem noReference_cons :
    NoReference (c :: cs) ↔ (c = '&' → referenceAt cs = none) ∧ NoReference cs := by
  constructor
  · intro h
    constructor
    · rintro rfl
      exact h [] cs rfl
    · intro before after he
      apply h (c :: before) after
      rw [he, List.cons_append]
  · rintro ⟨hhead, htail⟩ before after he
    cases before with
    | nil =>
      obtain ⟨rfl, rfl⟩ := List.cons.inj he
      exact hhead rfl
    | cons d before => exact htail before after (List.cons.inj he).2

theorem decodeReferences_of_noReference (h : NoReference t) : decodeReferences t = t := by
  induction t with
  | nil => exact decodeReferences_nil
  | cons c cs ih =>
    obtain ⟨hhead, htail⟩ := noReference_cons.1 h
    by_cases hc : c = '&'
    · subst c
      rw [decodeReferences_of_none (hhead rfl), ih htail]
    · rw [decodeReferences_cons_of_ne hc, ih htail]

theorem length_decodeReferences (t : Text) :
    (decodeReferences t).length ≤ t.length ∧
      ((decodeReferences t).length = t.length → NoReference t) := by
  fun_induction decodeReferences t with
  | case1 =>
    refine ⟨Nat.le_refl _, fun _ before after he => ?_⟩
    exact absurd he.symm (List.append_ne_nil_of_right_ne_nil before (List.cons_ne_nil _ _))
  | case2 cs meaning rest hr _ ih =>
    -- The `&` itself makes the text shorter, whatever the reference stands for.
    obtain ⟨used, rfl, -, hlength⟩ := referenceAt_takes hr
    have hrest := ih.1
    simp only [List.length_append, List.length_cons]
    omega
  | case3 cs hr ih =>
    refine ⟨Nat.succ_le_succ ih.1, fun he => ?_⟩
    exact noReference_cons.2 ⟨fun _ => hr, ih.2 (Nat.succ.inj he)⟩
  | case4 c cs hc ih =>
    refine ⟨Nat.succ_le_succ ih.1, fun he => ?_⟩
    exact noReference_cons.2 ⟨fun hamp => absurd hamp hc, ih.2 (Nat.succ.inj he)⟩

/-- What no reference stands for or consists of is there after decoding exactly if it was there
before. -/
theorem mem_decodeReferences_iff (hu : c ∈ unreferenced) : c ∈ decodeReferences t ↔ c ∈ t := by
  have hall : unreferenced.all fun c => !isReferenceChar c && c != '&' := by decide
  have hc := List.all_eq_true.1 hall c hu
  rw [Bool.and_eq_true, Bool.not_eq_true', bne_iff_ne] at hc
  fun_induction decodeReferences t with
  | case1 => exact Iff.rfl
  | case2 cs meaning rest hr _ ih =>
    obtain ⟨used, rfl, hused, -⟩ := referenceAt_takes hr
    have hmeaning : c ∉ meaning := fun hm => referenceAt_disjoint hr hm hu
    have hnot : c ∉ used := by
      intro hm
      rw [hused c hm] at hc
      cases hc.1
    rw [List.mem_append, List.mem_cons, List.mem_append, or_iff_right hmeaning, or_iff_right hc.2,
      or_iff_right hnot]
    exact ih
  | case3 cs hr ih =>
    rw [List.mem_cons, List.mem_cons]
    exact or_congr_right ih
  | case4 d cs hd ih =>
    rw [List.mem_cons, List.mem_cons]
    exact or_congr_right ih

end SafeOutput.Markup

namespace SafeOutput.Escape

open Text Markup

variable {c : Char} {t : Text} {w : Char → Text}

section Unquoted

/-- The character that is read where this one is written in an unquoted value. To a reader, the
number of the next-line character is that of an ellipsis. -/
def readUnquoted (c : Char) : Char :=
  if c = '\u0085' then '\u2026' else replaceNull c

theorem readUnquoted_of_ne (h : c ≠ '\u0085') : readUnquoted c = replaceNull c :=
  if_neg h

theorem decodeReferences_numericReference (c : Char) (rest : Text) :
    decodeReferences (numericReference c ++ rest) =
      referencedChar c.toNat :: decodeReferences rest := by
  have hform : numericReference c ++ rest = '&' :: '#' :: (decimal c.toNat ++ ';' :: rest) := by
    rw [numericReference, List.append_assoc, List.append_assoc, List.singleton_append]
    rfl
  rw [hform, decodeReferences_of_some (referenceAt_decimal c.toNat rest), List.singleton_append]

theorem decodeReferences_unquoted
    (hw : ∀ rest, decodeReferences (w c ++ rest) = replaceNull c :: decodeReferences rest)
    (rest : Text) :
    decodeReferences ((if endsUnquoted c then numericReference c else w c) ++ rest) =
      readUnquoted c :: decodeReferences rest := by
  split
  case isTrue hc =>
    have hread := (List.all_eq_true (p := fun c => referencedChar c.toNat == readUnquoted c)).1
      (by decide) c (List.contains_iff_mem.1 hc)
    rw [decodeReferences_numericReference, eq_of_beq hread]
  case isFalse hc =>
    have hne : c ≠ '\u0085' := by
      rintro rfl
      exact hc (by decide)
    rw [hw, readUnquoted_of_ne hne]

theorem decodeReferences_escapeUnquoted (t : Text) :
    decodeReferences (escapeUnquoted t) = t.map readUnquoted := by
  apply decodeReferences_flatMap
  intro c rest
  obtain ⟨hshows, hne⟩ := shows_escapeHtmlChar c
  exact decodeReferences_unquoted (decodeReferences_shown hshows hne) rest

theorem leavesReferences_tidyUnquotedChar : LeavesReferences tidyUnquotedChar := by
  have hkeeps := keepsReferences_tidyHtmlChar
  have hplain {c : Char} (hc : endsUnquoted c = false) : tidyUnquotedChar c = tidyHtmlChar c := by
    rw [tidyUnquotedChar, hc]
    rfl
  constructor
  · intro c
    cases hc : endsUnquoted c with
    | true =>
      rw [tidyUnquotedChar, hc]
      exact .inr ⟨_, rfl⟩
    | false =>
      rw [hplain hc]
      exact hkeeps.leaves.marked c
  · intro c hc
    have hends : endsUnquoted c = false := by
      rw [Bool.eq_false_iff]
      intro he
      have hnot := (List.all_eq_true (p := (!Char.isAlphanum ·))).1 (by decide) c
        (List.contains_iff_mem.1 he)
      rw [hc] at hnot
      cases hnot
    rw [hplain hends, hkeeps.word c hc]
  · intro c hc
    have hall : ['&', '#', ';'].all (!endsUnquoted ·) := by decide
    have hends := List.all_eq_true.1 hall c hc
    rw [hplain ((Bool.not_eq_true' _).mp hends), hkeeps.signs c hc]

theorem decodeReferences_tidyUnquoted (t : Text) :
    decodeReferences (tidyUnquoted t) = (decodeReferences t).map readUnquoted := by
  apply leavesReferences_tidyUnquotedChar.decodeReferences_flatMap
  · intro c hc rest
    exact decodeReferences_unquoted (keepsReferences_tidyHtmlChar.decodeReferences_append hc) rest
  · rfl
  · intro cs meaning rest hr
    have hdisjoint := referenceAt_disjoint hr
    apply (List.map_congr_left _).trans (List.map_id meaning)
    intro c hc
    have hnext : c ≠ '\u0085' := by
      rintro rfl
      exact hdisjoint hc (by decide)
    have hnull : c ≠ '\x00' := by
      rintro rfl
      exact hdisjoint hc (by decide)
    rw [readUnquoted_of_ne hnext, replaceNull, if_neg hnull, id]

theorem map_readUnquoted_iff {f : Char → Char} (hf : f '\u2026' ≠ f '\u0085') :
    (t.map readUnquoted).map f = (t.map replaceNull).map f ↔ '\u0085' ∉ t := by
  rw [List.map_map, List.map_map, List.map_inj_left]
  constructor
  · intro h hm
    exact hf (h '\u0085' hm)
  · intro hn c hc
    have hne : c ≠ '\u0085' := by
      rintro rfl
      exact hn hc
    rw [Function.comp, Function.comp, readUnquoted_of_ne hne]

theorem lt_not_mem_escapeUnquoted (t : Text) : '<' ∉ escapeUnquoted t := by
  intro hm
  exact confines_escapeHtmlChar.unquoted t hm (by decide)

/-- Values without quotes are read back but for the next-line character, which is read as an
ellipsis. So they are read as they were meant exactly if that character is not in them. -/
theorem unquoted_read_exact (t : Text) :
    let document : Value := .content ⟨"<pre>".toList ++ escapeUnquoted t, .html, none⟩
    decodeReferences (escapeUnquoted t) = t.map readUnquoted ∧
      decodeReferences (tidyUnquoted t) = (decodeReferences t).map readUnquoted ∧
      document.plainText = (t.map readUnquoted).map plainSpace ∧
      (decodeReferences (escapeUnquoted t) = t.map replaceNull ↔ '\u0085' ∉ t) ∧
      (decodeReferences (tidyUnquoted t) = (decodeReferences t).map replaceNull ↔ '\u0085' ∉ t) ∧
      (document.plainText = (t.map replaceNull).map plainSpace ↔ '\u0085' ∉ t) := by
  intro document
  have hself {u : Text} : u.map readUnquoted = u.map replaceNull ↔ '\u0085' ∉ u := by
    have hid := map_readUnquoted_iff (t := u) (f := id) (by decide)
    rwa [List.map_id, List.map_id] at hid
  have hescape := decodeReferences_escapeUnquoted t
  have htidy := decodeReferences_tidyUnquoted t
  have hplain : document.plainText = (t.map readUnquoted).map plainSpace := by
    rw [← hescape]
    exact plainText_pre (lt_not_mem_escapeUnquoted t)
  refine ⟨hescape, htidy, hplain, ?_, ?_, ?_⟩
  · rw [hescape]
    exact hself
  · rw [htidy, hself, mem_decodeReferences_iff (by decide)]
  · rw [hplain]
    exact map_readUnquoted_iff (by decide)

/-- The next-line character comes back as an ellipsis. -/
theorem unquoted_next_line :
    let t := "a\u0085b".toList
    escapeUnquoted t = "a&#133;b".toList ∧
      decodeReferences (escapeUnquoted t) = "a\u2026b".toList ∧
      decodeReferences (escapeUnquoted t) ≠ t.map replaceNull ∧
      decodeReferences (tidyUnquoted t) ≠ (decodeReferences t).map replaceNull := by
  decide +kernel

end Unquoted

section Documents

/-- In a quoted attribute, what is written ends nothing and is read as the document. -/
def Carries (written document : Text) : Prop :=
  written.Disjoint ['<', '>', '"', '\''] ∧ decodeReferences written = document.map replaceNull

theorem map_replaceNull_eq_self_iff : t.map replaceNull = t ↔ '\x00' ∉ t := by
  constructor
  · intro h hm
    rw [← h] at hm
    obtain ⟨c, -, hc⟩ := List.mem_map.1 hm
    rw [replaceNull] at hc
    split at hc
    case isTrue => cases hc
    case isFalse hne => exact hne hc
  · exact map_replaceNull_of_not_mem

theorem disjoint_quotedDelimiters_iff :
    t.Disjoint quotedDelimiters ↔ t.Disjoint ['<', '>', '"', '\''] ∧ '\x00' ∉ t := by
  have hsplit : quotedDelimiters = ['<', '>', '"', '\''] ++ ['\x00'] := rfl
  rw [hsplit, List.disjoint_append_right, List.disjoint_singleton]

theorem carries_self_iff : Carries t t ↔ t.Disjoint quotedDelimiters ∧ NoReference t := by
  rw [Carries, disjoint_quotedDelimiters_iff, and_assoc]
  apply and_congr_right'
  constructor
  · intro hread
    have hlength := congrArg List.length hread
    rw [List.length_map] at hlength
    have hnone := (length_decodeReferences t).2 hlength
    rw [decodeReferences_of_noReference hnone] at hread
    exact ⟨map_replaceNull_eq_self_iff.1 hread.symm, hnone⟩
  · rintro ⟨hnull, hnone⟩
    rw [decodeReferences_of_noReference hnone, map_replaceNull_of_not_mem hnull]

theorem escapeHtmlChar_of_not_mem (h : c ∉ '&' :: quotedDelimiters) : escapeHtmlChar c = [c] := by
  rw [List.mem_cons, not_or] at h
  rw [escapeHtmlChar, if_neg h.1]
  apply tidyHtmlChar_of_plain
  rw [Bool.eq_false_iff]
  intro hd
  apply h.2
  rcases isDelimiter_iff.1 hd with rfl | rfl | rfl | rfl | rfl <;> decide

theorem length_escapeHtmlChar (h : c ∈ '&' :: quotedDelimiters) :
    1 < (escapeHtmlChar c).length := by
  have hall : ('&' :: quotedDelimiters).all fun c => 1 < (escapeHtmlChar c).length := by decide
  exact of_decide_eq_true (List.all_eq_true.1 hall c h)

theorem length_escapeHtml (t : Text) :
    t.length ≤ (Escape.escapeHtml t).length ∧
      ((Escape.escapeHtml t).length = t.length → t.Disjoint ('&' :: quotedDelimiters)) := by
  induction t with
  | nil => exact ⟨Nat.le_refl _, fun _ => List.disjoint_nil_left _⟩
  | cons c cs ih =>
    have hlength : (Escape.escapeHtml (c :: cs)).length =
        (escapeHtmlChar c).length + (Escape.escapeHtml cs).length := by
      rw [Escape.escapeHtml, List.flatMap_cons, List.length_append]
      rfl
    rw [hlength, List.length_cons]
    by_cases hc : c ∈ '&' :: quotedDelimiters
    · have hlong := length_escapeHtmlChar hc
      constructor
      · omega
      · intro he
        omega
    · have hone : (escapeHtmlChar c).length = 1 := by rw [escapeHtmlChar_of_not_mem hc]; rfl
      constructor
      · omega
      · intro he
        exact List.disjoint_cons_left.2 ⟨hc, ih.2 (by omega)⟩

theorem escapeHtml_of_disjoint (h : t.Disjoint ('&' :: quotedDelimiters)) :
    Escape.escapeHtml t = t :=
  flatMap_eq_self fun _ hc => escapeHtmlChar_of_not_mem (h hc)

theorem carries_escapeHtml_iff :
    Carries (Escape.escapeHtml t) (Escape.escapeHtml t) ↔
      t.Disjoint ('&' :: quotedDelimiters) := by
  constructor
  · rintro ⟨-, hread⟩
    rw [decodeReferences_escapeHtml] at hread
    have hlength := congrArg List.length hread
    rw [List.length_map, List.length_map] at hlength
    exact (length_escapeHtml t).2 hlength.symm
  · intro h
    obtain ⟨hamp, hquoted⟩ := List.disjoint_cons_right.1 h
    rw [escapeHtml_of_disjoint h, carries_self_iff]
    refine ⟨hquoted, ?_⟩
    intro before after he
    rw [he] at hamp
    exact absurd (List.mem_append_right before List.mem_cons_self) hamp

end Documents

end SafeOutput.Escape

namespace SafeOutput.Sanitizer

open Text Markup Escape

theorem escapeHtml_value (tags : TagSet) (v : Value) :
    ((Sanitizer.mk .standard tags).escapeHtml v).value =
      .ok ⟨(v.contentIf? .html).elim (Escape.escapeHtml v.display) id, .html, v.dir⟩ := by
  rw [escapeHtml]
  cases v.contentIf? .html with
  | none => exact Content.wrap_value (by decide) _ .html v.dir
  | some html => exact Content.wrap_value (by decide) html .html v.dir

theorem escapeHtmlHtmlAttribute_value {s : Sanitizer} {v : Value} {c : Content}
    (h : (s.escapeHtml v).value = .ok c) : (s.escapeHtmlHtmlAttribute v).value = .ok c.text := by
  rw [escapeHtmlHtmlAttribute, Journal.value_map, h]
  rfl

/-- For an attribute that holds a document, a value is written as it would stand in a document, and
not once more for the attribute. So the attribute carries that document exactly if nothing is
escaped in it: a text is read as itself, and HTML stays as it is. -/
theorem escapeHtmlHtmlAttribute_exact (tags : TagSet) (v : Value) :
    let s : Sanitizer := ⟨.standard, tags⟩
    ∃ o c, (s.escapeHtmlHtmlAttribute v).value = .ok o ∧ (s.escapeHtml v).value = .ok c ∧
      (v.contentIf? .html).elim
        (o.Disjoint quotedDelimiters ∧ decodeReferences o = v.display.map replaceNull ∧
          (Carries o c.text ↔ v.display.Disjoint ('&' :: quotedDelimiters)))
        (fun html => o = html ∧
          (Carries o c.text ↔ html.Disjoint quotedDelimiters ∧ NoReference html)) := by
  intro s
  have hvalue := escapeHtml_value tags v
  refine ⟨_, _, escapeHtmlHtmlAttribute_value hvalue, hvalue, ?_⟩
  cases v.contentIf? .html with
  | none =>
    exact ⟨confines_escapeHtmlChar.quoted v.display, decodeReferences_escapeHtml v.display,
      carries_escapeHtml_iff⟩
  | some html => exact ⟨rfl, carries_self_iff⟩

/-- Trusted HTML can end the attribute, and a text becomes markup of the document in it. -/
theorem escapeHtmlHtmlAttribute_once :
    let html := "<b title=\"x\">y</b>".toList
    let escaped := "&lt;x&gt;".toList
    let trusted : Value := .content ⟨html, .html, none⟩
    let untrusted : Value := .str "<x>".toList
    (standard.escapeHtmlHtmlAttribute trusted).value = .ok html ∧
      (standard.escapeHtml trusted).value = .ok ⟨html, .html, none⟩ ∧ ¬Carries html html ∧
      (standard.escapeHtmlHtmlAttribute untrusted).value = .ok escaped ∧
      (standard.escapeHtml untrusted).value = .ok ⟨escaped, .html, none⟩ ∧
      decodeReferences escaped = "<x>".toList ∧ ¬Carries escaped escaped := by
  intro html escaped trusted untrusted
  have hread : decodeReferences escaped = "<x>".toList := by decide +kernel
  refine ⟨rfl, rfl, ?_, rfl, rfl, hread, ?_⟩
  · intro h
    exact h.1 (by decide : '"' ∈ html) (by decide)
  · intro h
    rw [Carries, hread] at h
    exact absurd h.2 (by decide)

end SafeOutput.Sanitizer
