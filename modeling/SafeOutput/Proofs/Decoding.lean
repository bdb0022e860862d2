import Mathlib
import SafeOutput.Escape.Html
import SafeOutput.Markup.Reference
import SafeOutput.Proofs.OnePass

namespace SafeOutput.Markup

open Text Escape

variable {c : Char} {n base : Nat} {cs t body name meaning rest written : Text} {w : Char → Text}
  {read : Char → Char} {p : Char → Bool}

/-- The character that is read where this one was meant; the null character has no reference. -/
def replaceNull (c : Char) : Char :=
  if c = '\x00' then '\ufffd' else c

theorem map_replaceNull_of_not_mem (h : '\x00' ∉ t) : t.map replaceNull = t := by
  have hid : t.map replaceNull = t.map id := by
    apply List.map_congr_left
    intro c hc
    apply if_neg
    rintro rfl
    exact h hc
  rw [hid, List.map_id]

section Meanings

/-- The characters that no reference stands for, not even by their numbers. -/
def unreferenced : List Char := ['\x00', '\u0085']

theorem controlMeanings_referenced :
    controlMeanings.all fun entry => !unreferenced.contains (Char.ofNat entry.2) := by
  decide

theorem referencedChar_not_mem (n : Nat) : referencedChar n ∉ unreferenced := by
  unfold referencedChar
  split
  case isTrue => decide
  case isFalse hn =>
    split
    case h_1 m hm =>
      obtain ⟨before, after, he, -⟩ := List.lookup_eq_some_iff.1 hm
      have hmem : (n, m) ∈ controlMeanings := by
        rw [he]
        exact List.mem_append_right _ List.mem_cons_self
      have hentry := List.all_eq_true.1 controlMeanings_referenced _ hmem
      rw [Bool.not_eq_true', Bool.eq_false_iff] at hentry
      exact fun hc => hentry (List.contains_iff_mem.2 hc)
    case h_2 hnone =>
      split
      case isTrue hv =>
        intro hc
        have hnumber {c : Char} (he : Char.ofNat n = c) : n = c.toNat := by
          rw [← he, Char.toNat_ofNat, if_pos hv]
        rcases List.mem_cons.1 hc with he | hc
        · exact hn (hnumber he)
        · rw [hnumber (List.mem_singleton.1 hc)] at hnone
          cases hnone
      case isFalse => decide

theorem namedReferences_referenced (c : Char) : (namedReferences c).all fun entry =>
    entry.2.all fun n => !unreferenced.contains (Char.ofNat n) := by
  unfold namedReferences
  split <;> decide +kernel

theorem namedReference?_disjoint (h : namedReference? name = some meaning) :
    meaning.Disjoint unreferenced := by
  cases name with
  | nil => cases h
  | cons c cs =>
    obtain ⟨entry, hf, rfl⟩ := Option.map_eq_some_iff.1 h
    have hmem := List.mem_of_find?_eq_some hf
    have hentry := List.all_eq_true.1 (namedReferences_referenced c) entry hmem
    intro d hd hc
    obtain ⟨n, hn, rfl⟩ := List.mem_map.1 hd
    have hnumber := List.all_eq_true.1 hentry n hn
    rw [List.contains_iff_mem.2 hc] at hnumber
    cases hnumber

theorem numericAt_disjoint (h : numericAt base p cs = some (meaning, rest)) :
    meaning.Disjoint unreferenced := by
  unfold numericAt at h
  split at h
  · cases h
  · cases h
    intro d hd hc
    rw [List.mem_singleton.1 hd] at hc
    exact referencedChar_not_mem _ hc

theorem namedAt_disjoint (h : namedAt cs = some (meaning, rest)) :
    meaning.Disjoint unreferenced := by
  have hnamed {name : Text} {behind : Text}
      (h : (namedReference? name).map (fun meaning => (meaning, behind)) = some (meaning, rest)) :
      meaning.Disjoint unreferenced := by
    obtain ⟨m, hm, he⟩ := Option.map_eq_some_iff.1 h
    cases he
    exact namedReference?_disjoint hm
  unfold namedAt at h
  split at h
  case h_1 hc =>
    rw [← hc, closedAt] at h
    split at h
    · exact hnamed h
    · cases h
  case h_2 =>
    unfold bareAt at h
    split at h
    · exact hnamed h
    · cases h

theorem referenceAt_disjoint (h : referenceAt cs = some (meaning, rest)) :
    meaning.Disjoint unreferenced := by
  unfold referenceAt at h
  split at h
  · exact numericAt_disjoint h
  · exact numericAt_disjoint h
  · exact numericAt_disjoint h
  · exact namedAt_disjoint h

theorem null_not_mem_referenceAt (h : referenceAt cs = some (meaning, rest)) :
    '\x00' ∉ meaning :=
  fun hm => referenceAt_disjoint h hm (by decide)

end Meanings

section Reading

theorem decodeReferences_nil : decodeReferences [] = [] := by
  rw [decodeReferences]

theorem decodeReferences_cons_of_ne (hc : c ≠ '&') (cs : Text) :
    decodeReferences (c :: cs) = c :: decodeReferences cs := by
  rw [decodeReferences, if_neg hc]

theorem decodeReferences_append_of_not_mem (h : '&' ∉ t) (rest : Text) :
    decodeReferences (t ++ rest) = t ++ decodeReferences rest := by
  induction t with
  | nil => rfl
  | cons c cs ih =>
    rw [List.mem_cons, not_or] at h
    rw [List.cons_append, decodeReferences_cons_of_ne (Ne.symm h.1), ih h.2, List.cons_append]

theorem decodeReferences_of_some (h : referenceAt cs = some (meaning, rest)) :
    decodeReferences ('&' :: cs) = meaning ++ decodeReferences rest := by
  rw [decodeReferences, if_pos rfl]
  split
  case h_1 he =>
    rw [h] at he
    cases he
    rfl
  case h_2 he =>
    rw [h] at he
    cases he

theorem decodeReferences_of_none (h : referenceAt cs = none) :
    decodeReferences ('&' :: cs) = '&' :: decodeReferences cs := by
  rw [decodeReferences, if_pos rfl]
  split
  case h_1 he =>
    rw [h] at he
    cases he
  case h_2 => rfl

theorem referenceAt_of_ne (hc : c ≠ '#') (cs : Text) :
    referenceAt (c :: cs) = namedAt (c :: cs) := by
  unfold referenceAt
  split
  case h_1 he => exact absurd (List.cons.inj he).1 hc
  case h_2 he => exact absurd (List.cons.inj he).1 hc
  case h_3 he => exact absurd (List.cons.inj he).1 hc
  case h_4 => rfl

theorem referenceAt_number_of_ne (hx : c ≠ 'x') (hX : c ≠ 'X') (cs : Text) :
    referenceAt ('#' :: c :: cs) = numericAt 10 Char.isDigit (c :: cs) := by
  unfold referenceAt
  split
  case h_1 he =>
    cases he
    exact absurd rfl hx
  case h_2 he =>
    cases he
    exact absurd rfl hX
  case h_3 he =>
    cases he
    rfl
  case h_4 hn => exact absurd rfl (hn (c :: cs))

theorem referenceAt_decimal (n : Nat) (rest : Text) :
    referenceAt ('#' :: (decimal n ++ ';' :: rest)) = some ([referencedChar n], rest) := by
  have hd : ∀ c ∈ decimal n, c.isDigit = true := fun c hc => isDigit_of_mem_decimal hc
  have hnumber : numericAt 10 Char.isDigit (decimal n ++ ';' :: rest) =
      some ([referencedChar n], rest) := by
    rw [numericAt, List.takeWhile_append_of_pos hd, List.dropWhile_append_of_pos hd,
      List.takeWhile_cons_of_neg (by decide), List.dropWhile_cons_of_neg (by decide),
      List.append_nil]
    have hvalue := digitsValue_decimal n
    cases hn : decimal n with
    | nil => exact absurd hn Nat.toDigits_ne_nil
    | cons d ds =>
      rw [hn] at hvalue
      simp only [hvalue, dropSemicolon]
  cases hn : decimal n with
  | nil => exact absurd hn Nat.toDigits_ne_nil
  | cons d ds =>
    have hfirst : d.isDigit = true := hd d (by rw [hn]; exact List.mem_cons_self)
    rw [hn] at hnumber
    rw [List.cons_append, referenceAt_number_of_ne]
    · exact hnumber
    · rintro rfl
      cases hfirst
    · rintro rfl
      cases hfirst

theorem referenceName_eq (cs : Text) : referenceName cs = (cs.takeWhile Char.isAlphanum).take 31 :=
  List.take_takeWhile.symm

theorem namedAt_closed (hn : ∀ c ∈ name, c.isAlphanum = true) (hl : name.length ≤ 31)
    (hm : namedReference? name = some meaning) (rest : Text) :
    namedAt (name ++ ';' :: rest) = some (meaning, rest) := by
  have hname : referenceName (name ++ ';' :: rest) = name := by
    rw [referenceName_eq, List.takeWhile_append_of_pos hn, List.takeWhile_cons_of_neg (by decide),
      List.append_nil, List.take_of_length_le hl]
  have hclosed : closedAt (name ++ ';' :: rest) = some (meaning, rest) := by
    rw [closedAt, hname, List.drop_left, hm]
    rfl
  rw [namedAt, hclosed]

def afterSemicolon? : Text → Option Text
  | ';' :: cs => some cs
  | _ => none

theorem afterSemicolon?_eq_none (h : ∀ rest, cs ≠ ';' :: rest) : afterSemicolon? cs = none := by
  unfold afterSemicolon?
  split
  case h_1 => exact absurd rfl (h _)
  case h_2 => rfl

theorem dropSemicolon_eq (cs : Text) : dropSemicolon cs = (afterSemicolon? cs).getD cs := by
  unfold dropSemicolon
  split
  case h_1 => rfl
  case h_2 hne => rw [afterSemicolon?_eq_none hne, Option.getD_none]

theorem closedAt_eq (cs : Text) :
    closedAt cs = (afterSemicolon? (cs.drop (referenceName cs).length)).bind fun rest =>
      (namedReference? (referenceName cs)).map fun meaning => (meaning, rest) := by
  unfold closedAt
  split
  case h_1 he => rw [he, afterSemicolon?, Option.bind_some]
  case h_2 hne => rw [afterSemicolon?_eq_none hne, Option.bind_none]

end Reading

section Scanning

/-- What references consist of behind their `&`. -/
def isReferenceChar (c : Char) : Bool :=
  c.isAlphanum || c == '#' || c == ';'

theorem isReferenceChar_of_isAlphanum (h : c.isAlphanum) : isReferenceChar c := by
  rw [isReferenceChar, h, Bool.true_or, Bool.true_or]

theorem isReferenceChar_of_beq {d : Char} (hd : isReferenceChar d) (h : (c == d) = true) :
    isReferenceChar c := by
  rw [eq_of_beq h]
  exact hd

theorem name_at_head (hn : name <+: referenceName cs) :
    name <+: cs ∧ ∀ c ∈ name, isReferenceChar c := by
  rw [referenceName_eq] at hn
  have hword := hn.trans (List.take_prefix 31 _)
  refine ⟨hword.trans (List.takeWhile_prefix Char.isAlphanum), ?_⟩
  intro c hc
  exact isReferenceChar_of_isAlphanum (List.mem_takeWhile_imp (hword.mem hc))

theorem afterSemicolon?_of_head (h : ∀ c ∈ cs.head?, (c == ';') = false) :
    afterSemicolon? cs = none := by
  apply afterSemicolon?_eq_none
  rintro rest rfl
  cases h ';' rfl

theorem referenceAt_of_head (h : ∀ c ∈ cs.head?, (c == '#') = false) :
    referenceAt cs = namedAt cs := by
  cases cs with
  | nil => rfl
  | cons c cs => exact referenceAt_of_ne (ne_of_beq_false (h c rfl)) cs

theorem referenceAt_number_of_head (h : ∀ c ∈ cs.head?, (c == 'x' || c == 'X') = false) :
    referenceAt ('#' :: cs) = numericAt 10 Char.isDigit cs := by
  cases cs with
  | nil => rfl
  | cons c cs =>
    obtain ⟨hx, hX⟩ := Bool.or_eq_false_iff.1 (h c rfl)
    exact referenceAt_number_of_ne (ne_of_beq_false hx) (ne_of_beq_false hX) cs

/-- A change of a text that references are read through: what they consist of is kept, and where
nothing of that kind stands, nothing of that kind comes to stand. -/
structure Transparent (g : Text → Text) : Prop where
  keeps : ∀ c cs, isReferenceChar c = true → g (c :: cs) = c :: g cs
  stops : ∀ cs, (∀ c ∈ cs.head?, isReferenceChar c = false) →
    ∀ c ∈ (g cs).head?, isReferenceChar c = false

namespace Transparent

variable {g : Text → Text} (hg : Transparent g)

include hg

theorem append (h : ∀ c ∈ t, isReferenceChar c = true) (rest : Text) :
    g (t ++ rest) = t ++ g rest := by
  induction t with
  | nil => rfl
  | cons c cs ih =>
    obtain ⟨hc, hcs⟩ := List.forall_mem_cons.1 h
    rw [List.cons_append, hg.keeps c _ hc, ih hcs, List.cons_append]

theorem head (hp : ∀ c, p c = true → isReferenceChar c = true)
    (h : ∀ c ∈ cs.head?, p c = false) : ∀ c ∈ (g cs).head?, p c = false := by
  rcases head?_cases isReferenceChar cs with ⟨d, ds, rfl, hd⟩ | hstop
  · rw [hg.keeps d ds hd]
    exact h
  · intro c hc
    rw [Bool.eq_false_iff]
    intro hpc
    have hnot := hg.stops cs hstop c hc
    rw [hp c hpc] at hnot
    cases hnot

/-- The word at the head of a text stays, and the change goes on behind it. -/
theorem word_eq (hp : ∀ c, p c = true → c.isAlphanum = true) (cs : Text) :
    (g cs).takeWhile p = cs.takeWhile p ∧ (g cs).dropWhile p = g (cs.dropWhile p) := by
  have hreference (c : Char) (hc : p c = true) : isReferenceChar c = true :=
    isReferenceChar_of_isAlphanum (hp c hc)
  have hword : ∀ c ∈ cs.takeWhile p, p c = true := fun c hc => List.mem_takeWhile_imp hc
  have hbehind : ∀ c ∈ (cs.dropWhile p).head?, p c = false := by
    intro c hc
    have hnot := List.head?_dropWhile_not p cs
    rw [Option.mem_def.1 hc] at hnot
    exact hnot
  have hstop := hg.head hreference hbehind
  have hsplit : g cs = cs.takeWhile p ++ g (cs.dropWhile p) := by
    rw [← hg.append fun c hc => hreference c (hword c hc), List.takeWhile_append_dropWhile]
  rw [hsplit]
  exact ⟨takeWhile_append_stop hword hstop, dropWhile_append_stop hword hstop⟩

theorem name_eq (cs : Text) : referenceName (g cs) = referenceName cs := by
  rw [referenceName_eq, referenceName_eq, (hg.word_eq (fun _ h => h) cs).1]

theorem drop_eq (hn : name <+: referenceName cs) :
    (g cs).drop name.length = g (cs.drop name.length) := by
  obtain ⟨⟨rest, rfl⟩, hchars⟩ := name_at_head hn
  rw [hg.append hchars, List.drop_left, List.drop_left]

theorem afterSemicolon?_eq (cs : Text) : afterSemicolon? (g cs) = (afterSemicolon? cs).map g := by
  rcases head?_cases (· == ';') cs with ⟨c, ds, rfl, hc⟩ | hstop
  · rw [eq_of_beq hc, hg.keeps ';' ds rfl, afterSemicolon?, afterSemicolon?, Option.map_some]
  · have hbehind := hg.head (fun _ => isReferenceChar_of_beq rfl) hstop
    rw [afterSemicolon?_of_head hstop, afterSemicolon?_of_head hbehind, Option.map_none]

theorem dropSemicolon_eq (cs : Text) : dropSemicolon (g cs) = g (dropSemicolon cs) := by
  rw [Markup.dropSemicolon_eq, Markup.dropSemicolon_eq, hg.afterSemicolon?_eq]
  cases afterSemicolon? cs with
  | none => rfl
  | some rest => rfl

theorem numericAt_eq (hp : ∀ c, p c = true → c.isAlphanum = true) (base : Nat) (cs : Text) :
    numericAt base p (g cs) = (numericAt base p cs).map (Prod.map id g) := by
  obtain ⟨hdigits, hbehind⟩ := hg.word_eq hp cs
  unfold numericAt
  rw [hdigits, hbehind, hg.dropSemicolon_eq]
  cases cs.takeWhile p with
  | nil => rfl
  | cons d ds => rfl

theorem closedAt_eq (cs : Text) : closedAt (g cs) = (closedAt cs).map (Prod.map id g) := by
  rw [Markup.closedAt_eq, Markup.closedAt_eq, hg.name_eq, hg.drop_eq (List.prefix_refl _),
    hg.afterSemicolon?_eq]
  cases afterSemicolon? (cs.drop (referenceName cs).length) with
  | none => rfl
  | some rest =>
    rw [Option.map_some, Option.bind_some, Option.bind_some, Option.map_map]
    rfl

theorem bareAt_eq (cs : Text) : bareAt (g cs) = (bareAt cs).map (Prod.map id g) := by
  unfold bareAt
  rw [hg.name_eq]
  cases hf : bareReferenceNames.find? (·.toList.isPrefixOf (referenceName cs)) with
  | none => rfl
  | some bare =>
    have hfound := List.find?_some
      (p := fun s : String => s.toList.isPrefixOf (referenceName cs)) hf
    have hdrop := hg.drop_eq (List.isPrefixOf_iff_prefix.1 hfound)
    rw [String.length_toList] at hdrop
    simp only [hdrop, Option.map_map]
    rfl

theorem namedAt_eq (cs : Text) : namedAt (g cs) = (namedAt cs).map (Prod.map id g) := by
  unfold namedAt
  rw [hg.closedAt_eq, hg.bareAt_eq]
  cases closedAt cs with
  | none => rfl
  | some found => rfl

theorem referenceAt_number_eq (cs : Text) :
    referenceAt ('#' :: g cs) = (referenceAt ('#' :: cs)).map (Prod.map id g) := by
  rcases head?_cases (fun c => c == 'x' || c == 'X') cs with ⟨c, ds, rfl, hc⟩ | hstop
  · have hhex := hg.numericAt_eq (fun _ => isAlphanum_of_isHexDigit) 16 ds
    rcases Bool.or_eq_true_iff.1 hc with hx | hx
    · rw [eq_of_beq hx, hg.keeps 'x' ds rfl]
      exact hhex
    · rw [eq_of_beq hx, hg.keeps 'X' ds rfl]
      exact hhex
  · have hsign (c : Char) (hc : (c == 'x' || c == 'X') = true) : isReferenceChar c = true := by
      rcases Bool.or_eq_true_iff.1 hc with hx | hx
      · exact isReferenceChar_of_beq rfl hx
      · exact isReferenceChar_of_beq rfl hx
    rw [referenceAt_number_of_head hstop, referenceAt_number_of_head (hg.head hsign hstop)]
    exact hg.numericAt_eq (fun _ h => isAlphanum_iff.2 (.inr h)) 10 cs

/-- A reference is found where it was, and the change goes on behind it. -/
theorem referenceAt_eq (cs : Text) :
    referenceAt (g cs) = (referenceAt cs).map (Prod.map id g) := by
  rcases head?_cases (· == '#') cs with ⟨c, ds, rfl, hc⟩ | hstop
  · rw [eq_of_beq hc, hg.keeps '#' ds rfl]
    exact hg.referenceAt_number_eq ds
  · have hbehind := hg.head (fun _ => isReferenceChar_of_beq rfl) hstop
    rw [referenceAt_of_head hstop, referenceAt_of_head hbehind]
    exact hg.namedAt_eq cs

end Transparent

end Scanning

/-- A character is written as itself or, whatever follows, as a reference. -/
inductive Shows : Char → Text → Prop where
  | plain {c : Char} : c ≠ '\x00' → Shows c [c]
  | reference {c : Char} {body : Text} :
      (∀ rest, referenceAt (body ++ rest) = some ([replaceNull c], rest)) → Shows c ('&' :: body)

theorem Shows.numeric (h : referencedChar c.toNat = replaceNull c) :
    Shows c (numericReference c) := by
  have hform : numericReference c = '&' :: '#' :: (decimal c.toNat ++ [';']) := rfl
  rw [hform]
  apply Shows.reference
  intro rest
  rw [List.cons_append, List.append_assoc, List.singleton_append, referenceAt_decimal, h]

theorem Shows.named (name : Text) (hn : name.all Char.isAlphanum) (hl : name.length ≤ 31)
    (hm : namedReference? name = some [replaceNull c]) : Shows c ('&' :: (name ++ [';'])) := by
  apply Shows.reference
  intro rest
  have hread := namedAt_closed (List.all_eq_true.1 hn) hl hm rest
  cases name with
  | nil => cases hm
  | cons d ds =>
    have hd : d ≠ '#' := by
      rintro rfl
      cases hn
    rw [List.append_assoc, List.singleton_append, List.cons_append, referenceAt_of_ne hd]
    exact hread

theorem decodeReferences_shown (h : Shows c written) (hc : written ≠ ['&']) (rest : Text) :
    decodeReferences (written ++ rest) = replaceNull c :: decodeReferences rest := by
  cases h with
  | plain hz =>
    have hamp : c ≠ '&' := by
      rintro rfl
      exact hc rfl
    rw [List.singleton_append, decodeReferences_cons_of_ne hamp, replaceNull, if_neg hz]
  | reference hr => exact decodeReferences_of_some (hr rest)

theorem decodeReferences_flatMap
    (hw : ∀ c rest, decodeReferences (w c ++ rest) = read c :: decodeReferences rest) (t : Text) :
    decodeReferences (t.flatMap w) = t.map read := by
  induction t with
  | nil => exact decodeReferences_nil
  | cons c cs ih => rw [List.flatMap_cons, hw, ih, List.map_cons]

/-- Leaves references as they are: what they are made of is kept, and whatever is not kept starts
with `&`. -/
structure LeavesReferences (w : Char → Text) : Prop where
  marked : Marked '&' w
  word : ∀ c, c.isAlphanum = true → w c = [c]
  signs : ∀ c ∈ ['&', '#', ';'], w c = [c]

namespace LeavesReferences

theorem flatMap_cons (h : w c = [c]) (cs : Text) : (c :: cs).flatMap w = c :: cs.flatMap w := by
  rw [List.flatMap_cons, h, List.singleton_append]

theorem kept (hw : LeavesReferences w) (hc : isReferenceChar c) : w c = [c] := by
  rw [isReferenceChar, Bool.or_eq_true, Bool.or_eq_true] at hc
  rcases hc with (hword | hsign) | hsign
  · exact hw.word c hword
  · rw [eq_of_beq hsign]
    exact hw.signs '#' (by decide)
  · rw [eq_of_beq hsign]
    exact hw.signs ';' (by decide)

theorem transparent (hw : LeavesReferences w) : Transparent (·.flatMap w) where
  keeps _ cs hc := flatMap_cons (hw.kept hc) cs
  stops cs hstop := by
    cases cs with
    | nil => exact hstop
    | cons c cs =>
      intro d hd
      rw [List.flatMap_cons] at hd
      rcases hw.marked c with hc | ⟨more, hc⟩
      · rw [hc] at hd
        exact hstop d hd
      · rw [hc] at hd
        cases hd
        rfl

def writeRest (w : Char → Text) (found : Text × Text) : Text × Text :=
  (found.1, found.2.flatMap w)

theorem referenceAt_flatMap (hw : LeavesReferences w) (cs : Text) :
    referenceAt (cs.flatMap w) = (referenceAt cs).map (writeRest w) :=
  hw.transparent.referenceAt_eq cs

end LeavesReferences

/-- References that are left as they are mean what they meant. -/
theorem LeavesReferences.decodeReferences_flatMap (hw : LeavesReferences w)
    (hread : ∀ c, c ≠ '&' → ∀ rest,
      decodeReferences (w c ++ rest) = read c :: decodeReferences rest)
    (hamp : read '&' = '&')
    (hmeaning : ∀ cs meaning rest, referenceAt cs = some (meaning, rest) →
      meaning.map read = meaning) (t : Text) :
    decodeReferences (t.flatMap w) = (decodeReferences t).map read := by
  fun_induction decodeReferences t with
  | case1 => exact decodeReferences_nil
  | case2 cs meaning rest hr _ ih =>
    have hfound := hw.referenceAt_flatMap cs
    rw [hr] at hfound
    rw [flatMap_cons (hw.signs '&' (by decide)), decodeReferences_of_some hfound, List.map_append,
      hmeaning cs meaning rest hr]
    exact congrArg (meaning ++ ·) ih
  | case3 cs hr ih =>
    have hfound := hw.referenceAt_flatMap cs
    rw [hr] at hfound
    rw [flatMap_cons (hw.signs '&' (by decide)), decodeReferences_of_none hfound, ih, List.map_cons,
      hamp]
  | case4 c cs hc ih => rw [List.flatMap_cons, hread c hc, ih, List.map_cons]

structure KeepsReferences (w : Char → Text) : Prop where
  shows : ∀ c, Shows c (w c)
  word : ∀ c, c.isAlphanum = true → w c = [c]
  signs : ∀ c ∈ ['&', '#', ';'], w c = [c]

namespace KeepsReferences

theorem leaves (hw : KeepsReferences w) : LeavesReferences w where
  marked c := by
    have hs := hw.shows c
    generalize w c = written at hs ⊢
    cases hs with
    | plain => exact .inl rfl
    | reference => exact .inr ⟨_, rfl⟩
  word := hw.word
  signs := hw.signs

theorem decodeReferences_append (hw : KeepsReferences w) (hc : c ≠ '&') (rest : Text) :
    decodeReferences (w c ++ rest) = replaceNull c :: decodeReferences rest := by
  apply decodeReferences_shown (hw.shows c)
  intro h
  have hs := hw.shows c
  rw [h] at hs
  cases hs with
  | plain => exact hc rfl
  | reference hr => cases hr []

theorem decodeReferences_flatMap (hw : KeepsReferences w) (t : Text) :
    decodeReferences (t.flatMap w) = (decodeReferences t).map replaceNull := by
  apply hw.leaves.decodeReferences_flatMap
  · intro c hc rest
    exact hw.decodeReferences_append hc rest
  · rfl
  · intro cs meaning rest hr
    exact map_replaceNull_of_not_mem (null_not_mem_referenceAt hr)

end KeepsReferences

theorem shows_tidyHtmlChar (c : Char) : Shows c (tidyHtmlChar c) := by
  cases hc : isDelimiter c with
  | true =>
    rcases isDelimiter_iff.1 hc with rfl | rfl | rfl | rfl | rfl
    · exact .named "lt".toList (by decide) (by decide) (by decide +kernel)
    · exact .named "gt".toList (by decide) (by decide) (by decide +kernel)
    · exact .named "quot".toList (by decide) (by decide) (by decide +kernel)
    · exact .numeric (by decide)
    · exact .numeric (by decide)
  | false =>
    rw [tidyHtmlChar_of_plain hc]
    apply Shows.plain
    rintro rfl
    cases hc

theorem shows_escapeHtmlChar (c : Char) :
    Shows c (escapeHtmlChar c) ∧ escapeHtmlChar c ≠ ['&'] := by
  unfold escapeHtmlChar
  split
  case isTrue hc =>
    subst c
    refine ⟨?_, by decide⟩
    exact .named "amp".toList (by decide) (by decide) (by decide +kernel)
  case isFalse hc =>
    refine ⟨shows_tidyHtmlChar c, ?_⟩
    intro he
    cases hd : isDelimiter c with
    | true =>
      rcases isDelimiter_iff.1 hd with rfl | rfl | rfl | rfl | rfl <;> exact absurd he (by decide)
    | false =>
      rw [tidyHtmlChar_of_plain hd] at he
      exact hc (List.cons.inj he).1

theorem decodeReferences_escapeHtml (t : Text) :
    decodeReferences (escapeHtml t) = t.map replaceNull := by
  apply decodeReferences_flatMap
  intro c rest
  exact decodeReferences_shown (shows_escapeHtmlChar c).1 (shows_escapeHtmlChar c).2 rest

theorem keepsReferences_tidyHtmlChar : KeepsReferences tidyHtmlChar where
  shows := shows_tidyHtmlChar
  word c hc := by
    apply tidyHtmlChar_of_plain
    rw [Bool.eq_false_iff]
    intro hd
    rcases isDelimiter_iff.1 hd with rfl | rfl | rfl | rfl | rfl <;> cases hc
  signs c hc := by
    simp only [List.mem_cons, List.not_mem_nil, or_false] at hc
    rcases hc with rfl | rfl | rfl <;> rfl

/-- A character as filtered markup has it: opening brackets are written as references too. -/
def filterChar (c : Char) : Text :=
  tidyHtml (maskBrackets [c])

theorem filterChar_of_ne (h : c ≠ '[') : filterChar c = tidyHtmlChar c := by
  rw [filterChar, maskBrackets_cons_of_ne h, maskBrackets_nil, tidyHtml, List.flatMap_singleton]

theorem tidyHtml_maskBrackets (t : Text) : tidyHtml (maskBrackets t) = t.flatMap filterChar := by
  induction t with
  | nil => rfl
  | cons c cs ih => rw [maskBrackets_cons, tidyHtml_append, ih, List.flatMap_cons, filterChar]

theorem keepsReferences_filterChar : KeepsReferences filterChar where
  shows c := by
    by_cases hb : c = '['
    · subst c
      exact Shows.numeric (by decide)
    · rw [filterChar_of_ne hb]
      exact shows_tidyHtmlChar c
  word c hc := by
    have hb : c ≠ '[' := by
      rintro rfl
      cases hc
    rw [filterChar_of_ne hb, keepsReferences_tidyHtmlChar.word c hc]
  signs c hc := by
    have hb : c ≠ '[' := by
      rintro rfl
      exact absurd hc (by decide)
    rw [filterChar_of_ne hb, keepsReferences_tidyHtmlChar.signs c hc]

theorem decodeReferences_tidyHtml_maskBrackets (t : Text) :
    decodeReferences (tidyHtml (maskBrackets t)) = (decodeReferences t).map replaceNull := by
  rw [tidyHtml_maskBrackets]
  exact keepsReferences_filterChar.decodeReferences_flatMap t

end SafeOutput.Markup
