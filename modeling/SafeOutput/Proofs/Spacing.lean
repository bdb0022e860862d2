import Mathlib
import SafeOutput.Proofs.Extraction
import SafeOutput.Proofs.RawText

namespace SafeOutput.Markup

open Text

variable {c : Char} {t u v x y gap chunk : Text} {e : Extraction} {token : Token}
  {ts : List Token}

section Collapsing

theorem exists_getLast?_append {p : Char → Prop} (h : ∃ d ∈ x.getLast?, p d) (u : Text) :
    ∃ d ∈ (u ++ x).getLast?, p d := by
  obtain ⟨d, hlast, hd⟩ := h
  refine ⟨d, ?_, hd⟩
  rw [List.getLast?_append, Option.mem_def.1 hlast]
  rfl

/-- Collapsed white space is single spaces. Each stands behind something else, or at the start
of a text that continues no run. -/
theorem collapseSpace_spaces {inRun : Bool} (h : collapseSpace inRun t = x ++ c :: y)
    (hc : isHtmlSpace c) :
    c = ' ' ∧ ((∃ d ∈ x.getLast?, isHtmlSpace d = false) ∨ x = [] ∧ inRun = false) := by
  fun_induction collapseSpace inRun t generalizing x with
  | case1 => simp at h
  | case2 d cs hd ih => exact ih h
  | case3 inRun d cs hd hrun ih =>
    cases x with
    | nil =>
      rw [List.nil_append, List.cons.injEq] at h
      exact ⟨h.1.symm, .inr ⟨rfl, Bool.eq_false_iff.2 hrun⟩⟩
    | cons a x =>
      rw [List.cons_append, List.cons.injEq] at h
      obtain ⟨hspace, hlast | ⟨-, hfalse⟩⟩ := ih h.2
      · exact ⟨hspace, .inl (exists_getLast?_append hlast [a])⟩
      · cases hfalse
  | case4 inRun d cs hd ih =>
    cases x with
    | nil =>
      rw [List.nil_append, List.cons.injEq] at h
      rw [h.1] at hd
      exact absurd hc hd
    | cons a x =>
      rw [List.cons_append, List.cons.injEq] at h
      obtain ⟨rfl, htail⟩ := h
      obtain ⟨hspace, hlast | ⟨rfl, -⟩⟩ := ih htail
      · exact ⟨hspace, .inl (exists_getLast?_append hlast [d])⟩
      · exact ⟨hspace, .inl ⟨d, rfl, Bool.eq_false_iff.2 hd⟩⟩

theorem dropLeadingSpace_spaces (h : dropLeadingSpace (collapseSpace false t) = x ++ c :: y)
    (hc : isHtmlSpace c) : c = ' ' ∧ ∃ d ∈ x.getLast?, isHtmlSpace d = false := by
  unfold dropLeadingSpace at h
  split at h
  case h_1 cs hcs =>
    have hsplit : collapseSpace false t = (' ' :: x) ++ c :: y := by
      rw [hcs, h, List.cons_append]
    obtain ⟨hspace, ⟨d, hlast, hsolid⟩ | ⟨hnil, -⟩⟩ := collapseSpace_spaces hsplit hc
    · refine ⟨hspace, d, ?_, hsolid⟩
      cases x with
      | nil =>
        cases hlast
        cases hsolid
      | cons a x => exact hlast
    · cases hnil
  case h_2 hne =>
    obtain ⟨rfl, hlast | ⟨rfl, -⟩⟩ := collapseSpace_spaces h hc
    · exact ⟨rfl, hlast⟩
    · exact absurd h (hne y)

end Collapsing

namespace Extraction

def collapsed (e : Extraction) (gap : Text) : Text :=
  let single := collapseSpace false (decodeReferences gap)
  if e.endsSolid then single else dropLeadingSpace single

theorem collapsed_spaces (h : e.collapsed gap = x ++ c :: y) (hc : isHtmlSpace c) :
    c = ' ' ∧ ∃ d ∈ (e.out.reverse ++ x).getLast?, isHtmlSpace d = false := by
  unfold collapsed at h
  dsimp only at h
  split at h
  case isTrue hsolid =>
    obtain ⟨hspace, hlast | ⟨rfl, -⟩⟩ := collapseSpace_spaces h hc
    · exact ⟨hspace, exists_getLast?_append hlast _⟩
    · obtain ⟨d, hhead, hd⟩ := (Option.any_eq_true _ _).1 hsolid
      refine ⟨hspace, d, ?_, (Bool.not_eq_true' _).mp hd⟩
      rw [List.append_nil, List.getLast?_reverse]
      exact hhead
  case isFalse =>
    obtain ⟨hspace, hlast⟩ := dropLeadingSpace_spaces h hc
    exact ⟨hspace, exists_getLast?_append hlast _⟩

/-- What one token can write, and in which states. -/
inductive Writes (e : Extraction) : Token → Text → Prop where
  | nothing (token : Token) : e.Writes token []
  | kept (gap : Text) (hs : e.skipping = none) (hk : e.keepsSpace = true) :
      e.Writes (.text gap) (decodeReferences gap)
  | collapsed (gap : Text) (hs : e.skipping = none) (hk : e.keepsSpace = false) :
      e.Writes (.text gap) (e.collapsed gap)
  | lineBreak (it : Tag) (hs : e.skipping = none) (ho : it.opens "br".toList) :
      e.Writes (.tag it) ['\n']
  | freshLine (it : Tag) (hs : e.skipping = none) (hl : ∃ d ∈ e.out.head?, d ≠ '\n') :
      e.Writes (.tag it) ['\n']
  | cell (it : Tag) (hs : e.skipping = none)
      (ho : it.opens "td".toList ∨ it.opens "th".toList) : e.Writes (.tag it) ['\t']

theorem out_push_of_skipping {name : Text} (hs : e.skipping = some name) (token : Token) :
    (e.push token).out = e.out := by
  cases h : token.closes name with
  | true => rw [push_closes hs h]
  | false => rw [push_of_not_closes hs h]

theorem writes_pushGap (hs : e.skipping = none) (gap : Text) :
    ∃ chunk, e.Writes (.text gap) chunk ∧ (e.pushGap gap).out = chunk.reverse ++ e.out := by
  unfold pushGap
  split
  case isTrue hk => exact ⟨_, .kept gap hs hk, rfl⟩
  case isFalse hk => exact ⟨_, .collapsed gap hs (Bool.eq_false_iff.2 hk), rfl⟩

theorem writes_freshLine (hs : e.skipping = none) (it : Tag) :
    ∃ chunk, e.Writes (.tag it) chunk ∧ e.freshLine.out = chunk.reverse ++ e.out := by
  unfold freshLine
  split
  case isTrue hl =>
    obtain ⟨d, hd, hne⟩ := (Option.any_eq_true _ _).1 hl
    exact ⟨_, .freshLine it hs ⟨d, hd, bne_iff_ne.1 hne⟩, rfl⟩
  case isFalse => exact ⟨_, .nothing _, rfl⟩

theorem writes_pushBreak {it : Tag} {name : Text} (hs : e.skipping = none)
    (hn : it.name = some name) :
    ∃ chunk, e.Writes (.tag it) chunk ∧
      (e.pushBreak name it.closing).out = chunk.reverse ++ e.out := by
  have hopens {word : Text} (ho : (!it.closing) = true) (hw : name = word) : it.opens word := by
    rw [Tag.opens_iff, hn, hw]
    exact ⟨(Bool.not_eq_true' _).mp ho, rfl⟩
  unfold pushBreak
  split
  case isTrue => exact ⟨_, .nothing _, rfl⟩
  split
  case isTrue hbreak =>
    rw [Bool.and_eq_true, beq_iff_eq] at hbreak
    exact ⟨_, .lineBreak it hs (hopens hbreak.1 hbreak.2), rfl⟩
  split
  case isTrue => exact writes_freshLine hs it
  split
  case isTrue hcell =>
    rw [Bool.and_eq_true, isCell, List.contains_iff_mem] at hcell
    obtain ⟨ho, hm⟩ := hcell
    refine ⟨_, .cell it hs ?_, rfl⟩
    rcases List.mem_cons.1 hm with hw | hm
    · exact .inl (hopens ho hw)
    · exact .inr (hopens ho (List.mem_singleton.1 hm))
  case isFalse => exact ⟨_, .nothing _, rfl⟩

theorem out_pushTag {it : Tag} {name : Text} (hs : e.skipping = none) (hn : it.name = some name) :
    (e.pushTag it).out = (e.pushBreak name it.closing).out := by
  rw [pushTag, hn, hs]
  dsimp only
  split
  · rfl
  split
  · rfl
  · rfl

theorem exists_writes (e : Extraction) (token : Token) :
    ∃ chunk, e.Writes token chunk ∧ (e.push token).out = chunk.reverse ++ e.out := by
  cases hs : e.skipping with
  | some name => exact ⟨[], .nothing _, out_push_of_skipping hs token⟩
  | none =>
    cases token with
    | text gap =>
      rw [push, hs]
      exact writes_pushGap hs gap
    | tag it =>
      cases hn : it.name with
      | none =>
        refine ⟨[], .nothing _, ?_⟩
        rw [push, pushTag, hn]
        rfl
      | some name =>
        rw [push, out_pushTag hs hn]
        exact writes_pushBreak hs hn

/-- Each character of the text was written by a token, behind all that stands before it. -/
theorem exists_writer (h : (ts.foldl push start).out.reverse = u ++ c :: v) :
    ∃ before token after x y, ts = before ++ token :: after ∧
      (before.foldl push start).Writes token (x ++ c :: y) ∧
      u = (before.foldl push start).out.reverse ++ x ∧
      ((before ++ [token]).foldl push start).out.reverse = u ++ c :: y := by
  induction ts using List.reverseRecOn generalizing v with
  | nil => simp [start] at h
  | append_singleton ts token ih =>
    obtain ⟨chunk, hwrites, hout⟩ := exists_writes (ts.foldl push start) token
    have hpush : ((ts ++ [token]).foldl push start).out.reverse =
        (ts.foldl push start).out.reverse ++ chunk := by
      rw [List.foldl_append, List.foldl_cons, List.foldl_nil, hout, List.reverse_append,
        List.reverse_reverse]
    rw [hpush] at h
    rcases append_cons_cases h with ⟨right, hleft, -⟩ | ⟨mid, hu, rfl⟩
    · obtain ⟨before, writer, after, x, y, rfl, hw, hx, hy⟩ := ih hleft
      refine ⟨before, writer, after ++ [token], x, y, ?_, hw, hx, hy⟩
      rw [List.append_assoc, List.cons_append]
    · refine ⟨ts, token, [], mid, v, rfl, hwrites, hu, ?_⟩
      rw [hpush, hu, List.append_assoc]

/-- Each token is read in a state that suits it. -/
def Throughout (p : Extraction → Token → Prop) (e : Extraction) (ts : List Token) : Prop :=
  ∀ before token after, ts = before ++ token :: after → p (before.foldl push e) token

theorem throughout_nil (p : Extraction → Token → Prop) (e : Extraction) : Throughout p e [] := by
  intro before token after h
  simp at h

theorem throughout_cons {p : Extraction → Token → Prop} :
    Throughout p e (token :: ts) ↔ p e token ∧ Throughout p (e.push token) ts := by
  constructor
  · intro h
    refine ⟨h [] token ts rfl, ?_⟩
    intro before next after hts
    apply h (token :: before) next after
    rw [hts, List.cons_append]
  · rintro ⟨htoken, hts⟩ before next after h
    rcases List.cons_eq_append_iff.1 h with ⟨rfl, hnext⟩ | ⟨before, rfl, hrest⟩
    · cases hnext
      exact htoken
    · exact hts before next after hrest

instance decidableThroughout {p : Extraction → Token → Prop} [∀ e token, Decidable (p e token)]
    (e : Extraction) (ts : List Token) : Decidable (Throughout p e ts) :=
  match ts with
  | [] => isTrue (throughout_nil p e)
  | token :: ts =>
    have := decidableThroughout (p := p) (e.push token) ts
    decidable_of_iff _ throughout_cons.symm

def Collapses (e : Extraction) : Token → Prop
  | .text _ => e.skipping = none → e.keepsSpace = false
  | .tag _ => True

def Unbroken (e : Extraction) : Token → Prop
  | .text _ => True
  | .tag it => e.skipping = none → ¬it.opens "br".toList

instance (e : Extraction) : (token : Token) → Decidable (e.Collapses token)
  | .text _ => inferInstanceAs (Decidable (e.skipping = none → e.keepsSpace = false))
  | .tag _ => isTrue trivial

instance (e : Extraction) : (token : Token) → Decidable (e.Unbroken token)
  | .text _ => isTrue trivial
  | .tag it => inferInstanceAs (Decidable (e.skipping = none → ¬it.opens "br".toList))

/-- How white space comes behind a text: which token writes it, and what that writes behind it. -/
inductive Origin (e : Extraction) (before : Text) : Token → Char → Text → Prop where
  | space {token : Token} {behind : Text} (hd : ∃ d ∈ before.getLast?, isHtmlSpace d = false) :
      e.Origin before token ' ' behind
  | lineBreak {it : Tag} (hs : e.skipping = none) (ho : it.opens "br".toList) :
      e.Origin before (.tag it) '\n' []
  | freshLine {it : Tag} (hd : ∃ d ∈ before.getLast?, d ≠ '\n') : e.Origin before (.tag it) '\n' []
  | cell {it : Tag} (hs : e.skipping = none) (ho : it.opens "td".toList ∨ it.opens "th".toList)
      (hout : e.out.reverse = before) : e.Origin before (.tag it) '\t' []

theorem eq_of_singleton {d : Char} (h : [d] = x ++ c :: y) : x = [] ∧ d = c ∧ y = [] := by
  cases x with
  | nil =>
    obtain ⟨rfl, rfl⟩ := List.cons.inj h
    exact ⟨rfl, rfl, rfl⟩
  | cons a x =>
    have hlength := congrArg List.length h
    simp at hlength

theorem Writes.origin (hw : e.Writes token chunk) (hchunk : chunk = x ++ c :: y)
    (hk : e.Collapses token) (hc : isHtmlSpace c) :
    e.Origin (e.out.reverse ++ x) token c y := by
  cases hw with
  | nothing => simp at hchunk
  | kept gap hs hkept =>
    rw [hk hs] at hkept
    cases hkept
  | collapsed gap hs hcollapsed =>
    obtain ⟨rfl, hd⟩ := collapsed_spaces hchunk hc
    exact .space hd
  | lineBreak it hs ho =>
    obtain ⟨rfl, rfl, rfl⟩ := eq_of_singleton hchunk
    exact .lineBreak hs ho
  | freshLine it hs hl =>
    obtain ⟨rfl, rfl, rfl⟩ := eq_of_singleton hchunk
    apply Origin.freshLine
    rw [List.append_nil, List.getLast?_reverse]
    exact hl
  | cell it hs ho =>
    obtain ⟨rfl, rfl, rfl⟩ := eq_of_singleton hchunk
    exact .cell hs ho (List.append_nil _).symm

/-- Where white space is nowhere kept, each white space character has one of the origins. -/
theorem exists_origin (hk : Throughout Collapses start ts)
    (h : (ts.foldl push start).out.reverse = u ++ c :: v) (hc : isHtmlSpace c) :
    ∃ before token after behind, ts = before ++ token :: after ∧
      (before.foldl push start).Origin u token c behind ∧
      ((before ++ [token]).foldl push start).out.reverse = u ++ c :: behind := by
  obtain ⟨before, token, after, x, y, hts, hw, rfl, hout⟩ := exists_writer h
  exact ⟨before, token, after, y, hts, hw.origin rfl (hk before token after hts) hc, hout⟩

end Extraction

/-- White space as it is where it is not kept: no carriage return, and each space directly behind
something that is no white space. -/
structure Spaced (t : Text) : Prop where
  start : t.head? ≠ some ' '
  spaces : ∀ u v, t = u ++ ' ' :: v → ∃ c ∈ u.getLast?, isHtmlSpace c = false
  returns : '\r' ∉ t

/-- No line of the text is empty, unless it is the last. -/
structure Lined (t : Text) : Prop where
  start : t.head? ≠ some '\n'
  lines : ¬"\n\n".toList <:+: t

theorem head?_ne_of_follows {p : Char → Prop} (h : ∀ u v, t = u ++ c :: v → ∃ d ∈ u.getLast?, p d) :
    t.head? ≠ some c := by
  intro hhead
  obtain ⟨v, rfl⟩ := List.head?_eq_some_iff.1 hhead
  obtain ⟨d, hd, -⟩ := h [] v rfl
  cases hd

theorem Extraction.spaced (hk : Throughout Collapses start ts) :
    Spaced (ts.foldl push start).out.reverse := by
  have hspaces : ∀ u v, (ts.foldl push start).out.reverse = u ++ ' ' :: v →
      ∃ c ∈ u.getLast?, isHtmlSpace c = false := by
    intro u v h
    obtain ⟨before, token, after, behind, -, horigin, -⟩ := exists_origin hk h (by decide)
    cases horigin with
    | space hd => exact hd
  refine ⟨head?_ne_of_follows hspaces, hspaces, ?_⟩
  intro hm
  obtain ⟨u, v, h⟩ := List.append_of_mem hm
  obtain ⟨before, token, after, behind, -, horigin, -⟩ := exists_origin hk h (by decide)
  cases horigin

theorem Extraction.lined (hk : Throughout Collapses start ts)
    (hb : Throughout Unbroken start ts) : Lined (ts.foldl push start).out.reverse := by
  have hlines : ∀ u v, (ts.foldl push start).out.reverse = u ++ '\n' :: v →
      ∃ c ∈ u.getLast?, c ≠ '\n' := by
    intro u v h
    obtain ⟨before, token, after, behind, hts, horigin, -⟩ := exists_origin hk h (by decide)
    cases horigin with
    | lineBreak hs ho => exact absurd ho (hb before _ after hts hs)
    | freshLine hd => exact hd
  refine ⟨head?_ne_of_follows hlines, ?_⟩
  rintro ⟨u, v, h⟩
  have hsecond : (ts.foldl push start).out.reverse = (u ++ ['\n']) ++ '\n' :: v := by
    rw [← h, List.append_assoc, List.append_assoc]
    rfl
  obtain ⟨d, hd, hne⟩ := hlines _ _ hsecond
  rw [List.getLast?_concat, Option.mem_some_iff] at hd
  exact hne hd.symm

/-- Where no gap is read in an element that keeps white space, the text of a document, before its
no-break spaces become spaces, is spaced; each tab in it was written by the opener of a table cell,
and without line breaks it is lined. White space written as references counts as what it stands
for. -/
theorem plainText_spaced (html : Text) (dir : Option Direction)
    (hk : Extraction.start.Throughout Extraction.Collapses (Grammar.document.tokens html)) :
    let ts := Grammar.document.tokens html
    let run := fun ts : List Token => ts.foldl Extraction.push .start
    let t := (run ts).out.reverse
    (Value.content ⟨html, .html, dir⟩).plainText = t.map plainSpace ∧ Spaced t ∧
      (∀ u v, t = u ++ '\t' :: v → ∃ before it after, ts = before ++ .tag it :: after ∧
        (it.opens "td".toList ∨ it.opens "th".toList) ∧ (run before).skipping = none ∧
        (run before).out.reverse = u ∧ (run (before ++ [.tag it])).out.reverse = u ++ ['\t']) ∧
      (Extraction.start.Throughout Extraction.Unbroken ts → Lined t) := by
  intro ts run t
  refine ⟨rfl, Extraction.spaced hk, ?_, Extraction.lined hk⟩
  intro u v h
  obtain ⟨before, token, after, behind, hts, horigin, hout⟩ :=
    Extraction.exists_origin hk h (by decide)
  cases horigin with
  | @cell it hs ho hu => exact ⟨before, it, after, hts, ho, hs, hu, hout⟩

/-- References to white space collapse with what stands beside them, also behind a cell. The line
break in the script is not read. -/
theorem plainText_spaced_references :
    let html := "<p> a&#32;&Tab; b</p>&#13;<td>&#10; c<script> <br> </script> d<p>".toList
    let ts := Grammar.document.tokens html
    let t := (ts.foldl Extraction.push .start).out.reverse
    Extraction.start.Throughout Extraction.Collapses ts ∧
      Extraction.start.Throughout Extraction.Unbroken ts ∧
      t = "a b\n\tc d\n".toList ∧ Spaced t ∧ Lined t := by
  intro html ts t
  have hk : Extraction.start.Throughout Extraction.Collapses ts := by decide +kernel
  have hb : Extraction.start.Throughout Extraction.Unbroken ts := by decide +kernel
  have ht : t = "a b\n\tc d\n".toList := by decide +kernel
  obtain ⟨-, hspaced, -, hlined⟩ := plainText_spaced html none hk
  exact ⟨hk, hb, ht, hspaced, hlined hb⟩

end SafeOutput.Markup
