import Mathlib
import SafeOutput.Proofs.Numeral
import SafeOutput.Proofs.Text
import SafeOutput.Sanitizer

namespace SafeOutput.Script

open Text Escape

variable {c d : Char} {width : Nat} {t u cs rest body digits out before after : Text}
  {p : Char → Bool} {barred : List Char}

def shortMeanings : List (Char × Char) :=
  [('t', '\t'), ('n', '\n'), ('f', '\x0c'), ('r', '\r'), ('/', '/'), ('\\', '\\')]

/-- The character whose number stands at the head of the text in so many digits, and what
follows. -/
def numberAt? (width : Nat) (cs : Text) : Option (Char × Text) :=
  if (cs.take width).length = width ∧ (cs.take width).all isHexDigit ∧
      (digitsValue 16 (cs.take width)).isValidChar then
    some (Char.ofNat (digitsValue 16 (cs.take width)), cs.drop width)
  else none

/-- The character of the escape sequence whose backslash stands before the text, and what
follows. -/
def escapeAt? : Text → Option (Char × Text)
  | [] => none
  | sign :: cs =>
    if sign = 'x' then numberAt? 2 cs
    else if sign = 'u' then numberAt? 4 cs
    else (shortMeanings.lookup sign).map (·, cs)

section Sequences

theorem numberAt?_append (hl : digits.length = width) (hd : digits.all isHexDigit)
    (hv : digitsValue 16 digits = c.toNat) (rest : Text) :
    numberAt? width (digits ++ rest) = some (c, rest) := by
  have hvalid : (digitsValue 16 digits).isValidChar := by
    rw [hv]
    exact c.valid
  rw [numberAt?, List.take_left' hl, List.drop_left' hl, if_pos ⟨hl, hd, hvalid⟩, hv,
    Char.ofNat_toNat]

theorem numberAt?_eq_some (h : numberAt? width cs = some (c, rest)) :
    ∃ digits, cs = digits ++ rest ∧
      ∀ behind, numberAt? width (digits ++ behind) = some (c, behind) := by
  rw [numberAt?, Option.ite_none_right_eq_some] at h
  obtain ⟨⟨hl, hd, hv⟩, he⟩ := h
  cases he
  refine ⟨cs.take width, (List.take_append_drop width cs).symm, ?_⟩
  intro behind
  apply numberAt?_append hl hd
  rw [Char.toNat_ofNat, if_pos hv]

/-- Behind a backslash, the text denotes the character, whatever follows. -/
def Denotes (body : Text) (c : Char) : Prop :=
  ∀ rest, escapeAt? (body ++ rest) = some (c, rest)

theorem denotes_sign (hx : d ≠ 'x') (hu : d ≠ 'u') (h : shortMeanings.lookup d = some c) :
    Denotes [d] c := by
  intro rest
  rw [List.singleton_append, escapeAt?, if_neg hx, if_neg hu, h, Option.map_some]

theorem denotes_hex (hsign : ∀ cs, escapeAt? (d :: cs) = numberAt? width cs) (hw : 0 < width)
    (hc : c.toNat < 16 ^ width) : Denotes (d :: hex width c.toNat) c := by
  intro rest
  have hdigits : (hex width c.toNat).all isHexDigit :=
    List.all_eq_true.2 fun _ hd => isHexDigit_of_mem_hex hd
  rw [List.cons_append, hsign]
  exact numberAt?_append (length_hex hw hc) hdigits (digitsValue_hex width c.toNat) rest

theorem escapeAt?_eq_some (h : escapeAt? cs = some (c, rest)) :
    ∃ body, cs = body ++ rest ∧ body ≠ [] ∧ Denotes body c := by
  cases cs with
  | nil => cases h
  | cons sign cs =>
    rw [escapeAt?] at h
    split at h
    case isTrue hx =>
      subst sign
      obtain ⟨digits, rfl, hread⟩ := numberAt?_eq_some h
      exact ⟨'x' :: digits, rfl, List.cons_ne_nil _ _, hread⟩
    case isFalse hx =>
      split at h
      case isTrue hu =>
        subst sign
        obtain ⟨digits, rfl, hread⟩ := numberAt?_eq_some h
        exact ⟨'u' :: digits, rfl, List.cons_ne_nil _ _, hread⟩
      case isFalse hu =>
        obtain ⟨d, hd, he⟩ := Option.map_eq_some_iff.1 h
        cases he
        exact ⟨[sign], rfl, List.cons_ne_nil _ _, denotes_sign hx hu hd⟩

theorem escapeAt?_length (h : escapeAt? cs = some (c, rest)) : rest.length < cs.length := by
  obtain ⟨body, rfl, hne, -⟩ := escapeAt?_eq_some h
  have hpos := List.length_pos_iff.2 hne
  rw [List.length_append]
  omega

end Sequences

inductive Piece where
  | plain (c : Char)
  | escape (c : Char)

def Piece.char : Piece → Char
  | plain c | escape c => c

variable {ps : List Piece}

/-- The parts of a text, read from left to right. A backslash that starts no escape sequence makes
it unreadable. -/
def scan : Text → Option (List Piece)
  | [] => some []
  | c :: cs =>
    if c = '\\' then
      match h : escapeAt? cs with
      | some (d, rest) =>
        have := escapeAt?_length h
        (scan rest).map (.escape d :: ·)
      | none => none
    else (scan cs).map (.plain c :: ·)
termination_by t => t.length
decreasing_by all_goals simp only [List.length_cons]; omega

def lineEnds : List Char := ['\n', '\r', '\u2028', '\u2029']

/-- What the quoted string denotes whose opening quote stands before the text, and what follows
its closing quote. -/
def quotedAt? : Text → Option (Text × Text)
  | [] => none
  | c :: cs =>
    if c = '\'' then some ([], cs)
    else if c ∈ lineEnds then none
    else if c = '\\' then
      match h : escapeAt? cs with
      | some (d, rest) =>
        have := escapeAt?_length h
        (quotedAt? rest).map (Prod.map (d :: ·) id)
      | none => none
    else (quotedAt? cs).map (Prod.map (c :: ·) id)
termination_by t => t.length
decreasing_by all_goals simp only [List.length_cons]; omega

def literal? : Text → Option (Text × Text)
  | '\'' :: cs => quotedAt? cs
  | _ => none

section Reading

theorem scan_nil : scan [] = some [] := by
  rw [scan]

theorem scan_plain (hc : c ≠ '\\') (cs : Text) :
    scan (c :: cs) = (scan cs).map (.plain c :: ·) := by
  rw [scan, if_neg hc]

theorem scan_escape (h : Denotes body c) (rest : Text) :
    scan ('\\' :: (body ++ rest)) = (scan rest).map (.escape c :: ·) := by
  rw [scan, if_pos rfl]
  split
  case h_1 he =>
    rw [h rest] at he
    cases he
    rfl
  case h_2 he =>
    rw [h rest] at he
    cases he

theorem quotedAt?_plain (hq : c ≠ '\'') (hl : c ∉ lineEnds) (hc : c ≠ '\\') (cs : Text) :
    quotedAt? (c :: cs) = (quotedAt? cs).map (Prod.map (c :: ·) id) := by
  rw [quotedAt?, if_neg hq, if_neg hl, if_neg hc]

theorem quotedAt?_escape (h : Denotes body c) (rest : Text) :
    quotedAt? ('\\' :: (body ++ rest)) = (quotedAt? rest).map (Prod.map (c :: ·) id) := by
  rw [quotedAt?, if_neg (by decide), if_neg (by decide), if_pos rfl]
  split
  case h_1 he =>
    rw [h rest] at he
    cases he
    rfl
  case h_2 he =>
    rw [h rest] at he
    cases he

/-- Between quotes, a text without quotes and line ends outside its escape sequences is the body of
one literal. -/
theorem quotedAt?_of_scan (h : scan body = some ps)
    (hq : ∀ c, Piece.plain c ∈ ps → c ∉ '\'' :: lineEnds) (rest : Text) :
    quotedAt? (body ++ '\'' :: rest) = some (ps.map Piece.char, rest) := by
  fun_induction scan body generalizing ps with
  | case1 =>
    cases h
    rw [List.nil_append, quotedAt?, if_pos rfl, List.map_nil]
  | case2 cs d behind he _ ih =>
    obtain ⟨qs, hqs, rfl⟩ := Option.map_eq_some_iff.1 h
    obtain ⟨written, rfl, -, hd⟩ := escapeAt?_eq_some he
    rw [List.cons_append, List.append_assoc, quotedAt?_escape hd,
      ih hqs fun c hc => hq c (List.mem_cons_of_mem _ hc)]
    rfl
  | case3 => cases h
  | case4 c cs hc ih =>
    obtain ⟨qs, hqs, rfl⟩ := Option.map_eq_some_iff.1 h
    have hplain := hq c List.mem_cons_self
    rw [List.mem_cons, not_or] at hplain
    rw [List.cons_append, quotedAt?_plain hplain.1 hplain.2 hc,
      ih hqs fun d hd => hq d (List.mem_cons_of_mem _ hd)]
    rfl

end Reading

/-- The characters that could end a literal or the element and the attribute that hold it. -/
def delimiters : List Char :=
  ['"', '\'', '\x60', '<', '>', '&', '=', '\x00', '\x08', '\t', '\n', '\x0b', '\x0c', '\r',
    '\u0085', '\u2028', '\u2029']

def patternSigns : List Char :=
  ['\\', '^', '$', '.', '*', '+', '?', '(', ')', '[', ']', '{', '}', '|', '/', '-', ',', ':', '=']

/-- The text `out` stands for `t` in a script, without the barred characters outside its escape
sequences and without delimiters at all. Each slash in it is the end of an escape sequence. -/
structure Encodes (barred : List Char) (t out : Text) : Prop where
  pieces : ∃ ps, scan out = some ps ∧ ps.map Piece.char = t ∧ ∀ c, Piece.plain c ∈ ps → c ∉ barred
  confined : out.Disjoint delimiters
  slashes : ∀ before after, out = before ++ '/' :: after →
    ∃ start, before = start ++ ['\\'] ∧ (scan start).isSome

theorem Encodes.eq (h : Encodes barred t out) (h' : Encodes barred u out) : t = u := by
  obtain ⟨ps, hs, rfl, -⟩ := h.pieces
  obtain ⟨qs, hs', rfl, -⟩ := h'.pieces
  rw [hs] at hs'
  cases hs'
  rfl

theorem mem_of_plain_mem (h : scan t = some ps) (hc : Piece.plain c ∈ ps) : c ∈ t := by
  fun_induction scan t generalizing ps with
  | case1 =>
    cases h
    cases hc
  | case2 cs d rest he _ ih =>
    obtain ⟨qs, hqs, rfl⟩ := Option.map_eq_some_iff.1 h
    obtain ⟨body, rfl, -⟩ := escapeAt?_eq_some he
    have hrest : Piece.plain c ∈ qs := (List.mem_cons.1 hc).resolve_left nofun
    exact List.mem_cons_of_mem _ (List.mem_append_right body (ih hqs hrest))
  | case3 => cases h
  | case4 d cs hd ih =>
    obtain ⟨qs, hqs, rfl⟩ := Option.map_eq_some_iff.1 h
    rcases List.mem_cons.1 hc with he | hm
    · cases he
      exact List.mem_cons_self
    · exact List.mem_cons_of_mem d (ih hqs hm)

theorem Encodes.literal (h : Encodes barred t out) :
    literal? ('\'' :: out ++ ['\'']) = some (t, []) := by
  obtain ⟨ps, hs, rfl, -⟩ := h.pieces
  apply quotedAt?_of_scan hs
  intro c hc hq
  apply h.confined (mem_of_plain_mem hs hc)
  have hall : ('\'' :: lineEnds).all delimiters.contains := by decide
  exact List.contains_iff_mem.1 (List.all_eq_true.1 hall c hq)

section Writing

def escapedChar (p : Char → Bool) (c : Char) : Text :=
  if p c then scriptEscape c else [c]

def pieceOf (p : Char → Bool) (c : Char) : Piece :=
  if p c then .escape c else .plain c

/-- What has to be escaped is, and no more than four digits can say. -/
structure Guards (p : Char → Bool) : Prop where
  delimiters : ∀ c ∈ delimiters, p c
  backslash : p '\\'
  slash : p '/'
  basic : ∀ c, p c → c.toNat < 0x10000

theorem scriptEscape_denotes (hc : c.toNat < 0x10000) :
    ∃ body, scriptEscape c = '\\' :: body ∧ Denotes body c := by
  unfold scriptEscape
  split
  case h_1 => exact ⟨_, rfl, denotes_sign (by decide) (by decide) rfl⟩
  case h_2 => exact ⟨_, rfl, denotes_sign (by decide) (by decide) rfl⟩
  case h_3 => exact ⟨_, rfl, denotes_sign (by decide) (by decide) rfl⟩
  case h_4 => exact ⟨_, rfl, denotes_sign (by decide) (by decide) rfl⟩
  case h_5 => exact ⟨_, rfl, denotes_sign (by decide) (by decide) rfl⟩
  case h_6 => exact ⟨_, rfl, denotes_sign (by decide) (by decide) rfl⟩
  case h_7 =>
    split
    case isTrue hb => exact ⟨_, rfl, denotes_hex (fun _ => rfl) (by decide) hb⟩
    case isFalse => exact ⟨_, rfl, denotes_hex (fun _ => rfl) (by decide) hc⟩

def sequenceSigns : List Char :=
  ['\\', 't', 'n', 'f', 'r', 'x', 'u']

theorem mem_scriptEscape (h : d ∈ scriptEscape c) :
    isHexDigit d ∨ d ∈ sequenceSigns ∨ d = '/' ∧ c = '/' := by
  have hshort {written : Text} (hw : written.all sequenceSigns.contains) (hd : d ∈ written) :
      isHexDigit d ∨ d ∈ sequenceSigns ∨ d = '/' ∧ c = '/' :=
    .inr (.inl (List.contains_iff_mem.1 (List.all_eq_true.1 hw d hd)))
  have hlong {sign : Char} (hs : ['\\', sign].all sequenceSigns.contains) {width : Nat}
      (hd : d ∈ '\\' :: sign :: hex width c.toNat) :
      isHexDigit d ∨ d ∈ sequenceSigns ∨ d = '/' ∧ c = '/' := by
    have hsplit : d ∈ ['\\', sign] ++ hex width c.toNat := hd
    rcases List.mem_append.1 hsplit with hm | hm
    · exact hshort hs hm
    · exact .inl (isHexDigit_of_mem_hex hm)
  unfold scriptEscape at h
  split at h
  case h_1 => exact hshort (by decide) h
  case h_2 => exact hshort (by decide) h
  case h_3 => exact hshort (by decide) h
  case h_4 => exact hshort (by decide) h
  case h_5 =>
    rcases List.mem_cons.1 h with rfl | hm
    · exact .inr (.inl List.mem_cons_self)
    · exact .inr (.inr ⟨List.mem_singleton.1 hm, rfl⟩)
  case h_6 => exact hshort (by decide) h
  case h_7 =>
    split at h
    case isTrue => exact hlong (by decide) h
    case isFalse => exact hlong (by decide) h

theorem not_mem_delimiters (h : isHexDigit d ∨ d ∈ sequenceSigns ∨ d = '/') : d ∉ delimiters := by
  intro hd
  have hall : delimiters.all fun c => !isHexDigit c && !sequenceSigns.contains c && c != '/' := by
    decide
  have hc := List.all_eq_true.1 hall d hd
  simp only [Bool.and_eq_true, Bool.not_eq_true', bne_iff_ne] at hc
  rcases h with hh | hs | hslash
  · rw [hc.1.1] at hh
    cases hh
  · rw [← List.contains_iff_mem, hc.1.2] at hs
    cases hs
  · exact hc.2 hslash

namespace Guards

theorem scan_escapedChar (hp : Guards p) (c : Char) (rest : Text) :
    scan (escapedChar p c ++ rest) = (scan rest).map (pieceOf p c :: ·) := by
  rw [escapedChar, pieceOf]
  split
  case isTrue hc =>
    obtain ⟨body, hb, hd⟩ := scriptEscape_denotes (hp.basic c hc)
    rw [hb, List.cons_append, scan_escape hd]
  case isFalse hc =>
    apply scan_plain
    rintro rfl
    exact hc hp.backslash

theorem scan_flatMap (hp : Guards p) (t : Text) :
    scan (t.flatMap (escapedChar p)) = some (t.map (pieceOf p)) := by
  induction t with
  | nil => exact scan_nil
  | cons c cs ih => rw [List.flatMap_cons, hp.scan_escapedChar, ih, Option.map_some, List.map_cons]

theorem confined (hp : Guards p) (t : Text) :
    (t.flatMap (escapedChar p)).Disjoint Script.delimiters := by
  intro d hd hm
  obtain ⟨c, -, hc⟩ := List.mem_flatMap.1 hd
  rw [escapedChar] at hc
  split at hc
  case isTrue =>
    apply not_mem_delimiters _ hm
    exact (mem_scriptEscape hc).imp_right (.imp_right And.left)
  case isFalse hn =>
    rw [List.mem_singleton.1 hc] at hm
    exact hn (hp.delimiters c hm)

theorem slash_mem (hp : Guards p) (h : '/' ∈ escapedChar p c) : escapedChar p c = ['\\', '/'] := by
  rw [escapedChar] at h ⊢
  split at h
  case isTrue hc =>
    rw [if_pos hc]
    rcases mem_scriptEscape h with hh | hs | ⟨-, rfl⟩
    · cases hh
    · exact absurd hs (by decide)
    · rfl
  case isFalse hc =>
    rw [← List.mem_singleton.1 h] at hc
    exact absurd hp.slash hc

theorem slashes (hp : Guards p) (h : t.flatMap (escapedChar p) = before ++ '/' :: after) :
    ∃ start, before = start ++ ['\\'] ∧ (scan start).isSome := by
  induction t generalizing before with
  | nil => exact absurd h.symm (List.append_ne_nil_of_right_ne_nil before (List.cons_ne_nil _ _))
  | cons c cs ih =>
    rw [List.flatMap_cons] at h
    by_cases hc : '/' ∈ escapedChar p c
    · rw [hp.slash_mem hc] at h
      cases before with
      | nil => cases h
      | cons x more =>
        obtain ⟨rfl, htail⟩ := List.cons.inj h
        cases more with
        | nil => exact ⟨[], rfl, by rw [scan_nil]; rfl⟩
        | cons y mid =>
          -- This slash is behind, and the one that is looked for comes later.
          obtain ⟨rfl, hrest⟩ := List.cons.inj htail
          obtain ⟨start, rfl, hs⟩ := ih hrest
          refine ⟨escapedChar p c ++ start, by rw [hp.slash_mem hc]; rfl, ?_⟩
          rw [hp.scan_escapedChar, Option.isSome_map]
          exact hs
    · obtain ⟨mid, rfl, hm⟩ := append_eq_append_cons h hc
      obtain ⟨start, rfl, hs⟩ := ih hm
      refine ⟨escapedChar p c ++ start, (List.append_assoc _ _ _).symm, ?_⟩
      rw [hp.scan_escapedChar, Option.isSome_map]
      exact hs

theorem encodes (hp : Guards p) (hb : ∀ c ∈ barred, p c) (t : Text) :
    Encodes barred t (t.flatMap (escapedChar p)) where
  pieces := by
    have hchar (c : Char) : (pieceOf p c).char = c := by
      rw [pieceOf]
      split <;> rfl
    refine ⟨_, hp.scan_flatMap t, ?_, ?_⟩
    · rw [List.map_map]
      exact (List.map_congr_left fun c _ => hchar c).trans (List.map_id t)
    · intro c hc hm
      obtain ⟨d, -, hd⟩ := List.mem_map.1 hc
      rw [pieceOf] at hd
      split at hd
      case isTrue => cases hd
      case isFalse hn =>
        cases hd
        exact hn (hb _ hm)
  confined := hp.confined t
  slashes _ _ h := hp.slashes h

end Guards

end Writing

theorem toNat_lt_of_contains {l : List Char} (hl : l.all fun c => c.toNat < 0x10000)
    (hc : l.contains c) : c.toNat < 0x10000 :=
  of_decide_eq_true (List.all_eq_true.1 hl c (List.contains_iff_mem.1 hc))

theorem guards_string : Guards endsScriptString where
  delimiters := List.all_eq_true.1 (by decide)
  backslash := by decide
  slash := by decide
  basic _ hc := toNat_lt_of_contains (by decide) hc

theorem guards_regex : Guards fun c => endsScriptString c || isPatternSign c where
  delimiters c hc := Bool.or_eq_true_iff.2 (.inl (guards_string.delimiters c hc))
  backslash := by decide
  slash := by decide
  basic c hc := by
    rcases Bool.or_eq_true_iff.1 hc with hs | hs
    · exact guards_string.basic c hs
    · exact toNat_lt_of_contains (by decide) hs

theorem encodes_string (t : Text) : Encodes [] t (escapeScriptString t) := by
  apply guards_string.encodes
  intro c hc
  cases hc

theorem encodes_regex (t : Text) : Encodes patternSigns t (escapeScriptRegex t) := by
  apply guards_regex.encodes
  exact List.all_eq_true.1 (by decide)

end SafeOutput.Script

namespace SafeOutput.Sanitizer

open Text Markup Escape Script

/-- Escaped for a script, a text is read back from its escape sequences, so that different texts
stay different. As a value it is one literal that denotes the text, and nothing else. -/
theorem escapeJs_denotes (tags : TagSet) :
    let s : Sanitizer := ⟨.standard, tags⟩
    (∀ t, Encodes [] t (escapeScriptString t)) ∧
      (∀ t, Encodes patternSigns t (escapeScriptRegex t)) ∧
      Function.Injective escapeScriptString ∧ Function.Injective escapeScriptRegex ∧
      (∀ t, literal? (s.escapeJsValue (.str t)) = some (t, [])) ∧
      ∀ c : Content, c.kind ≠ .js →
        literal? (s.escapeJsValue (.content c)) = some (c.text, []) := by
  intro s
  refine ⟨encodes_string, encodes_regex, ?_, ?_, ?_, ?_⟩
  · intro t u h
    have ht := encodes_string t
    rw [h] at ht
    exact ht.eq (encodes_string u)
  · intro t u h
    have ht := encodes_regex t
    rw [h] at ht
    exact ht.eq (encodes_regex u)
  · intro t
    exact (encodes_string t).literal
  · intro c hc
    have hnone : (Value.content c).contentIf? .js = none := if_neg hc
    have hvalue : s.escapeJsValue (.content c) = '\'' :: escapeScriptString c.text ++ ['\''] := by
      unfold escapeJsValue
      rw [hnone]
      rfl
    rw [hvalue]
    exact (encodes_string c.text).literal

theorem escapeJs_denotes_html :
    let c : Content := ⟨"a\\x27'/\u2028</b>".toList, .html, none⟩
    c.kind ≠ .js ∧
      standard.escapeJsValue (.content c) =
        "'a\\\\x27\\x27\\/\\u2028\\x3c\\/b\\x3e'".toList ∧
      literal? (standard.escapeJsValue (.content c)) = some (c.text, []) := by
  intro c
  have hc : c.kind ≠ .js := by decide
  obtain ⟨-, -, -, -, -, hliteral⟩ := escapeJs_denotes .defaultSafe
  exact ⟨hc, by decide, hliteral c hc⟩

end SafeOutput.Sanitizer
