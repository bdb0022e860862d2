import Mathlib
import SafeOutput.Proofs.Decoding
import SafeOutput.Proofs.Numeral
import SafeOutput.Proofs.NameFilter

namespace SafeOutput.Text

variable {c : Char}

def isAscii (c : Char) : Bool :=
  c.toNat < 128

def IsAscii (t : Text) : Prop :=
  ∀ c ∈ t, isAscii c

instance (t : Text) : Decidable (IsAscii t) :=
  decidable_of_iff (t.all isAscii) List.all_eq_true

/-- The characters beyond ASCII that fold to ASCII letters. -/
def foldStrays : List Char := ['\u017f', '\u212a']

theorem isAscii_iff : isAscii c ↔ c.toNat < 128 :=
  decide_eq_true_iff

theorem isAscii_of_isAlphanum (h : c.isAlphanum) : isAscii c :=
  isAscii_iff.2 (ascii_of_isAlphanum h)

theorem isAscii_of_isDigit (h : c.isDigit) : isAscii c :=
  isAscii_of_isAlphanum (isAlphanum_iff.2 (.inr h))

theorem isAscii_of_isHexDigit (h : isHexDigit c) : isAscii c := by
  apply isAscii_of_isAlphanum
  exact isAlphanum_of_isHexDigit h

theorem isAscii_of_foldChar (h : isAscii (foldChar c)) : isAscii c ∨ c ∈ foldStrays := by
  by_cases hm : c ∈ foldStrays
  · exact .inr hm
  rw [foldStrays, List.mem_cons, List.mem_singleton, not_or] at hm
  obtain ⟨hs, hk⟩ := hm
  rw [foldChar, beq_eq_false_iff_ne.2 hs, beq_eq_false_iff_ne.2 hk, if_neg Bool.false_ne_true,
    if_neg Bool.false_ne_true] at h
  by_cases hu : c.isUpper
  · exact .inl (isAscii_of_isAlphanum (isAlphanum_of_isUpper hu).1)
  · rw [Char.toLower_eq_of_not_isUpper hu] at h
    exact .inl h

theorem isAscii_of_isFoldedAlphanum (h : isFoldedAlphanum c) : isAscii c ∨ c ∈ foldStrays := by
  rcases isFoldedAlphanum_iff.1 h with ha | rfl | rfl
  · exact .inl (isAscii_of_isAlphanum ha)
  · exact .inr (by decide)
  · exact .inr (by decide)

end SafeOutput.Text

namespace SafeOutput.Accept

open Text

variable {c : Char} {t : Text}

def FoldsToAscii (t : Text) : Prop :=
  ∀ c ∈ t, isAscii c ∨ c ∈ foldStrays

section Folded

theorem FoldsToAscii.of_dropFolded? {word rest : Text} (hw : word.all isAscii)
    (h : dropFolded? word t = some rest) (hrest : FoldsToAscii rest) : FoldsToAscii t := by
  obtain ⟨u, rfl, rfl⟩ := dropFolded?_eq_some h
  refine List.forall_mem_append.2 ⟨?_, hrest⟩
  intro c hc
  apply isAscii_of_foldChar
  exact List.all_eq_true.1 hw _ (List.mem_map_of_mem hc)

theorem foldsToAscii_of_isBase64 (h : isBase64 t) : FoldsToAscii t := by
  rw [isBase64, Bool.and_eq_true] at h
  rw [← t.takeWhile_append_dropWhile (p := isBase64Char)]
  refine List.forall_mem_append.2 ⟨?_, ?_⟩
  · intro c hc
    have hb := List.mem_takeWhile_imp hc
    simp only [isBase64Char, Bool.or_eq_true, beq_iff_eq] at hb
    rcases hb with (ha | rfl) | rfl
    · exact isAscii_of_isFoldedAlphanum ha
    · exact .inl (by decide)
    · exact .inl (by decide)
  · intro c hc
    have he := List.all_eq_true.1 h.2 c hc
    rw [eq_of_beq he]
    exact .inl (by decide)

theorem foldsToAscii_of_isBase64Part (h : isBase64Part t) : FoldsToAscii t := by
  obtain ⟨data, hdata, hbase⟩ := (Option.any_eq_true _ _).1 h
  exact .of_dropFolded? (by decide) hdata (foldsToAscii_of_isBase64 hbase)

theorem foldsToAscii_of_isImageData (h : isImageData t) : FoldsToAscii t := by
  obtain ⟨format, hformat, hrest⟩ := List.any_eq_true.1 h
  obtain ⟨rest, hdrop, hpart⟩ := (Option.any_eq_true _ _).1 hrest
  have hall : ["bmp", "gif", "jpg", "jpeg", "png", "tiff", "webp", "x-icon"].all fun format =>
      ("data:image/" ++ format).toList.all isAscii := by decide
  have hword := List.all_eq_true.1 hall format hformat
  exact .of_dropFolded? hword hdrop (foldsToAscii_of_isBase64Part hpart)

theorem isAscii_of_isDialChar (h : isDialChar c) : isAscii c ∨ c ∈ foldStrays := by
  rw [isDialChar, Bool.or_eq_true] at h
  rcases h with ha | hm
  · exact isAscii_of_isFoldedAlphanum ha
  · left
    exact (List.all_eq_true (p := isAscii)).1 (by decide) c (List.contains_iff_mem.1 hm)

theorem foldsToAscii_of_isDialString (h : isDialString t) : FoldsToAscii t := by
  fun_induction isDialString t with
  | case1 => exact List.forall_mem_nil _
  | case2 a b cs ih =>
    rw [Bool.and_eq_true, Bool.and_eq_true] at h
    obtain ⟨⟨ha, hb⟩, hcs⟩ := h
    rw [FoldsToAscii, List.forall_mem_cons, List.forall_mem_cons, List.forall_mem_cons]
    exact ⟨.inl (by decide), .inl (isAscii_of_isHexDigit ha), .inl (isAscii_of_isHexDigit hb),
      ih hcs⟩
  | case3 c cs _ ih =>
    rw [Bool.and_eq_true] at h
    exact List.forall_mem_cons.2 ⟨isAscii_of_isDialChar h.1, ih h.2⟩

theorem foldsToAscii_of_isDialUri {scheme : String} (hs : (scheme.toList ++ [':']).all isAscii)
    (h : isDialUri scheme t) : FoldsToAscii t := by
  obtain ⟨rest, hdrop, hdial⟩ := (Option.any_eq_true _ _).1 h
  exact .of_dropFolded? hs hdrop (foldsToAscii_of_isDialString hdial)

theorem foldsToAscii_of_isName (h : Names.IsName t) : FoldsToAscii t := by
  intro c hc
  rcases h.chars c hc with ha | hm
  · exact .inl (isAscii_of_isAlphanum ha)
  · have hall : Names.nameSigns.all fun c => isAscii c || foldStrays.contains c := by decide
    have hsign := List.all_eq_true.1 hall c hm
    rw [Bool.or_eq_true, List.contains_iff_mem] at hsign
    exact hsign

end Folded

theorem isAscii_of_isNonce (h : isNonce t) : IsAscii t := by
  rw [isNonce, Bool.and_eq_true, Bool.and_eq_true] at h
  intro c hc
  rw [← t.takeWhile_append_dropWhile (p := isNonceChar)] at hc
  rcases List.mem_append.1 hc with hm | hm
  · have hn := List.mem_takeWhile_imp hm
    simp only [isNonceChar, Bool.or_eq_true, beq_iff_eq] at hn
    rcases hn with (((ha | rfl) | rfl) | rfl) | rfl
    · exact isAscii_of_isAlphanum ha
    all_goals decide
  · rw [eq_of_beq (List.all_eq_true.1 h.1.2 c hm)]
    decide

section Numbers

/-- Digits of a class in which one point may stand, but not at the end. -/
inductive Numeral (isDigit : Char → Bool) : Text → Prop where
  | plain {digits : Text} (hne : digits ≠ []) (hd : ∀ c ∈ digits, isDigit c) :
      Numeral isDigit digits
  | pointed {whole fraction : Text} (hw : ∀ c ∈ whole, isDigit c) (hne : fraction ≠ [])
      (hf : ∀ c ∈ fraction, isDigit c) : Numeral isDigit (whole ++ '.' :: fraction)

variable {isDigit : Char → Bool}

theorem numeral_of_isNumber (h : isNumber t) : Numeral isDecimalDigit t := by
  have hsplit := t.takeWhile_append_dropWhile (p := isDecimalDigit)
  have hwhole : ∀ c ∈ t.takeWhile isDecimalDigit, isDecimalDigit c :=
    fun c hc => List.mem_takeWhile_imp hc
  unfold isNumber at h
  split at h
  case h_1 hnil =>
    rw [hnil, List.append_nil] at hsplit
    rw [hsplit] at hwhole
    apply Numeral.plain _ hwhole
    rintro rfl
    cases h
  case h_2 fraction hpoint =>
    rw [Bool.and_eq_true, Bool.not_eq_true', List.isEmpty_eq_false_iff] at h
    rw [hpoint] at hsplit
    rw [← hsplit]
    exact .pointed hwhole h.1 (List.all_eq_true.1 h.2)
  case h_3 => cases h

theorem isNumber_of_numeral (h : Numeral isDecimalDigit t) : isNumber t := by
  cases h with
  | plain hne ht =>
    have hdrop : (t ++ []).dropWhile isDecimalDigit = [] := dropWhile_append_stop ht nofun
    rw [List.append_nil] at hdrop
    rw [isNumber, hdrop]
    cases t with
    | nil => exact absurd rfl hne
    | cons c cs => rfl
  | @pointed whole fraction hw hne hf =>
    have hdrop : (whole ++ '.' :: fraction).dropWhile isDecimalDigit = '.' :: fraction := by
      apply dropWhile_append_stop hw
      intro c hc
      cases hc
      decide
    rw [isNumber, hdrop]
    change (!fraction.isEmpty && fraction.all isDecimalDigit) = true
    rw [Bool.and_eq_true, Bool.not_eq_true', List.isEmpty_eq_false_iff]
    exact ⟨hne, List.all_eq_true.2 hf⟩

theorem isNumber_iff : isNumber t ↔ Numeral isDecimalDigit t :=
  ⟨numeral_of_isNumber, isNumber_of_numeral⟩

theorem Numeral.mono {isDigit' : Char → Bool} (hsub : ∀ c ∈ t, isDigit c → isDigit' c)
    (h : Numeral isDigit t) : Numeral isDigit' t := by
  cases h with
  | plain hne ht =>
    apply Numeral.plain hne
    intro c hc
    exact hsub c hc (ht c hc)
  | pointed hw hne hf =>
    refine .pointed ?_ hne ?_
    · intro c hc
      exact hsub c (List.mem_append_left _ hc) (hw c hc)
    · intro c hc
      exact hsub c (List.mem_append_right _ (List.mem_cons_of_mem _ hc)) (hf c hc)

theorem Numeral.chars (h : Numeral isDigit t) : ∀ c ∈ t, isDigit c ∨ c = '.' := by
  cases h with
  | plain hne ht =>
    intro c hc
    exact .inl (ht c hc)
  | pointed hw hne hf =>
    intro c hc
    rcases List.mem_append.1 hc with hm | hm
    · exact .inl (hw c hm)
    · rcases List.mem_cons.1 hm with rfl | hm
      · exact .inr rfl
      · exact .inl (hf c hm)

theorem isDigit_of_isDecimalDigit (h : isDecimalDigit c) (ha : isAscii c) : c.isDigit := by
  rw [isDecimalDigit, Bool.or_eq_true] at h
  rcases h with hd | hr
  · exact hd
  · obtain ⟨r, hm, hin⟩ := List.any_eq_true.1 hr
    have hall : digitRanges.all fun r => r == (0x30, 0x39) || 128 ≤ r.1 := by decide
    have hrange := List.all_eq_true.1 hall r hm
    simp only [Bool.or_eq_true, beq_iff_eq, Bool.and_eq_true, decide_eq_true_iff] at hrange hin
    rw [isAscii_iff] at ha
    rcases hrange with rfl | hbeyond
    · exact isDigit_iff.2 hin
    · omega

theorem Numeral.isAscii_iff (h : Numeral isDecimalDigit t) :
    IsAscii t ↔ Numeral Char.isDigit t := by
  constructor
  · intro ha
    apply h.mono
    intro c hc hd
    exact isDigit_of_isDecimalDigit hd (ha c hc)
  · intro hn c hc
    rcases hn.chars c hc with hd | rfl
    · exact isAscii_of_isDigit hd
    · decide

end Numbers

section Reading

/-- The number of the digits behind a point, the first of which counts `unit`. -/
def readFraction? (unit : ℚ) : Text → Option ℚ
  | [] => some 0
  | c :: cs =>
    if c.isDigit then (readFraction? (unit / 10) cs).map (hexValue c * unit + ·) else none

/-- The number that a reader of decimal literals makes of a whole text, behind digits that count
`n`. -/
def readNumber? (n : Nat) : Text → Option ℚ
  | [] => some n
  | c :: cs =>
    if c.isDigit then readNumber? (10 * n + hexValue c) cs
    else if c = '.' then (readFraction? (1 / 10) cs).map (n + ·)
    else none

/-- The number that the digits of a literal denote without its point, over a power of ten for those
behind the point. -/
def literalValue (t : Text) : ℚ :=
  digitsValue 10 (t.filter (· != '.')) / 10 ^ (t.dropWhile (· != '.')).tail.length

variable {n : Nat} {whole fraction : Text}

theorem readFraction?_digits (hf : ∀ c ∈ fraction, c.isDigit) (unit : ℚ) :
    readFraction? unit fraction =
      some (digitsValue 10 fraction * (10 * unit) / 10 ^ fraction.length) := by
  induction fraction generalizing unit with
  | nil => simp [readFraction?, digitsValue]
  | cons c cs ih =>
    obtain ⟨hc, hcs⟩ := List.forall_mem_cons.1 hf
    rw [readFraction?, if_pos hc, ih hcs, Option.map_some, digitsValue_cons, List.length_cons,
      Option.some.injEq]
    push_cast
    field_simp
    ring

theorem readNumber?_digits (hw : ∀ c ∈ whole, c.isDigit) (n : Nat) (rest : Text) :
    readNumber? n (whole ++ rest) =
      readNumber? (n * 10 ^ whole.length + digitsValue 10 whole) rest := by
  induction whole generalizing n with
  | nil => simp [digitsValue]
  | cons c cs ih =>
    obtain ⟨hc, hcs⟩ := List.forall_mem_cons.1 hw
    rw [List.cons_append, readNumber?, if_pos hc, ih hcs, digitsValue_cons, List.length_cons]
    congr 1
    ring

theorem readFraction?_stray (hc : c ∈ fraction) (hd : ¬c.isDigit) (unit : ℚ) :
    readFraction? unit fraction = none := by
  induction fraction generalizing unit with
  | nil => cases hc
  | cons d ds ih =>
    rw [readFraction?]
    rcases List.mem_cons.1 hc with rfl | hm
    · exact if_neg hd
    · rw [ih hm, Option.map_none, ite_self]

theorem readNumber?_stray (hc : c ∈ t) (hd : ¬c.isDigit) (hp : c ≠ '.') (n : Nat) :
    readNumber? n t = none := by
  induction t generalizing n with
  | nil => cases hc
  | cons d ds ih =>
    rw [readNumber?]
    rcases List.mem_cons.1 hc with rfl | hm
    · rw [if_neg hd, if_neg hp]
    · rw [ih hm, readFraction?_stray hm hd, Option.map_none, ite_self, ite_self]

theorem ne_point_of_isDigit (hd : ∀ c ∈ t, c.isDigit) : ∀ c ∈ t, (c != '.') = true := by
  intro c hc
  rw [bne_iff_ne]
  rintro rfl
  exact absurd (hd _ hc) (by decide)

theorem literalValue_plain (hd : ∀ c ∈ t, c.isDigit) : literalValue t = digitsValue 10 t := by
  have hp := ne_point_of_isDigit hd
  rw [literalValue, List.filter_eq_self.2 hp, List.dropWhile_eq_nil_iff.2 hp]
  simp

theorem literalValue_pointed (hw : ∀ c ∈ whole, c.isDigit) (hf : ∀ c ∈ fraction, c.isDigit) :
    literalValue (whole ++ '.' :: fraction) =
      digitsValue 10 (whole ++ fraction) / 10 ^ fraction.length := by
  have hpw := ne_point_of_isDigit hw
  have hpf := ne_point_of_isDigit hf
  have hdrop : (whole ++ '.' :: fraction).dropWhile (· != '.') = '.' :: fraction := by
    apply dropWhile_append_stop hpw
    intro c hc
    cases hc
    rfl
  rw [literalValue, hdrop, List.filter_append, List.filter_cons_of_neg (by decide),
    List.filter_eq_self.2 hpw, List.filter_eq_self.2 hpf, List.tail_cons]

/-- A decimal literal is read as the number that its digits denote. -/
theorem Numeral.read_eq (h : Numeral Char.isDigit t) :
    readNumber? 0 t = some (literalValue t) := by
  cases h with
  | plain hne hd =>
    have hread := readNumber?_digits hd 0 []
    rw [List.append_nil, Nat.zero_mul, Nat.zero_add] at hread
    rw [hread, literalValue_plain hd]
    rfl
  | pointed hw hne hf =>
    rw [readNumber?_digits hw, literalValue_pointed hw hf, digitsValue_append, readNumber?,
      if_neg (by decide), if_pos rfl, readFraction?_digits hf, Option.map_some,
      Option.some.injEq]
    push_cast
    field_simp
    ring

/-- A character beyond ASCII leaves no number to read. -/
theorem readNumber?_of_not_isAscii (ha : ¬IsAscii t) : readNumber? 0 t = none := by
  rw [IsAscii, not_forall₂] at ha
  obtain ⟨c, hc, hbeyond⟩ := ha
  apply readNumber?_stray hc
  · intro hd
    exact hbeyond (isAscii_of_isDigit hd)
  · rintro rfl
    exact hbeyond (by decide)

end Reading

end SafeOutput.Accept

namespace SafeOutput.FilterContext

open Text Accept

variable {context : FilterContext} {t : Text}

def foldedContexts : List FilterContext :=
  [.imageDataUri, .telUri, .smsUri, .sipUri, .htmlAttributes, .htmlElementName]

/-- What a context emits for a text is ASCII unless it accepts the text with strays in it. Beyond
ASCII it emits strays and nothing else, and each of them for some text. -/
structure Emits (context : FilterContext) (stray : Char → Prop) (t : Text) : Prop where
  ascii : IsAscii (Encoder.standard.filter context t).value ↔
    (context.accepts t → ∀ c ∈ t, ¬stray c)
  chars : ∀ c ∈ (Encoder.standard.filter context t).value, isAscii c ∨ stray c
  strays : ∀ c, stray c →
    ¬isAscii c ∧ ∃ u, (Encoder.standard.filter context u).value = u ∧ c ∈ u

section Emission

variable {stray : Char → Prop} (hemit : context.emit = id)
  (hsentinel : context.sentinel.all isAscii)
  (hchars : ∀ t, context.accepts t → ∀ c ∈ t, isAscii c ∨ stray c)
  (hstray : ∀ c, stray c → ¬isAscii c ∧ ∃ u, context.accepts u ∧ c ∈ u)

include hemit in
theorem value_of_accepts (ha : context.accepts t) :
    (Encoder.standard.filter context t).value = t := by
  have hfilter := filter_of_accepts ha
  rw [hemit] at hfilter
  exact hfilter

include hemit hsentinel hchars hstray

theorem emits_of_accepts (t : Text) : context.Emits stray t := by
  have hbeyond : ∀ c, stray c →
      ¬isAscii c ∧ ∃ u, (Encoder.standard.filter context u).value = u ∧ c ∈ u := by
    intro c hc
    obtain ⟨hnot, u, ha, hm⟩ := hstray c hc
    exact ⟨hnot, u, value_of_accepts hemit ha, hm⟩
  cases ha : context.accepts t with
  | true =>
    refine ⟨?_, ?_, hbeyond⟩
    · rw [value_of_accepts hemit ha]
      constructor
      · intro hascii _ c hc hs
        exact (hstray c hs).1 (hascii c hc)
      · intro hnone c hc
        exact (hchars t ha c hc).resolve_right (hnone ha c hc)
    · rw [value_of_accepts hemit ha]
      exact hchars t ha
  | false =>
    have hvalue : (Encoder.standard.filter context t).value = context.sentinel :=
      filter_of_refused ha
    have hplain : IsAscii context.sentinel := List.all_eq_true.1 hsentinel
    refine ⟨?_, ?_, hbeyond⟩
    · rw [hvalue, ha]
      exact iff_of_true hplain nofun
    · rw [hvalue]
      intro c hc
      exact .inl (hplain c hc)

end Emission

def lead : FilterContext → Text
  | .imageDataUri => "data:image/png;base64,".toList
  | .telUri => "tel:".toList
  | .smsUri => "sms:".toList
  | .sipUri => "sip:".toList
  | _ => []

theorem foldsToAscii_of_accepts (hc : context ∈ foldedContexts) (ha : context.accepts t) :
    FoldsToAscii t := by
  simp only [foldedContexts, List.mem_cons, List.not_mem_nil, or_false] at hc
  rcases hc with rfl | rfl | rfl | rfl | rfl | rfl
  · exact foldsToAscii_of_isImageData ha
  · exact foldsToAscii_of_isDialUri (by decide) ha
  · exact foldsToAscii_of_isDialUri (by decide) ha
  · exact foldsToAscii_of_isDialUri (by decide) ha
  · exact foldsToAscii_of_isName (Names.isSafeAttributeName_iff.1 ha).1
  · exact foldsToAscii_of_isName (Names.isSafeElementName_iff.1 ha).1

theorem emits_folded (hc : context ∈ foldedContexts) (t : Text) :
    context.Emits (· ∈ foldStrays) t := by
  have hplain : foldedContexts.all fun context => context.sentinel.all isAscii := by decide
  have hstrays : foldStrays.all (!isAscii ·) := by decide
  have hlead : foldedContexts.all fun context =>
      foldStrays.all fun c => context.accepts (context.lead ++ [c]) := by decide +kernel
  apply emits_of_accepts
  · simp only [foldedContexts, List.mem_cons, List.not_mem_nil, or_false] at hc
    rcases hc with rfl | rfl | rfl | rfl | rfl | rfl <;> rfl
  · exact List.all_eq_true.1 hplain context hc
  · intro t ha
    exact foldsToAscii_of_accepts hc ha
  · intro c hm
    refine ⟨?_, context.lead ++ [c], ?_, List.mem_append_right _ List.mem_cons_self⟩
    · rw [Bool.not_eq_true]
      exact (Bool.not_eq_true' _).mp (List.all_eq_true.1 hstrays c hm)
    · exact List.all_eq_true.1 (List.all_eq_true.1 hlead context hc) c hm

theorem emits_cspNonce (t : Text) : cspNonce.Emits (fun _ => False) t := by
  apply emits_of_accepts rfl (by decide)
  · intro t ha c hc
    exact .inl (isAscii_of_isNonce ha c hc)
  · intro c hc
    exact hc.elim

theorem emits_number (t : Text) : number.Emits (fun c => isDecimalDigit c ∧ ¬isAscii c) t := by
  apply emits_of_accepts rfl (by decide)
  · intro t ha c hc
    by_cases hascii : isAscii c
    · exact .inl hascii
    · rcases (isNumber_iff.1 ha).chars c hc with hd | rfl
      · exact .inr ⟨hd, hascii⟩
      · exact .inl (by decide)
  · rintro c ⟨hd, hbeyond⟩
    refine ⟨hbeyond, [c], ?_, List.mem_cons_self⟩
    apply isNumber_of_numeral
    exact .plain (List.cons_ne_nil c []) (List.forall_mem_singleton.2 hd)

/-- The filters that emit what they accept let through a few characters beyond ASCII. Names and
addresses may hold the two characters that fold to ASCII letters; nonces hold none. A number is a
numeral in the decimal digits of any script. It is read as the number that it denotes exactly if its
digits are ASCII, and is no number to a reader else. -/
theorem filter_ascii_exact (t : Text) :
    (∀ context ∈ foldedContexts, context.Emits (· ∈ foldStrays) t) ∧
      cspNonce.Emits (fun _ => False) t ∧
      number.Emits (fun c => isDecimalDigit c ∧ ¬isAscii c) t ∧
      (number.accepts t ↔ Numeral isDecimalDigit t) ∧
      (number.accepts t → (IsAscii t ↔ Numeral Char.isDigit t) ∧
        readNumber? 0 t = if IsAscii t then some (literalValue t) else none) := by
  refine ⟨fun context hc => emits_folded hc t, emits_cspNonce t, emits_number t, isNumber_iff, ?_⟩
  intro ha
  have hn := isNumber_iff.1 ha
  refine ⟨hn.isAscii_iff, ?_⟩
  split
  case isTrue hascii => exact (hn.isAscii_iff.1 hascii).read_eq
  case isFalse hbeyond => exact readNumber?_of_not_isAscii hbeyond

/-- A digit of another script is emitted as a number, and the Kelvin sign in names and addresses. -/
theorem filter_ascii_stray :
    let f := fun context t => (Encoder.standard.filter context t).value
    let three := "\u0663".toList
    f .number three = three ∧ ¬IsAscii three ∧ readNumber? 0 three = none ∧
      foldedContexts.all fun context =>
        !(f context (context.lead ++ ['\u212a'])).all isAscii := by
  intro f three
  have hbeyond : ¬IsAscii three := by decide
  exact ⟨by decide +kernel, hbeyond, readNumber?_of_not_isAscii hbeyond, by decide +kernel⟩

end SafeOutput.FilterContext
