import SafeOutput.Text.Class
import SafeOutput.Text.Fold
import SafeOutput.Text.Lowercase

namespace SafeOutput.Markup

open Text

/-- What counts as a tag: `markup` reads untrusted text, `document` reads trusted documents and also
knows comments that stay on one line. -/
inductive Grammar where
  | markup
  | document
  deriving DecidableEq, Repr

/-- A tag as it stands in the text. Comments and declarations have no name. -/
structure Tag where
  raw : Text
  name : Option Text
  closing : Bool
  attrs : Text
  deriving DecidableEq, Repr

/-- A text falls into tags and the gaps between them. -/
inductive Token where
  | text (gap : Text)
  | tag (it : Tag)
  deriving DecidableEq, Repr

def Token.source : Token → Text
  | .text gap => gap
  | .tag it => it.raw

def Grammar.startsName : Grammar → Char → Bool
  | .markup, c => c.isAlpha
  | .document, c => isFoldedLetter c

def Grammar.continuesName : Grammar → Char → Bool
  | .markup, c => c.isAlphanum || c == ':' || c == '-'
  | .document, c => isWord c || c == ':' || c == '-'

/-- Only documents report the attributes of a tag. -/
def Grammar.report : Grammar → Text → Text
  | .markup, _ => []
  | .document, attrs => attrs

def isQuote (c : Char) : Bool :=
  c == '"' || c == '\''

/-- Splits at the first `>` outside quotes. The state is the quote that is open. -/
def splitTail : Option Char → Text → Option (Text × Text)
  | _, [] => none
  | some q, c :: cs =>
    (splitTail (if c = q then none else some q) cs).map fun (tail, rest) => (c :: tail, rest)
  | none, c :: cs =>
    if c = '>' then some ([], cs)
    else (splitTail (if isQuote c then some c else none) cs).map fun (tail, rest) => (c :: tail, rest)

/-- Splits at the first `-->`, which must come before the end of the line. -/
def splitComment : Text → Option (Text × Text)
  | [] => none
  | c :: cs =>
    if ['-', '-', '>'].isPrefixOf (c :: cs) then some ([], cs.drop 2)
    else if c = '\n' then none
    else (splitComment cs).map fun (body, rest) => (c :: body, rest)

/-- The comment whose `<!` stands before the text; only documents have comments. -/
def Grammar.commentAt : Grammar → Text → Option (Tag × Text)
  | .document, '-' :: '-' :: cs =>
    (splitComment cs).map fun (body, rest) =>
      (⟨"<!--".toList ++ body ++ "-->".toList, none, false, []⟩, rest)
  | _, _ => none

def Grammar.declarationAt (g : Grammar) (cs : Text) : Option (Tag × Text) :=
  (splitTail none cs).map fun (attrs, rest) =>
    (⟨"<!".toList ++ attrs ++ ['>'], none, false, g.report attrs⟩, rest)

/-- The tag of an element whose `<` or `</` stands before the text. The name is taken as long as
possible. -/
def Grammar.elementAt (g : Grammar) (closing : Bool) : Text → Option (Tag × Text)
  | [] => none
  | c :: cs =>
    if g.startsName c then
      let name := c :: cs.takeWhile g.continuesName
      (splitTail none (cs.dropWhile g.continuesName)).map fun (attrs, rest) =>
        (⟨(if closing then "</" else "<").toList ++ name ++ attrs ++ ['>'], some (lowercase name),
          closing, g.report attrs⟩, rest)
    else none

/-- The tag whose `<` stands before the text, and what follows the tag. -/
def Grammar.tagAt (g : Grammar) : Text → Option (Tag × Text)
  | '!' :: cs =>
    match g.commentAt cs with
    | some found => some found
    | none => g.declarationAt cs
  | '/' :: cs => g.elementAt true cs
  | cs => g.elementAt false cs

/-- Puts a character before the tokens, into their first gap if they start with one. -/
def Token.consChar (c : Char) : List Token → List Token
  | .text gap :: ts => .text (c :: gap) :: ts
  | ts => .text [c] :: ts

theorem splitTail_eq_some {q : Option Char} {cs tail rest : Text}
    (h : splitTail q cs = some (tail, rest)) : cs = tail ++ '>' :: rest := by
  fun_induction splitTail q cs generalizing tail with
  | case1 => simp at h
  | case2 q c cs ih =>
    obtain ⟨⟨t, r⟩, ht, he⟩ := Option.map_eq_some_iff.1 h
    obtain ⟨rfl, rfl⟩ := Prod.mk.inj he
    simp [← ih ht]
  | case3 => simp_all
  | case4 c cs hc ih =>
    obtain ⟨⟨t, r⟩, ht, he⟩ := Option.map_eq_some_iff.1 h
    obtain ⟨rfl, rfl⟩ := Prod.mk.inj he
    simp [← ih ht]

theorem splitComment_eq_some {cs body rest : Text} (h : splitComment cs = some (body, rest)) :
    cs = body ++ '-' :: '-' :: '>' :: rest := by
  fun_induction splitComment cs generalizing body with
  | case1 => simp at h
  | case2 c cs hp =>
    obtain ⟨t, ht⟩ := List.isPrefixOf_iff_prefix.1 hp
    simp at h ht
    obtain ⟨rfl, rfl⟩ := h
    simp [← ht.1, ← ht.2]
  | case3 => simp at h
  | case4 c cs _ _ ih =>
    obtain ⟨⟨t, r⟩, ht, he⟩ := Option.map_eq_some_iff.1 h
    obtain ⟨rfl, rfl⟩ := Prod.mk.inj he
    simp [← ih ht]

theorem Grammar.commentAt_raw {g : Grammar} {cs rest : Text} {tag : Tag}
    (h : g.commentAt cs = some (tag, rest)) : '<' :: '!' :: cs = tag.raw ++ rest := by
  unfold commentAt at h
  split at h
  · obtain ⟨⟨b, r⟩, hb, he⟩ := Option.map_eq_some_iff.1 h
    obtain ⟨rfl, rfl⟩ := Prod.mk.inj he
    simp [splitComment_eq_some hb]
  · simp at h

theorem Grammar.declarationAt_raw {g : Grammar} {cs rest : Text} {tag : Tag}
    (h : g.declarationAt cs = some (tag, rest)) : '<' :: '!' :: cs = tag.raw ++ rest := by
  obtain ⟨⟨b, r⟩, hb, he⟩ := Option.map_eq_some_iff.1 h
  obtain ⟨rfl, rfl⟩ := Prod.mk.inj he
  simp [splitTail_eq_some hb]

theorem Grammar.elementAt_raw {g : Grammar} {closing : Bool} {cs rest : Text} {tag : Tag}
    (h : g.elementAt closing cs = some (tag, rest)) :
    (if closing then "</" else "<").toList ++ cs = tag.raw ++ rest := by
  unfold elementAt at h
  split at h
  · simp at h
  case h_2 c cs =>
    split at h
    · obtain ⟨⟨b, r⟩, hb, he⟩ := Option.map_eq_some_iff.1 h
      obtain ⟨rfl, rfl⟩ := Prod.mk.inj he
      have ht : cs.takeWhile g.continuesName ++ (b ++ '>' :: r) = cs := by
        rw [← splitTail_eq_some hb, List.takeWhile_append_dropWhile]
      simp [ht]
    · simp at h

/-- A tag and what follows it make up the text. -/
theorem Grammar.tagAt_raw {g : Grammar} {cs rest : Text} {tag : Tag}
    (h : g.tagAt cs = some (tag, rest)) : '<' :: cs = tag.raw ++ rest := by
  unfold tagAt at h
  split at h
  · split at h
    case h_1 hc =>
      rw [h] at hc
      exact commentAt_raw hc
    · exact declarationAt_raw h
  · simpa using elementAt_raw h
  · simpa using elementAt_raw h

theorem Grammar.commentAt_shape {g : Grammar} {cs rest : Text} {tag : Tag}
    (h : g.commentAt cs = some (tag, rest)) : ∃ mid, tag.raw = '<' :: mid ++ ['>'] := by
  unfold commentAt at h
  split at h
  · obtain ⟨⟨b, r⟩, -, he⟩ := Option.map_eq_some_iff.1 h
    obtain ⟨rfl, rfl⟩ := Prod.mk.inj he
    exact ⟨"!--".toList ++ b ++ "--".toList, by simp⟩
  · simp at h

theorem Grammar.declarationAt_shape {g : Grammar} {cs rest : Text} {tag : Tag}
    (h : g.declarationAt cs = some (tag, rest)) : ∃ mid, tag.raw = '<' :: mid ++ ['>'] := by
  obtain ⟨⟨b, r⟩, -, he⟩ := Option.map_eq_some_iff.1 h
  obtain ⟨rfl, rfl⟩ := Prod.mk.inj he
  exact ⟨'!' :: b, by simp⟩

theorem Grammar.elementAt_shape {g : Grammar} {closing : Bool} {cs rest : Text} {tag : Tag}
    (h : g.elementAt closing cs = some (tag, rest)) : ∃ mid, tag.raw = '<' :: mid ++ ['>'] := by
  unfold elementAt at h
  split at h
  · simp at h
  case h_2 c cs =>
    split at h
    · obtain ⟨⟨b, r⟩, -, he⟩ := Option.map_eq_some_iff.1 h
      obtain ⟨rfl, rfl⟩ := Prod.mk.inj he
      cases closing with
      | false => exact ⟨c :: cs.takeWhile g.continuesName ++ b, by simp⟩
      | true => exact ⟨'/' :: c :: cs.takeWhile g.continuesName ++ b, by simp⟩
    · simp at h

/-- A tag starts with `<` and ends with `>`. -/
theorem Grammar.tagAt_shape {g : Grammar} {cs rest : Text} {tag : Tag}
    (h : g.tagAt cs = some (tag, rest)) : ∃ mid, tag.raw = '<' :: mid ++ ['>'] := by
  unfold tagAt at h
  split at h
  · split at h
    case h_1 hc =>
      rw [h] at hc
      exact commentAt_shape hc
    · exact declarationAt_shape h
  · exact elementAt_shape h
  · exact elementAt_shape h

theorem Grammar.tagAt_length {g : Grammar} {cs rest : Text} {tag : Tag}
    (h : g.tagAt cs = some (tag, rest)) : rest.length < cs.length := by
  obtain ⟨mid, hm⟩ := tagAt_shape h
  have hr := congrArg List.length (tagAt_raw h)
  simp [hm] at hr
  omega

/-- The tags of a text and the gaps between them, in order. -/
def Grammar.tokens (g : Grammar) : Text → List Token
  | [] => []
  | c :: cs =>
    if c = '<' then
      match h : g.tagAt cs with
      | some (tag, rest) =>
        have := tagAt_length h
        .tag tag :: g.tokens rest
      | none => Token.consChar c (g.tokens cs)
    else Token.consChar c (g.tokens cs)
termination_by cs => cs.length

/-- Where a token stands, counted in bytes. -/
structure Span where
  start : Nat
  stop : Nat
  deriving DecidableEq, Repr

/-- The tokens with their places, the first of them at `start`. -/
def spansFrom (start : Nat) : List Token → List (Token × Span)
  | [] => []
  | t :: ts =>
    let stop := start + byteSize t.source
    (t, ⟨start, stop⟩) :: spansFrom stop ts

def spans (ts : List Token) : List (Token × Span) :=
  spansFrom 0 ts

end SafeOutput.Markup
