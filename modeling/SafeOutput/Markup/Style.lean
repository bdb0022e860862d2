import SafeOutput.Markup.Token

namespace SafeOutput.Markup

open Text

/-- Reads something at the head of a text, and takes at least one character of it. -/
structure Finder (α : Type) where
  readAt : Text → Option (α × Text)
  shortens : ∀ {cs rest : Text} {a : α}, readAt cs = some (a, rest) → rest.length < cs.length

namespace Finder

variable {α : Type} {a : α} {c : Char} {cs rest : Text}

/-- All that is read from left to right. Where nothing can be read, a character is passed over. -/
def findAll (r : Finder α) : Text → List α
  | [] => []
  | c :: cs =>
    match h : r.readAt (c :: cs) with
    | some (a, rest) =>
      have : rest.length ≤ cs.length := Nat.le_of_lt_succ (r.shortens h)
      a :: r.findAll rest
    | none => r.findAll cs
termination_by cs => cs.length

theorem findAll_nil (r : Finder α) : r.findAll [] = [] := by
  rw [findAll]

theorem findAll_of_some (r : Finder α) (h : r.readAt cs = some (a, rest)) :
    r.findAll cs = a :: r.findAll rest := by
  cases cs with
  | nil => exact absurd (r.shortens h) (Nat.not_lt_zero _)
  | cons c cs =>
    rw [findAll]
    split
    case h_1 he =>
      rw [h] at he
      cases he
      rfl
    case h_2 he =>
      rw [h] at he
      cases he

theorem findAll_of_none (r : Finder α) (h : r.readAt (c :: cs) = none) :
    r.findAll (c :: cs) = r.findAll cs := by
  rw [findAll]
  split
  case h_1 he =>
    rw [h] at he
    cases he
  case h_2 => rfl

end Finder

def isAttributeChar (c : Char) : Bool :=
  c.isAlphanum || c == ':' || c == '\\' || c == '-'

/-- The text between the quotes at the head, and what follows them. -/
def quotedAt : Text → Option (Text × Text)
  | [] => none
  | q :: cs =>
    if isQuote q then
      match cs.dropWhile (· != q) with
      | [] => none
      | _ :: rest => some (cs.takeWhile (· != q), rest)
    else none

/-- An attribute with a quoted value at the head: its name and value, and what follows it. -/
def attributeAt : Text → Option ((Text × Text) × Text)
  | [] => none
  | c :: cs =>
    if c.isAlpha then
      match (cs.dropWhile isAttributeChar).dropWhile isHtmlSpace with
      | '=' :: r =>
        (quotedAt (r.dropWhile isHtmlSpace)).map fun (value, rest) =>
          ((c :: cs.takeWhile isAttributeChar, value), rest)
      | _ => none
    else none

theorem quotedAt_length {cs value rest : Text} (h : quotedAt cs = some (value, rest)) :
    rest.length < cs.length := by
  unfold quotedAt at h
  split at h
  · simp at h
  case h_2 q cs =>
    split at h
    · have hl := (cs.dropWhile_sublist (· != q)).length_le
      split at h
      · simp at h
      case h_2 hd => simp at h; simp [hd, h.2] at hl ⊢; omega
    · simp at h

theorem attributeAt_length {cs rest : Text} {a : Text × Text}
    (h : attributeAt cs = some (a, rest)) : rest.length < cs.length := by
  unfold attributeAt at h
  split at h
  · simp at h
  case h_2 c cs =>
    split at h
    · split at h
      case h_1 r hd =>
        obtain ⟨⟨v, r'⟩, hq, he⟩ := Option.map_eq_some_iff.1 h
        simp at he
        have h₁ := quotedAt_length hq
        have h₂ := (r.dropWhile_sublist isHtmlSpace).length_le
        have h₃ := ((cs.dropWhile isAttributeChar).dropWhile_sublist isHtmlSpace).length_le
        have h₄ := (cs.dropWhile_sublist isAttributeChar).length_le
        simp [hd] at h₃
        simp [← he.2]
        omega
      · simp at h
    · simp at h

def attributeFinder : Finder (Text × Text) where
  readAt := attributeAt
  shortens := attributeAt_length

def attributes : Text → List (Text × Text) :=
  attributeFinder.findAll

def isStyleChar (c : Char) : Bool :=
  !(isHtmlSpace c || c == ':' || c == ';')

def styleDeclarationAt (cs : Text) : Option ((Text × Text) × Text) :=
  let r := cs.dropWhile isHtmlSpace
  match (r.dropWhile isStyleChar).dropWhile isHtmlSpace with
  | ':' :: v =>
    let v := v.dropWhile isHtmlSpace
    match (v.dropWhile isStyleChar).dropWhile isHtmlSpace with
    | [] => some ((r.takeWhile isStyleChar, v.takeWhile isStyleChar), [])
    | ';' :: rest => some ((r.takeWhile isStyleChar, v.takeWhile isStyleChar), rest)
    | _ => none
  | _ => none

theorem length_dropWhile_le (p : Char → Bool) (cs : Text) :
    (cs.dropWhile p).length ≤ cs.length :=
  (cs.dropWhile_sublist p).length_le

theorem styleDeclarationAt_length {cs rest : Text} {d : Text × Text}
    (h : styleDeclarationAt cs = some (d, rest)) : rest.length < cs.length := by
  unfold styleDeclarationAt at h
  have h₁ := length_dropWhile_le isHtmlSpace cs
  have h₂ := length_dropWhile_le isStyleChar (cs.dropWhile isHtmlSpace)
  have h₃ := length_dropWhile_le isHtmlSpace ((cs.dropWhile isHtmlSpace).dropWhile isStyleChar)
  simp only at h
  split at h
  case h_1 v hv =>
    have h₄ := length_dropWhile_le isHtmlSpace v
    have h₅ := length_dropWhile_le isStyleChar (v.dropWhile isHtmlSpace)
    have h₆ := length_dropWhile_le isHtmlSpace ((v.dropWhile isHtmlSpace).dropWhile isStyleChar)
    simp [hv] at h₃
    split at h
    · simp at h; simp [h.2]; omega
    case h_2 hr => simp at h; simp [hr, h.2] at h₆; omega
    · simp at h
  · simp at h

def styleFinder : Finder (Text × Text) where
  readAt := styleDeclarationAt
  shortens := styleDeclarationAt_length

def styleDeclarations : Text → List (Text × Text) :=
  styleFinder.findAll

/-- Whether a value of the `white-space` property keeps white space; other values say nothing. -/
def valueKeepsSpace (value : Text) : Option Bool :=
  if ["pre".toList, "pre-wrap".toList, "break-spaces".toList].contains value then some true
  else if ["normal".toList, "nowrap".toList].contains value then some false
  else none

/-- Whether a style keeps white space: its first declaration that says so decides. -/
def styleKeepsSpace (style : Text) : Option Bool :=
  (styleDeclarations style).findSome? fun (property, value) =>
    if lowerAscii property = "white-space".toList then valueKeepsSpace (lowerAscii value) else none

/-- Whether the attributes of a tag keep white space. Only the first style counts. -/
def attributesKeepSpace (attrs : Text) : Option Bool :=
  ((attributes attrs).find? fun (name, _) => lowerAscii name = "style".toList).bind
    fun (_, style) => styleKeepsSpace style

end SafeOutput.Markup
