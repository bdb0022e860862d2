import SafeOutput.Text.Class
import SafeOutput.Text.Fold

namespace SafeOutput.Accept

open Text

/-- Values that some browsers run as a script. -/
def isScriptValue (t : Text) : Bool :=
  ["expression", "binding", "moz-binding"].any fun w =>
    startsFolded w.toList (t.dropWhile (· == '-'))

def isCssNameChar (c : Char) : Bool :=
  isFoldedAlphanum c || c == '_' || c == '-'

/-- An identifier, a class or a colour in hexadecimal. -/
def isCssName (t : Text) : Bool :=
  let name := match t with
    | '.' :: cs | '#' :: cs => cs
    | cs => cs
  !name.isEmpty && name.all isCssNameChar

/-- A unit of at most four letters, a percent sign, or nothing. -/
def isCssUnit (t : Text) : Bool :=
  t == ['%'] || (t.length ≤ 4 && t.all isFoldedLetter)

def isUnsignedNumber (t : Text) : Bool :=
  match t.takeWhile Char.isDigit, t.dropWhile Char.isDigit with
  | [], '.' :: fraction =>
    !(fraction.takeWhile Char.isDigit).isEmpty && isCssUnit (fraction.dropWhile Char.isDigit)
  | [], _ => false
  | _ :: _, '.' :: fraction => isCssUnit (fraction.dropWhile Char.isDigit)
  | _ :: _, unit => isCssUnit unit

def isCssNumber : Text → Bool
  | '-' :: cs => isUnsignedNumber cs
  | cs => isUnsignedNumber cs

/-- The exclamation that makes a declaration win. -/
def isImportant (t : Text) : Bool :=
  dropFolded? "!important".toList t == some []

def isCssWord (t : Text) : Bool :=
  isCssName t || isCssNumber t || isImportant t

def isColourChar (c : Char) : Bool :=
  c.isDigit || c == '.' || c == '%' || c == ',' || c == ' '

def dropColour? (t : Text) : Option Text :=
  ["rgb(", "rgba(", "hsl(", "hsla("].findSome? fun start =>
    (dropFolded? start.toList t).bind fun rest =>
      match rest.takeWhile isColourChar, rest.dropWhile isColourChar with
      | _ :: _, ')' :: rest => some rest
      | _, _ => none

def isSeparatorChar (c : Char) : Bool :=
  isBlank c || c == ','

def dropCssItem? (t : Text) : Option Text :=
  match dropColour? t with
  | some rest => some rest
  | none =>
    if isCssWord (t.takeWhile (!isSeparatorChar ·)) then some (t.dropWhile (!isSeparatorChar ·))
    else none

/-- What follows the separator at the head of the text: white space around one comma, or white
space with a plain space in it. -/
def dropSeparator? (t : Text) : Option Text :=
  match t.dropWhile isBlank with
  | ',' :: rest => some (rest.dropWhile isBlank)
  | rest => if (t.takeWhile isBlank).contains ' ' then some rest else none

theorem dropColour?_length {t rest : Text} (h : dropColour? t = some rest) :
    rest.length ≤ t.length := by
  obtain ⟨start, -, hs⟩ := List.exists_of_findSome?_eq_some h
  obtain ⟨u, hu, hm⟩ := Option.bind_eq_some_iff.1 hs
  have h₁ := dropFolded?_length hu
  have h₂ := (u.dropWhile_sublist isColourChar).length_le
  split at hm
  case h_1 hd => simp at hm; simp [hd, hm] at h₂; omega
  · simp at hm

theorem dropCssItem?_length {t rest : Text} (h : dropCssItem? t = some rest) :
    rest.length ≤ t.length := by
  unfold dropCssItem? at h
  split at h
  case h_1 hc => exact dropColour?_length (hc.trans h)
  · split at h
    · simp at h
      rw [← h]
      exact (t.dropWhile_sublist _).length_le
    · simp at h

theorem dropSeparator?_length {t rest : Text} (h : dropSeparator? t = some rest) :
    rest.length < t.length := by
  have hl := congrArg List.length (t.takeWhile_append_dropWhile (p := isBlank))
  rw [List.length_append] at hl
  unfold dropSeparator? at h
  split at h
  case h_1 r hd =>
    have := (r.dropWhile_sublist isBlank).length_le
    rw [hd, List.length_cons] at hl
    rw [← Option.some.inj h]
    omega
  · split at h
    case isTrue hc =>
      have := List.length_pos_of_mem (List.mem_of_elem_eq_true hc)
      rw [← Option.some.inj h]
      omega
    · simp at h

/-- Items with separators between them and perhaps behind the last. -/
def isCssItems (t : Text) : Bool :=
  if t.isEmpty then true
  else
    match hi : dropCssItem? t with
    | none => false
    | some rest =>
      if rest.isEmpty then true
      else
        match hs : dropSeparator? rest with
        | none => false
        | some next =>
          have := dropCssItem?_length hi
          have := dropSeparator?_length hs
          isCssItems next
termination_by t.length

def isSafeCssValue (t : Text) : Bool :=
  !isScriptValue t && isCssItems t

end SafeOutput.Accept
