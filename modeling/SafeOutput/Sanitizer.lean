import SafeOutput.Content.Value
import SafeOutput.Encoder
import SafeOutput.Markup.Filter
import SafeOutput.Markup.PlainText

namespace SafeOutput

open Text Markup

/-- Writes each end of line as `<br>`. A carriage return and the line feed behind it are one end of
line. -/
def breakLines : Text → Text
  | '\r' :: '\n' :: cs => "<br>".toList ++ breakLines cs
  | '\r' :: cs => "<br>".toList ++ breakLines cs
  | '\n' :: cs => "<br>".toList ++ breakLines cs
  | c :: cs => c :: breakLines cs
  | [] => []

/-- Whether the text agrees with the word, in small letters, as far as it goes. -/
def couldContinueTo (word t : Text) : Bool :=
  (word.zip t).all fun (w, c) => w == c.toLower

/-- Whether somewhere a comment opens or a script element ends, or could by what is written
behind. -/
def hasScriptHazard : Text → Bool
  | [] => false
  | c :: cs =>
    (c == '<' &&
      (couldContinueTo "<!--".toList (c :: cs) || couldContinueTo "</script".toList (c :: cs))) ||
      hasScriptHazard cs

/-- What plain text becomes of a value: content of kind HTML is read as a document. -/
def Value.plainText (v : Value) : Text :=
  match v.contentIf? .html with
  | some html => Markup.plainText html
  | none => v.display

/-- The text of content that is trusted as a URI of either kind. -/
def Value.trustedUri? (v : Value) : Option Text :=
  (v.contentIf? .uri).or (v.contentIf? .trustedResourceUri)

/-- The routines for each context and the tags that untrusted markup may keep. -/
structure Sanitizer where
  encoder : Encoder
  safeTags : TagSet

namespace Sanitizer

def standard : Sanitizer := ⟨.standard, .defaultSafe⟩

def withEncoder (encoder : Encoder) : Sanitizer := ⟨encoder, .defaultSafe⟩

def alreadyTrusted : Approval := ⟨"Persisting existing sanitization.".toList⟩

def escapedHtml : Approval := ⟨"Escaped html is by nature sanitized.".toList⟩

def filteredUri : Approval := ⟨"Filtered URIs are by nature sanitized.".toList⟩

/-- Makes a text trusted HTML, in the direction of the value that it was made from. -/
def wrapHtml (html : Text) (source : Value) (approval : Approval) :
    Journal (Except Violation Content) :=
  Content.wrap html .html source.dir (some approval)

/-- Writes ends of lines as `<br>`. HTML stays HTML and other values become plain text. -/
def changeNewlineToBr (v : Value) : Journal (Except Violation Value) :=
  match v.contentIf? .html with
  | some html => (Except.map Value.content ·) <$> wrapHtml (breakLines html) v alreadyTrusted
  | none => pure (.ok (.str (breakLines v.display)))

/-- Reduces a value to safe markup; trusted HTML stays as it is. -/
def cleanHtml (s : Sanitizer) (extra : TagSet) (v : Value) : Journal (Except Violation Content) :=
  match v.contentIf? .html with
  | some html => wrapHtml html v alreadyTrusted
  | none => do
    let cleaned ← stripTags (some (s.safeTags.union extra)) v.display
    wrapHtml cleaned v escapedHtml

def escapeHtml (s : Sanitizer) (v : Value) : Journal (Except Violation Content) :=
  match v.contentIf? .html with
  | some html => wrapHtml html v alreadyTrusted
  | none => wrapHtml (s.encoder.escape .html v.display) v escapedHtml

/-- A value where references count and tags do not. -/
def escapeHtmlRcdata (s : Sanitizer) (v : Value) : Text :=
  match v.contentIf? .html with
  | some html => s.encoder.normalize .html html
  | none => s.encoder.escape .html v.display

/-- A value as a quoted attribute value. HTML loses its tags. -/
def escapeHtmlAttribute (s : Sanitizer) (v : Value) : Text :=
  match v.contentIf? .html with
  | some html => s.encoder.normalize .html (stripAll html)
  | none => s.encoder.escape .html v.display

/-- A value as an unquoted attribute value. HTML loses its tags. -/
def escapeHtmlAttributeNospace (s : Sanitizer) (v : Value) : Text :=
  match v.contentIf? .html with
  | some html => s.encoder.normalize .htmlNospace (stripAll html)
  | none => s.encoder.escape .htmlNospace v.display

/-- A value as an attribute value that is itself HTML. -/
def escapeHtmlHtmlAttribute (s : Sanitizer) (v : Value) : Journal (Except Violation Text) :=
  (Except.map Content.text ·) <$> s.escapeHtml v

def normalizeHtml (s : Sanitizer) (v : Value) : Text :=
  s.encoder.normalize .html v.display

/-- Attributes behind a tag name: one space before them, if there are any. -/
def whitespaceHtmlAttributes (v : Value) : Text :=
  match v.display with
  | [] => []
  | c :: cs => if c = ' ' then c :: cs else ' ' :: c :: cs

/-- A value as attributes: trusted attributes, or one harmless name. -/
def filterHtmlAttributes (s : Sanitizer) (v : Value) : Journal Text :=
  match v.contentIf? .attributes with
  | some attrs => pure attrs
  | none => s.encoder.filter .htmlAttributes v.display

def filterHtmlElementName (s : Sanitizer) (v : Value) : Journal Text :=
  s.encoder.filter .htmlElementName v.display

def filterHtmlScriptPhrasingData (v : Value) : Journal Text :=
  if hasScriptHazard v.display then ⟨innocuousText, [.scriptDataRejected]⟩ else pure v.display

def filterCspNonceValue (s : Sanitizer) (v : Value) : Journal Text :=
  s.encoder.filter .cspNonce v.display

def escapeJsString (s : Sanitizer) (v : Value) : Text :=
  match v.contentIf? .jsStrChars with
  | some chars => chars
  | none => s.encoder.escape .jsString v.display

/-- A value as a script expression. Spaces keep null and numbers apart from what stands beside
them. -/
def escapeJsValue (s : Sanitizer) (v : Value) : Text :=
  match v with
  | .null => " null ".toList
  | .int _ | .float _ => ' ' :: v.display ++ [' ']
  | .str _ | .content _ =>
    match v.contentIf? .js with
    | some js => js
    | none => '\'' :: s.encoder.escape .jsString v.display ++ ['\'']

def escapeJsRegex (s : Sanitizer) (v : Value) : Text :=
  s.encoder.escape .jsRegex v.display

def escapeCssString (s : Sanitizer) (v : Value) : Text :=
  s.encoder.escape .cssString v.display

def filterCssValue (s : Sanitizer) (v : Value) : Journal Text :=
  match v.contentIf? .css with
  | some css => pure (Escape.embedCss css)
  | none => if v.isNull then pure [] else s.encoder.filter .cssValue v.display

def filterNumber (s : Sanitizer) (v : Value) : Journal Text :=
  s.encoder.filter .number v.display

def escapeUri (s : Sanitizer) (v : Value) : Text :=
  s.encoder.escape .uri v.display

def normalizeUri (s : Sanitizer) (v : Value) : Text :=
  s.encoder.normalize .uri v.display

def filterNormalizeUri (s : Sanitizer) (v : Value) : Journal Text :=
  match v.trustedUri? with
  | some uri => pure (s.encoder.normalize .uri uri)
  | none => s.encoder.filter .normalizeUri v.display

def filterNormalizeMediaUri (s : Sanitizer) (v : Value) : Journal Text :=
  match v.trustedUri? with
  | some uri => pure (s.encoder.normalize .uri uri)
  | none => s.encoder.filter .normalizeMediaUri v.display

/-- A value as a URI behind the delay of a refresh, where a semicolon would end it. -/
def filterNormalizeRefreshUri (s : Sanitizer) (v : Value) : Journal Text :=
  replaceChar ';' "%3B".toList <$> s.filterNormalizeUri v

/-- A value as the place of code to load, which must be trusted. -/
def filterTrustedResourceUri (v : Value) : Journal Text :=
  match v.contentIf? .trustedResourceUri with
  | some uri => pure uri
  | none => ⟨innocuousUri, [.resourceRejected]⟩

/-- A value filtered in a URI context, made trusted. -/
def filterUri (s : Sanitizer) (context : FilterContext) (v : Value) :
    Journal (Except Violation Content) := do
  let filtered ← s.encoder.filter context v.display
  Content.wrap filtered .uri none (some filteredUri)

end Sanitizer

end SafeOutput
