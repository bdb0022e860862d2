import SafeOutput.Accept.CssValue
import SafeOutput.Accept.Name
import SafeOutput.Accept.Uri
import SafeOutput.Escape.Css
import SafeOutput.Escape.Html
import SafeOutput.Escape.JavaScript
import SafeOutput.Escape.Uri
import SafeOutput.Journal

namespace SafeOutput

/-- What stands for a value that was refused. -/
def innocuousText : Text := "zSoyz".toList

/-- A well-formed URI that leads nowhere. -/
def innocuousUri : Text := "about:invalid#zSoyz".toList

/-- A well-formed image URI that holds no image. -/
def innocuousImage : Text := "data:image/gif;base64,zSoyz".toList

namespace FilterContext

/-- What a context emits in place of a text that it refuses. -/
def sentinel : FilterContext → Text
  | normalizeUri | normalizeMediaUri | legacyUri | telUri | smsUri | sipUri => innocuousUri
  | imageDataUri => innocuousImage
  | cssValue | htmlAttributes | htmlElementName | cspNonce | number => innocuousText

def accepts : FilterContext → Text → Bool
  | normalizeUri => Accept.isSafeUri
  | normalizeMediaUri => Accept.isSafeMediaUri
  | legacyUri => Accept.isLegacyUri
  | imageDataUri => Accept.isImageData
  | telUri => Accept.isDialUri "tel"
  | smsUri => Accept.isDialUri "sms"
  | sipUri => Accept.isDialUri "sip"
  | cssValue => Accept.isSafeCssValue
  | htmlAttributes => Accept.isSafeAttributeName
  | htmlElementName => Accept.isSafeElementName
  | cspNonce => Accept.isNonce
  | number => Accept.isNumber

def emit : FilterContext → Text → Text
  | normalizeUri | normalizeMediaUri | legacyUri => Escape.tidyUri
  | imageDataUri | telUri | smsUri | sipUri | cssValue | htmlAttributes | htmlElementName | cspNonce
  | number => id

def filter (context : FilterContext) (t : Text) : Text :=
  if context.accepts t then context.emit t else context.sentinel

end FilterContext

def EscapeContext.escape : EscapeContext → Text → Text
  | html => Escape.escapeHtml
  | htmlNospace => Escape.escapeUnquoted
  | jsString => Escape.escapeScriptString
  | jsRegex => Escape.escapeScriptRegex
  | cssString => Escape.escapeCssString
  | uri => Escape.escapeUri

def NormalizeContext.normalize : NormalizeContext → Text → Text
  | html => Escape.tidyHtml
  | htmlNospace => Escape.tidyUnquoted
  | uri => Escape.tidyUri

structure Encoder where
  escape : EscapeContext → Text → Text
  filter : FilterContext → Text → Journal Text
  normalize : NormalizeContext → Text → Text

/-- Filtering by the rules of this library, with an event for a text that is refused. -/
def FilterContext.filterLogged (context : FilterContext) (t : Text) : Journal Text :=
  ⟨context.filter t, if context.accepts t then [] else [.valueRejected context]⟩

def Encoder.standard : Encoder :=
  ⟨EscapeContext.escape, FilterContext.filterLogged, NormalizeContext.normalize⟩

end SafeOutput
