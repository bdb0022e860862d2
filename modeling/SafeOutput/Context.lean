namespace SafeOutput

/-- Contexts in which every text has an escaped form. -/
inductive EscapeContext where
  | html
  | htmlNospace
  | jsString
  | jsRegex
  | cssString
  | uri
  deriving DecidableEq, Repr

/-- Contexts in which a text that is partly escaped already is tidied. -/
inductive NormalizeContext where
  | html
  | htmlNospace
  | uri
  deriving DecidableEq, Repr

/-- Contexts in which some texts are refused. -/
inductive FilterContext where
  | normalizeUri
  | normalizeMediaUri
  | legacyUri
  | imageDataUri
  | telUri
  | smsUri
  | sipUri
  | cssValue
  | htmlAttributes
  | htmlElementName
  | cspNonce
  | number
  deriving DecidableEq, Repr

def EscapeContext.label : EscapeContext → String
  | html => "Html"
  | htmlNospace => "HtmlNospace"
  | jsString => "JsString"
  | jsRegex => "JsRegex"
  | cssString => "CssString"
  | uri => "Uri"

def EscapeContext.all : List EscapeContext :=
  [html, htmlNospace, jsString, jsRegex, cssString, uri]

def NormalizeContext.label : NormalizeContext → String
  | html => "Html"
  | htmlNospace => "HtmlNospace"
  | uri => "Uri"

def NormalizeContext.all : List NormalizeContext :=
  [html, htmlNospace, uri]

def FilterContext.label : FilterContext → String
  | normalizeUri => "NormalizeUri"
  | normalizeMediaUri => "NormalizeMediaUri"
  | legacyUri => "LegacyUri"
  | imageDataUri => "ImageDataUri"
  | telUri => "TelUri"
  | smsUri => "SmsUri"
  | sipUri => "SipUri"
  | cssValue => "CssValue"
  | htmlAttributes => "HtmlAttributes"
  | htmlElementName => "HtmlElementName"
  | cspNonce => "CspNonce"
  | number => "Number"

def FilterContext.all : List FilterContext :=
  [normalizeUri, normalizeMediaUri, legacyUri, imageDataUri, telUri, smsUri, sipUri, cssValue,
    htmlAttributes, htmlElementName, cspNonce, number]

end SafeOutput
