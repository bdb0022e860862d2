import SafeOutput.Sanitizer

namespace SafeOutput

open Markup

/-- What a template can ask to be done to a value before it is printed. -/
inductive Directive where
  | changeNewlineToBr
  | cleanHtml (extra : TagSet)
  | escapeHtml
  | escapeHtmlRcdata
  | escapeHtmlAttribute
  | escapeHtmlAttributeNospace
  | escapeHtmlHtmlAttribute
  | normalizeHtml
  | htmlToText
  | whitespaceHtmlAttributes
  | filterHtmlAttributes
  | filterHtmlElementName
  | filterHtmlScriptPhrasingData
  | filterCspNonceValue
  | escapeJsString
  | escapeJsValue
  | escapeJsRegex
  | escapeCssString
  | filterCssValue
  | filterNumber
  | escapeUri
  | normalizeUri
  | filterNormalizeUri
  | filterNormalizeMediaUri
  | filterNormalizeRefreshUri
  | filterTrustedResourceUri
  | filterImageDataUri
  | filterTelUri
  | filterSmsUri
  | filterSipUri
  | filterLegacyUriBehavior

namespace Directive

def ofText (t : Text) : Except Violation Value := .ok (.str t)

def ofContent : Except Violation Content → Except Violation Value := Except.map Value.content

/-- The result of a directive: content where the directive makes a text trusted, else a text. -/
def apply (s : Sanitizer) (d : Directive) (v : Value) : Journal (Except Violation Value) :=
  match d with
  | changeNewlineToBr => Sanitizer.changeNewlineToBr v
  | cleanHtml extra => ofContent <$> s.cleanHtml extra v
  | escapeHtml => ofContent <$> s.escapeHtml v
  | escapeHtmlRcdata => pure (ofText (s.escapeHtmlRcdata v))
  | escapeHtmlAttribute => pure (ofText (s.escapeHtmlAttribute v))
  | escapeHtmlAttributeNospace => pure (ofText (s.escapeHtmlAttributeNospace v))
  | escapeHtmlHtmlAttribute => (Except.map Value.str ·) <$> s.escapeHtmlHtmlAttribute v
  | normalizeHtml => pure (ofText (s.normalizeHtml v))
  | htmlToText => pure (ofText v.plainText)
  | whitespaceHtmlAttributes => pure (ofText (Sanitizer.whitespaceHtmlAttributes v))
  | filterHtmlAttributes => ofText <$> s.filterHtmlAttributes v
  | filterHtmlElementName => ofText <$> s.filterHtmlElementName v
  | filterHtmlScriptPhrasingData => ofText <$> Sanitizer.filterHtmlScriptPhrasingData v
  | filterCspNonceValue => ofText <$> s.filterCspNonceValue v
  | escapeJsString => pure (ofText (s.escapeJsString v))
  | escapeJsValue => pure (ofText (s.escapeJsValue v))
  | escapeJsRegex => pure (ofText (s.escapeJsRegex v))
  | escapeCssString => pure (ofText (s.escapeCssString v))
  | filterCssValue => ofText <$> s.filterCssValue v
  | filterNumber => ofText <$> s.filterNumber v
  | escapeUri => pure (ofText (s.escapeUri v))
  | normalizeUri => pure (ofText (s.normalizeUri v))
  | filterNormalizeUri => ofText <$> s.filterNormalizeUri v
  | filterNormalizeMediaUri => ofText <$> s.filterNormalizeMediaUri v
  | filterNormalizeRefreshUri => ofText <$> s.filterNormalizeRefreshUri v
  | filterTrustedResourceUri => ofText <$> Sanitizer.filterTrustedResourceUri v
  | filterImageDataUri => ofContent <$> s.filterUri .imageDataUri v
  | filterTelUri => ofContent <$> s.filterUri .telUri v
  | filterSmsUri => ofContent <$> s.filterUri .smsUri v
  | filterSipUri => ofContent <$> s.filterUri .sipUri v
  | filterLegacyUriBehavior => ofContent <$> s.filterUri .legacyUri v

end Directive

end SafeOutput
