import SafeOutput.Text.Basic

namespace SafeOutput.Escape

open Text

def numericReference (c : Char) : Text :=
  "&#".toList ++ decimal c.toNat ++ [';']

/-- A character in HTML text or in a quoted attribute value, where `&` may already start a
reference. -/
def tidyHtmlChar (c : Char) : Text :=
  match c with
  | '"' => "&quot;".toList
  | '<' => "&lt;".toList
  | '>' => "&gt;".toList
  | '\'' | '\x00' => numericReference c
  | _ => [c]

/-- A character that stands for itself in HTML text or in a quoted attribute value. -/
def escapeHtmlChar (c : Char) : Text :=
  if c = '&' then "&amp;".toList else tidyHtmlChar c

/-- Characters that could end an unquoted attribute value. -/
def endsUnquoted (c : Char) : Bool :=
  ['\t', '\n', '\x0b', '\x0c', '\r', ' ', '-', '/', '=', '\x60', '\u0085', '\u00a0', '\u2028',
    '\u2029'].contains c

def tidyUnquotedChar (c : Char) : Text :=
  if endsUnquoted c then numericReference c else tidyHtmlChar c

def escapeUnquotedChar (c : Char) : Text :=
  if endsUnquoted c then numericReference c else escapeHtmlChar c

/-- Text as HTML text or as a quoted attribute value. -/
def escapeHtml (t : Text) : Text :=
  t.flatMap escapeHtmlChar

/-- Like `escapeHtml`, but references in the text stay. -/
def tidyHtml (t : Text) : Text :=
  t.flatMap tidyHtmlChar

def escapeUnquoted (t : Text) : Text :=
  t.flatMap escapeUnquotedChar

def tidyUnquoted (t : Text) : Text :=
  t.flatMap tidyUnquotedChar

end SafeOutput.Escape
