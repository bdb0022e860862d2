import SafeOutput.Content.Kind
import SafeOutput.Content.Approval
import SafeOutput.Context

namespace SafeOutput

inductive Level where
  | debug
  | info
  | warn
  | error
  deriving DecidableEq, Repr

/-- What happened and is worth a line in the log. -/
inductive Event where
  | contentRefused (kind : Kind) (cause : Violation)
  | kindMissing
  | markupFiltered (kept removed droppedClosers : Nat) (autoClosed : Bool)
  | valueRejected (context : FilterContext)
  | scriptDataRejected
  | resourceRejected
  | policyLoaded (digest environment : String) (extraSafeTags : Nat)
  | cleaning (extraTags bytes : Nat)
  | extracting (bytes : Nat)
  | escaping (bytes : Nat)
  | failed (reason : String)
  deriving DecidableEq, Repr

inductive FieldValue where
  | number (n : Nat)
  | flag (b : Bool)
  | text (s : String)
  deriving DecidableEq, Repr

namespace Event

def level : Event → Level
  | contentRefused .. | kindMissing => .warn
  | markupFiltered .. | valueRejected _ | scriptDataRejected | resourceRejected => .debug
  | policyLoaded .. | cleaning .. | extracting _ | escaping _ => .info
  | failed _ => .error

def message : Event → String
  | contentRefused _ cause => "rejected sanitized content construction: " ++ cause.message
  | kindMissing => "rejected sanitized content construction without a kind"
  | markupFiltered .. => "filtered markup against tag whitelist"
  | valueRejected _ => "value rejected by filter, emitting sentinel"
  | scriptDataRejected => "script phrasing data rejected, emitting sentinel"
  | resourceRejected => "untrusted resource uri rejected, emitting sentinel"
  | policyLoaded .. => "sanitizer config loaded"
  | cleaning .. => "clean-html"
  | extracting _ => "html-to-text"
  | escaping _ => "escape-html"
  | failed reason => reason

def fields : Event → List (String × FieldValue)
  | contentRefused kind _ => [("kind", .text kind.label)]
  | markupFiltered kept removed droppedClosers autoClosed =>
    [("kept", .number kept), ("removed", .number removed),
      ("dropped_closers", .number droppedClosers), ("auto_closed", .flag autoClosed)]
  | valueRejected context => [("context", .text context.label)]
  | policyLoaded digest environment extraSafeTags =>
    [("contract_hash", .text digest), ("environment", .text environment),
      ("extra_safe_tags", .number extraSafeTags)]
  | cleaning extraTags bytes => [("extra_tags", .number extraTags), ("bytes", .number bytes)]
  | extracting bytes => [("bytes", .number bytes)]
  | escaping bytes => [("bytes", .number bytes)]
  | kindMissing | scriptDataRejected | resourceRejected | failed _ => []

end Event

def Level.label : Level → String
  | debug => "DEBUG"
  | info => "INFO"
  | warn => "WARN"
  | error => "ERROR"

end SafeOutput
