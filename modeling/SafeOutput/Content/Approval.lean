import SafeOutput.Text.Basic

namespace SafeOutput

/-- The sign-off of a caller that deliberately makes a text trusted. -/
structure Approval where
  justification : Text
  deriving DecidableEq, Repr

inductive Violation where
  | missingApproval
  | justificationTooShort (length : Nat)
  | missingKind
  deriving DecidableEq, Repr

def Approval.minLength : Nat := 20

def Approval.check (a : Approval) : Except Violation Unit :=
  if a.justification.length < minLength then .error (.justificationTooShort a.justification.length)
  else .ok ()

def Violation.message : Violation → String
  | missingApproval => "caller does not have sanitization approval"
  | justificationTooShort length =>
    s!"a justification of at least {Approval.minLength} characters must be provided with the approval (got {length})"
  | missingKind => "sanitized content cannot be instantiated without a content kind"

end SafeOutput
