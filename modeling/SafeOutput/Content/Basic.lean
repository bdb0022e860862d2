import SafeOutput.Journal

namespace SafeOutput

/-- A text that is trusted in one output context. -/
structure Content where
  text : Text
  kind : Kind
  dir : Option Direction
  deriving DecidableEq, Repr

def Approval.check? : Option Approval → Except Violation Unit
  | none => .error .missingApproval
  | some a => a.check

/-- Makes a text trusted. The direction given counts only if the kind has none of its own. -/
def Content.wrap (text : Text) (kind : Kind) (dir : Option Direction) (approval : Option Approval) :
    Journal (Except Violation Content) :=
  match Approval.check? approval with
  | .error cause => ⟨.error cause, [.contentRefused kind cause]⟩
  | .ok () => ⟨.ok ⟨text, kind, kind.intrinsicDir.or dir⟩, []⟩

/-- A text whose kind and direction are still to be settled. -/
structure Draft where
  text : Text
  kind : Option Kind
  dir : Option Direction
  deriving DecidableEq, Repr

namespace Draft

def ofText (text : Text) : Draft := ⟨text, none, none⟩

def withKind (d : Draft) (kind : Kind) : Draft := { d with kind := some kind }

def withDir (d : Draft) (dir : Direction) : Draft := { d with dir := some dir }

/-- Makes the text of the draft trusted, which needs a kind. -/
def approve (d : Draft) (approval : Approval) : Journal (Except Violation Content) :=
  match d.kind with
  | none => ⟨.error .missingKind, [.kindMissing]⟩
  | some kind => Content.wrap d.text kind d.dir (some approval)

end Draft

end SafeOutput
