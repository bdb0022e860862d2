import SafeOutput.Digest.Sha256
import SafeOutput.Markup.TagSet
import SafeOutput.Policy.Document
import SafeOutput.Policy.TagRule
import SafeOutput.Sanitizer
import SafeOutput.Text.Class

namespace SafeOutput

open Markup Text

/-- What a deployment allows beyond the defaults. -/
structure Policy where
  version : Text
  extraSafeTags : TagSet
  environment : Text
  digest : Text

namespace Policy

inductive ReadFault where
  | missing
  | notUtf8
  | other (reason : String)
  deriving DecidableEq, Repr

def ReadFault.message : ReadFault → String
  | missing => "No such file or directory (os error 2)"
  | notUtf8 => "stream did not contain valid UTF-8"
  | other reason => reason

inductive Fault where
  | unreadable (cause : ReadFault)
  | malformed
  | unsupportedVersion (version : Text)
  | unsafeTag (name : Text) (cause : TagFault)
  deriving DecidableEq, Repr

def supportedVersion : Text := "v1".toList

def Fault.message : Fault → String
  | unreadable cause => "failed to read config source: " ++ cause.message
  | malformed => "failed to parse YAML"
  | unsupportedVersion version =>
    "validation error: unsupported contract version \"" ++ String.ofList version ++
      "\", expected \"" ++ String.ofList supportedVersion ++ "\""
  | unsafeTag name cause =>
    "tag \"" ++ String.ofList name ++ "\" cannot be whitelisted: " ++ cause.reason

def checkTag (name : Text) : Except Fault Text :=
  match tagFault? name with
  | some cause => .error (.unsafeTag name cause)
  | none => .ok name

/-- The names of a list without the white space around them and in lower case, if all may be
kept. -/
def checkTags (tags : List Text) : Except Fault (List Text) :=
  tags.mapM fun tag => checkTag (lowerAscii (trim tag))

def extraTags (tags : List Text) : Except Fault TagSet :=
  (checkTags tags).map TagSet.ofList

def ofText (raw : Text) : Except Fault Policy := do
  let document ← match Document.parse? raw with
    | some document => .ok document
    | none => .error .malformed
  if document.version ≠ supportedVersion then .error (.unsupportedVersion document.version)
  let extraSafeTags ← extraTags document.extraSafeTags
  return ⟨document.version, extraSafeTags, document.environment.getD [], Digest.ofText raw⟩

def decode (source : Except ReadFault ByteArray) : Except Fault Text :=
  match source with
  | .error cause => .error (.unreadable cause)
  | .ok bytes =>
    match String.fromUTF8? bytes with
    | some s => .ok s.toList
    | none => .error (.unreadable .notUtf8)

def loaded (p : Policy) : Event :=
  .policyLoaded (String.ofList p.digest) (String.ofList p.environment) p.extraSafeTags.size

/-- Reads a policy from its text and notes that it was read. -/
def load (raw : Text) : Journal (Except Fault Policy) :=
  match ofText raw with
  | .ok p => ⟨.ok p, [p.loaded]⟩
  | .error fault => ⟨.error fault, []⟩

def loadFrom (source : Except ReadFault ByteArray) : Journal (Except Fault Policy) :=
  match decode source with
  | .ok raw => load raw
  | .error fault => pure (.error fault)

end Policy

/-- A sanitizer that also keeps the tags that a policy adds. -/
def Sanitizer.ofPolicy (p : Policy) : Sanitizer :=
  ⟨.standard, TagSet.defaultSafe.union p.extraSafeTags⟩

end SafeOutput
