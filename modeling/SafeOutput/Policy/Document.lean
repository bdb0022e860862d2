import SafeOutput.Yaml.Node

namespace SafeOutput.Policy

open Yaml

structure Document where
  version : Text
  extraSafeTags : List Text
  environment : Option Text
  deriving DecidableEq, Repr

def text? (t : Tree) (n : Node) : Option Text :=
  match t.follow n with
  | .scalar _ _ text => some text
  | _ => none

def isNullWord (t : Text) : Bool :=
  ["~", "null", "Null", "NULL"].any (·.toList == t)

def nullTag : Octets := asciiOctets "tag:yaml.org,2002:null".toList

/-- The text of a scalar that may be null. A tag settles what a plain scalar is; without one, it is
null if it is empty or a word for null. -/
def optionalText? (t : Tree) (n : Node) : Option (Option Text) :=
  match t.follow n with
  | .scalar (some tag) true text =>
    if tag = nullTag then (if isNullWord text then some none else none) else some (some text)
  | .scalar none true text =>
    if text.isEmpty || isNullWord text then some none else some (some text)
  | .scalar _ false text => some (some text)
  | _ => none

/-- The items of a list of texts; a value that is left out is an empty list. -/
def texts? (t : Tree) (n : Node) : Option (List Text) :=
  match t.follow n with
  | .sequence items => items.mapM (text? t)
  | .scalar _ true [] => some []
  | _ => none

/-- The entries of a mapping with texts as keys; a value that is left out is an empty mapping. -/
def entries? (t : Tree) (n : Node) : Option (List (Text × Node)) :=
  match t.follow n with
  | .mapping entries => entries.mapM fun (key, value) => (text? t key).map fun key => (key, value)
  | .scalar _ true [] => some []
  | _ => none

/-- The value of each field, if the entries name only these fields, and each at most once. -/
def fields? (names : List String) (entries : List (Text × Node)) : Option (List (Option Node)) :=
  let keys := entries.map Prod.fst
  if keys.all (names.map String.toList).contains ∧ keys.eraseDups.length = keys.length then
    some (names.map fun name => entries.lookup name.toList)
  else none

def cleanHtml? (t : Tree) (n : Node) : Option (List Text) := do
  match ← fields? ["extra_safe_tags"] (← entries? t n) with
  | [some tags] => texts? t tags
  | _ => some []

def Document.ofTree? (t : Tree) : Option Document := do
  match ← fields? ["sanitize", "clean_html", "environment"] (← entries? t t.root) with
  | [some version, cleanHtml, environment] =>
    let version ← text? t version
    let extraSafeTags ← match cleanHtml with
      | some body => cleanHtml? t body
      | none => some []
    let environment ← match environment with
      | some environment => optionalText? t environment
      | none => some none
    some ⟨version, extraSafeTags, environment⟩
  | _ => none

def Document.parse? (t : Text) : Option Document :=
  (Tree.parse? t).bind Document.ofTree?

end SafeOutput.Policy
