import SafeOutput.Policy.Basic

namespace SafeOutput.Command

open Markup Text

inductive Action where
  | cleanHtml (allow : List Text)
  | htmlToText
  | escapeHtml
  deriving DecidableEq, Repr

structure Request where
  policyPath : Option Text
  action : Action
  deriving DecidableEq, Repr

inductive Stop where
  | help
  | badUsage
  deriving DecidableEq, Repr

/-- Arguments that cannot be the value of the option before them. -/
def looksLikeOption : Text → Bool
  | '-' :: _ :: _ => true
  | _ => false

/-- The value that an argument gives to the option behind an equals sign. -/
def attached? (option : String) (arg : Text) : Option Text :=
  let start := option.toList ++ ['=']
  if start.isPrefixOf arg then some (arg.drop start.length) else none

/-- Arguments that ask for help: the long option, or short options of which the first is `h`. -/
def isHelp (arg : Text) : Bool :=
  arg == "--help".toList || "-h".toList.isPrefixOf arg

def noMore : List Text → Except Stop Unit
  | [] => .ok ()
  | arg :: rest =>
    if isHelp arg then .error .help
    else if arg = "--".toList ∧ rest = [] then .ok ()
    else .error .badUsage

def allowedTags : List Text → Except Stop (List Text)
  | [] => .ok []
  | arg :: rest =>
    if arg = "--allow".toList then
      match rest with
      | value :: rest =>
        if looksLikeOption value then .error .badUsage
        else (allowedTags rest).map (value :: ·)
      | [] => .error .badUsage
    else
      match attached? "--allow" arg with
      | some value => (allowedTags rest).map (value :: ·)
      | none => (noMore (arg :: rest)).map fun () => []

def commandNames : List Text :=
  ["clean-html", "html-to-text", "escape-html", "help"].map String.toList

def action : List Text → Except Stop Action
  | [] => .error .badUsage
  | name :: args =>
    if name = "help".toList then
      match args with
      | [] => .error .help
      | [topic] => .error (if commandNames.contains topic then .help else .badUsage)
      | _ => .error .badUsage
    else if name = "clean-html".toList then (allowedTags args).map .cleanHtml
    else if name = "html-to-text".toList then (noMore args).map fun () => .htmlToText
    else if name = "escape-html".toList then (noMore args).map fun () => .escapeHtml
    else .error .badUsage

/-- Settles the path that was read last: it must be the only one, and not be empty. -/
def settle (path pending : Option Text) : Except Stop (Option Text) :=
  match pending with
  | some p => if path.isSome || p.isEmpty then .error .badUsage else .ok (some p)
  | none => .ok path

/-- Reads the options that stand before the command. A path that stands behind its option is pending
until the next option, or the end of the arguments: help on a command comes before it is settled. -/
def parseFrom (path pending : Option Text) : List Text → Except Stop (Option Text × Action)
  | [] => .error .badUsage
  | arg :: rest =>
    if isHelp arg then do
      let _ ← settle path pending
      .error .help
    else if arg = "--config".toList then
      match rest with
      | value :: rest => do
        if looksLikeOption value then .error .badUsage
        parseFrom (← settle path pending) (some value) rest
      | [] => .error .badUsage
    else
      match attached? "--config" arg with
      | some value => do
        let path ← settle path pending
        parseFrom (← settle path (some value)) none rest
      | none => do
        let action ← action (arg :: rest)
        return (← settle path pending, action)

/-- What arguments ask for. The path of a policy may stand before the command, once, and else in the
environment; it is never empty. -/
def parse (args : List Text) (env : Option Text) : Except Stop Request := do
  let (path, action) ← parseFrom none none args
  let policyPath := path.or env
  if policyPath = some [] then .error .badUsage
  return ⟨policyPath, action⟩

structure Outcome where
  exitCode : Nat
  output : Text
  log : List Event
  deriving DecidableEq, Repr

/-- Events that are logged by default: all but the finest. -/
def isLogged (e : Event) : Bool :=
  e.level != .debug

def sanitizer (source : Option (Except Policy.ReadFault ByteArray)) :
    Journal (Except String Sanitizer) :=
  match source with
  | none => pure (.ok .standard)
  | some source => do
    match ← Policy.loadFrom source with
    | .ok policy => pure (.ok (.ofPolicy policy))
    | .error fault => pure (.error ("failed to load config: " ++ fault.message))

/-- Input that is trusted because the one who runs the command supplies it. -/
def operatorDocument : Approval := ⟨"Operator-supplied document treated as trusted HTML.".toList⟩

/-- Tags that may be allowed on the command line, by their names in lower case. -/
def checkAllowed (allow : List Text) : Except Policy.Fault Unit :=
  allow.forM fun tag => (Policy.checkTag (lowerAscii tag)).map fun _ => ()

def contentText : Except Violation Content → Except String Text
  | .ok c => .ok c.text
  | .error cause => .error cause.message

def perform (s : Sanitizer) (action : Action) (input : Text) : Journal (Except String Text) :=
  match action with
  | .cleanHtml allow =>
    match checkAllowed allow with
    | .error fault => pure (.error fault.message)
    | .ok () => do
      let extra := TagSet.ofList allow
      Journal.log (.cleaning extra.size (byteSize input))
      contentText <$> s.cleanHtml extra (.str input)
  | .htmlToText => do
    Journal.log (.extracting (byteSize input))
    match ← Content.wrap input .html none (some operatorDocument) with
    | .ok document => pure (.ok (Value.content document).plainText)
    | .error cause => pure (.error cause.message)
  | .escapeHtml => do
    Journal.log (.escaping (byteSize input))
    contentText <$> s.escapeHtml (.str input)

/-- Performs an action on bytes, which must be UTF-8. -/
def performOn (s : Sanitizer) (action : Action) (input : ByteArray) : Journal (Except String Text) :=
  match String.fromUTF8? input with
  | some input => perform s action input.toList
  | none => pure (.error ("failed to read stdin: " ++ Policy.ReadFault.notUtf8.message))

/-- An error is logged last and leaves no output. -/
def Outcome.ofJournal (j : Journal (Except String Text)) : Outcome :=
  match j.value with
  | .ok output => ⟨0, output, j.events.filter isLogged⟩
  | .error reason => ⟨1, [], (j.events ++ [Event.failed reason]).filter isLogged⟩

def run (request : Request) (source : Option (Except Policy.ReadFault ByteArray))
    (input : ByteArray) : Outcome :=
  .ofJournal do
    match ← sanitizer source with
    | .ok s => performOn s request.action input
    | .error reason => pure (.error reason)

def Stop.outcome : Stop → Outcome
  | .help => ⟨0, [], []⟩
  | .badUsage => ⟨2, [], []⟩

end SafeOutput.Command
