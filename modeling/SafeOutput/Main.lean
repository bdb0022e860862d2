import SafeOutput.Command

namespace SafeOutput

def jsonString (s : String) : String :=
  let escape (c : Char) : List Char :=
    match c with
    | '"' => ['\\', '"']
    | '\\' => ['\\', '\\']
    | '\n' => ['\\', 'n']
    | '\r' => ['\\', 'r']
    | '\t' => ['\\', 't']
    | '\x08' => ['\\', 'b']
    | '\x0c' => ['\\', 'f']
    | _ => if c.toNat < 0x20 then '\\' :: 'u' :: Text.hex 4 c.toNat else [c]
  String.ofList ('"' :: s.toList.flatMap escape ++ ['"'])

def FieldValue.toJson : FieldValue → String
  | number n => toString n
  | flag b => if b then "true" else "false"
  | text s => jsonString s

def Event.toJson (e : Event) : String :=
  let fields := ("message", FieldValue.text e.message) :: e.fields
  let body := String.intercalate "," (fields.map fun (name, v) => jsonString name ++ ":" ++ v.toJson)
  "\x7b\"level\":" ++ jsonString e.level.label ++ ",\"fields\":\x7b" ++ body ++ "\x7d\x7d"

def readSource (path : String) : IO (Except Policy.ReadFault ByteArray) := do
  try
    return .ok (← IO.FS.readBinFile path)
  catch
    | .noFileOrDirectory .. => return .error .missing
    | e => return .error (.other (toString e))

def usage : String :=
  "usage: parapet-sanitize [--config PATH] clean-html [--allow TAG]... | html-to-text | escape-html"

def finish (o : Command.Outcome) : IO UInt32 := do
  for e in o.log do
    IO.eprintln e.toJson
  IO.print (String.ofList o.output)
  (← IO.getStdout).flush
  return o.exitCode.toUInt32

end SafeOutput

open SafeOutput

def main (args : List String) : IO UInt32 := do
  let env ← IO.getEnv "PARAPET_SANITIZE_CONFIG"
  match Command.parse (args.map String.toList) (env.map String.toList) with
  | .error .help =>
    IO.println usage
    return 0
  | .error .badUsage =>
    IO.eprintln usage
    return 2
  | .ok request =>
    let source ← request.policyPath.mapM fun path => readSource (String.ofList path)
    let sanitizer := Command.sanitizer source
    match sanitizer.value with
    | .error _ => finish (Command.run request source .empty)
    | .ok _ => finish (Command.run request source (← (← IO.getStdin).readBinToEnd))
