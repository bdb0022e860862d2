import SafeOutput.Yaml.Token

namespace SafeOutput.Yaml

/-- A node of a document as it is written. An alias carries the number of the anchor that it
repeats. -/
inductive Node where
  | scalar (tag : Option Octets) (plain : Bool) (text : Text)
  | sequence (items : List Node)
  | mapping (entries : List (Node × Node))
  | alias (number : Nat)
  deriving Repr

/-- A scalar that is not written at all. -/
def Node.empty : Node := .scalar none true []

/-- A document with the nodes that have anchors, each by its number. -/
structure Tree where
  root : Node
  anchored : List (Nat × Node)

/-- The node that an alias repeats; any other node is itself. -/
def Tree.follow (t : Tree) : Node → Node
  | .alias number => (t.anchored.lookup number).getD (.alias number)
  | node => node

/-- What is left of the tokens, the tag handles that are declared, the number that each name of an
anchor stands for, and the complete nodes with anchors. -/
structure Reading where
  tokens : List Token
  handles : List (Text × Octets)
  names : List (Text × Nat)
  anchored : List (Nat × Node)

namespace Reading

abbrev Reader := StateT Reading Option

def peek : Reader Token := do
  match (← get).tokens with
  | t :: _ => pure t
  | [] => failure

def advance : Reader Unit := modify fun r => { r with tokens := r.tokens.tail }

def accept (t : Token) : Reader Bool := do
  if (← peek) == t then
    advance
    pure true
  else pure false

def expect (t : Token) : Reader Unit := do
  if !(← accept t) then failure

def anchor? : Reader (Option Text) := do
  match ← peek with
  | .anchor name =>
    advance
    pure (some name)
  | _ => pure none

/-- The full tag at the head of the tokens; its handle must be declared. -/
def tag? : Reader (Option Octets) := do
  match ← peek with
  | .tag ⟨handle, suffix⟩ =>
    advance
    if handle.isEmpty then pure (some suffix)
    else
      match (← get).handles.lookup handle with
      | some start => pure (some (start ++ suffix))
      | none => failure
  | _ => pure none

/-- An anchor and a tag, in either order. -/
def properties : Reader (Option Text × Option Octets) := do
  match ← anchor? with
  | some name => pure (some name, ← tag?)
  | none =>
    match ← tag? with
    | some tag => pure (← anchor?, some tag)
    | none => pure (none, none)

def aliasOf (name : Text) : Reader Node := do
  match (← get).names.lookup name with
  | some number => pure (.alias number)
  | none => failure

/-- Gives an anchor to the node that starts here. Its number is the count of the names known so far,
so a name that is given anew shares its number with the next new one, and the node that starts last
has it. -/
def startAnchor (name : Option Text) : Reader (Option Nat) := do
  match name with
  | some name =>
    let r ← get
    let number := r.names.length
    set { r with
      names := (name, number) :: r.names.filter (·.1 != name)
      anchored := r.anchored.filter (·.1 != number) }
    pure (some number)
  | none => pure none

/-- Completes a node with an anchor, unless its number was given anew inside it. -/
def finish (number : Option Nat) (node : Node) : Reader Node := do
  match number with
  | some number =>
    modify fun r =>
      if (r.anchored.lookup number).isSome then r
      else { r with anchored := (number, node) :: r.anchored }
  | none => pure ()
  pure node

mutual

/-- A node. `block` allows blocks, and `indentless` also a sequence at the column of its key. -/
def node (block indentless : Bool) : Nat → Reader Node
  | 0 => failure
  | fuel + 1 => do
    match ← peek with
    | .alias name =>
      advance
      aliasOf name
    | _ =>
      let (name, tag) ← properties
      let written := name.isSome || tag.isSome
      let number ← startAnchor name
      match ← peek with
      | .scalar plain text =>
        advance
        finish number (.scalar tag plain text)
      | .blockEntry =>
        if indentless then finish number (.sequence (← indentlessEntries fuel))
        else bare written number tag
      | .blockSequenceStart =>
        if block then
          advance
          finish number (.sequence (← blockEntries fuel))
        else bare written number tag
      | .blockMappingStart =>
        if block then
          advance
          finish number (.mapping (← blockPairs fuel))
        else bare written number tag
      | .flowSequenceStart =>
        advance
        finish number (.sequence (← flowEntries true fuel))
      | .flowMappingStart =>
        advance
        finish number (.mapping (← flowPairs true fuel))
      | _ => bare written number tag

/-- A node of which only the anchor or the tag is written; one of them must be. -/
def bare (written : Bool) (number : Option Nat) (tag : Option Octets) : Reader Node := do
  if !written then failure
  finish number (.scalar tag true [])

/-- A node, or an empty one before the tokens given. -/
def nodeOrEmpty (block indentless : Bool) (ends : List Token) : Nat → Reader Node
  | 0 => failure
  | fuel + 1 => do
    if ends.contains (← peek) then pure .empty else node block indentless fuel

def blockEntries : Nat → Reader (List Node)
  | 0 => failure
  | fuel + 1 => do
    if ← accept .blockEntry then
      let item ← nodeOrEmpty true false [.blockEntry, .blockEnd] fuel
      return item :: (← blockEntries fuel)
    expect .blockEnd
    pure []

def indentlessEntries : Nat → Reader (List Node)
  | 0 => failure
  | fuel + 1 => do
    if ← accept .blockEntry then
      let item ← nodeOrEmpty true false [.blockEntry, .key, .value, .blockEnd] fuel
      return item :: (← indentlessEntries fuel)
    pure []

def blockPairs : Nat → Reader (List (Node × Node))
  | 0 => failure
  | fuel + 1 => do
    if ← accept .key then
      let key ← nodeOrEmpty true true [.key, .value, .blockEnd] fuel
      let value ← blockValue fuel
      return (key, value) :: (← blockPairs fuel)
    expect .blockEnd
    pure []

def blockValue : Nat → Reader Node
  | 0 => failure
  | fuel + 1 => do
    if ← accept .value then nodeOrEmpty true true [.key, .value, .blockEnd] fuel
    else pure .empty

def flowEntries (first : Bool) : Nat → Reader (List Node)
  | 0 => failure
  | fuel + 1 => do
    if ← accept .flowSequenceEnd then return []
    if !first then expect .flowEntry
    if ← accept .flowSequenceEnd then return []
    let item ←
      if ← accept .key then
        let key ← nodeOrEmpty false false [.value, .flowEntry, .flowSequenceEnd] fuel
        let value ← flowValue [.flowEntry, .flowSequenceEnd] fuel
        pure (.mapping [(key, value)])
      else node false false fuel
    return item :: (← flowEntries false fuel)

def flowPairs (first : Bool) : Nat → Reader (List (Node × Node))
  | 0 => failure
  | fuel + 1 => do
    if ← accept .flowMappingEnd then return []
    if !first then expect .flowEntry
    if ← accept .flowMappingEnd then return []
    if ← accept .key then
      let key ← nodeOrEmpty false false [.value, .flowEntry, .flowMappingEnd] fuel
      let value ← flowValue [.flowEntry, .flowMappingEnd] fuel
      return (key, value) :: (← flowPairs false fuel)
    let key ← node false false fuel
    return (key, .empty) :: (← flowPairs false fuel)

def flowValue (ends : List Token) : Nat → Reader Node
  | 0 => failure
  | fuel + 1 => do
    if ← accept .value then nodeOrEmpty false false ends fuel else pure .empty

end

/-- Takes the directives before a document: the version at most once, each handle at most once. -/
def directives : Nat → Bool → Reader Unit
  | 0, _ => failure
  | fuel + 1, versioned => do
    match ← peek with
    | .versionDirective major minor =>
      if versioned || major != 1 || (minor != 1 && minor != 2) then failure
      advance
      directives fuel true
    | .tagDirective handle start =>
      if ((← get).handles.lookup handle).isSome then failure
      advance
      modify fun r => { r with handles := (handle, start) :: r.handles }
      directives fuel versioned
    | _ => pure ()

def documentEnds : Nat → Reader Unit
  | 0 => pure ()
  | fuel + 1 => do
    if ← accept .documentEnd then documentEnds fuel

def defaultHandles : List (Text × Octets) :=
  [("!".toList, asciiOctets "!".toList), ("!!".toList, asciiOctets "tag:yaml.org,2002:".toList)]

def isDirective : Token → Bool
  | .versionDirective .. | .tagDirective .. => true
  | _ => false

/-- The only document of the tokens. Directives need a mark behind them. -/
def document (fuel : Nat) : Reader Node := do
  let first ← peek
  directives fuel false
  modify fun r => { r with handles := r.handles ++ defaultHandles }
  let root ←
    if isDirective first || (← peek) == .documentStart then
      expect .documentStart
      nodeOrEmpty true false [.documentStart, .documentEnd, .streamEnd] fuel
    else node true false fuel
  documentEnds fuel
  expect .streamEnd
  pure root

end Reading

/-- The document that a text is, if it is just one. -/
def Tree.parse? (t : Text) : Option Tree := do
  let ts ← tokens? t
  let (root, r) ← (Reading.document (4 * ts.length + 8)).run ⟨ts, [], [], []⟩
  some ⟨root, r.anchored⟩

end SafeOutput.Yaml
