import LayeredConfig.Yaml.Fault
import LayeredConfig.Yaml.Token
import LayeredConfig.Yaml.Tree

/-!
# From tokens to a tree

The grammar of documents over tokens.  A stream holds no document or one.  Each function reads from
the front of the tokens that are left; the anchors defined so far go along with them.
-/

set_option autoImplicit false

namespace LayeredConfig.Yaml

structure Reading where
  tokens : List Token
  /-- The number of each anchor name, once for a name. -/
  anchors : List (List Char × Nat)
  /-- The expansions of tag handles. -/
  handles : List (List Char × List UInt8)

abbrev Reader (α : Type) : Type := StateT Reading (Except Fault) α

namespace Reader

def peek? : Reader (Option Token) := do
  return (← get).tokens.head?

def skip : Reader Unit :=
  modify fun state => { state with tokens := state.tokens.drop 1 }

/-- The next token is one of some; the end of the text is none of them. -/
def atOneOf (expected : List Token) : Reader Bool := do
  return (← peek?).any expected.contains

/-- Gives an anchor the next number: the number of names defined before.  A name that is defined
again keeps no second place. -/
def define (name : List Char) : Reader Nat := do
  let state ← get
  let number := state.anchors.length
  let others := state.anchors.filter fun entry => entry.1 ≠ name
  set { state with anchors := (name, number) :: others }
  return number

def refer (name : List Char) : Reader Nat := do
  match (← get).anchors.lookup name with
  | some number => return number
  | none => throw .unknownAlias

/-- The text of a tag with its handle expanded. -/
def expand (handle : List Char) (suffix : List UInt8) : Reader (List UInt8) := do
  if handle.isEmpty then return suffix
  match (← get).handles.lookup handle with
  | some expansion => return expansion ++ suffix
  | none => throw .tagHandle

def readAnchor? : Reader (Option (List Char)) := do
  match ← peek? with
  | some (.anchor name) =>
      skip
      return some name
  | _ => return none

def readTag? : Reader (Option (List Char × List UInt8)) := do
  match ← peek? with
  | some (.tag handle suffix) =>
      skip
      return some (handle, suffix)
  | _ => return none

def readProperties : Reader Properties := do
  let anchor ← readAnchor?
  let tag ← readTag?
  let anchor ← if anchor.isNone then readAnchor? else pure anchor
  let tag ←
    match tag with
    | none => pure none
    | some (handle, suffix) => some <$> expand handle suffix
  let anchor ←
    match anchor with
    | none => pure none
    | some name => some <$> define name
  return ⟨anchor, tag⟩

mutual

/-- A node.  `block` allows block collections, and `indentless` a block sequence that is not
indented below the key in front of it. -/
def readNode (block indentless : Bool) : Nat → Reader Tree
  | 0 => throw .shape
  | fuel + 1 => do
      match ← peek? with
      | some (.alias name) =>
          skip
          return .alias (← refer name)
      | _ =>
          let properties ← readProperties
          match ← peek? with
          | some (.scalar text plain) =>
              skip
              return .scalar properties text plain
          | some .flowSequenceStart =>
              skip
              return .sequence properties (← readFlowItems true fuel)
          | some .flowMappingStart =>
              skip
              return .mapping properties (← readFlowEntries true fuel)
          | next =>
              if next = some .blockEntry ∧ indentless then
                return .sequence properties (← readIndentlessItems fuel)
              else if next = some .blockSequenceStart ∧ block then
                skip
                return .sequence properties (← readBlockItems fuel)
              else if next = some .blockMappingStart ∧ block then
                skip
                return .mapping properties (← readBlockEntries fuel)
              else if properties.anchor.isSome ∨ properties.tag.isSome then
                return .scalar properties [] true
              else throw .shape

def readBlockItems : Nat → Reader (List Tree)
  | 0 => throw .shape
  | fuel + 1 => do
      match ← peek? with
      | some .blockEntry =>
          skip
          let item ←
            if ← atOneOf [.blockEntry, .blockEnd] then pure .absent
            else readNode true false fuel
          return item :: (← readBlockItems fuel)
      | some .blockEnd =>
          skip
          return []
      | _ => throw .shape

def readIndentlessItems : Nat → Reader (List Tree)
  | 0 => throw .shape
  | fuel + 1 => do
      match ← peek? with
      | some .blockEntry =>
          skip
          let item ←
            if ← atOneOf [.blockEntry, .key, .value, .blockEnd] then pure .absent
            else readNode true false fuel
          return item :: (← readIndentlessItems fuel)
      | _ => return []

def readBlockEntries : Nat → Reader (List (Tree × Tree))
  | 0 => throw .shape
  | fuel + 1 => do
      match ← peek? with
      | some .key =>
          skip
          let key ←
            if ← atOneOf [.key, .value, .blockEnd] then pure .absent
            else readNode true true fuel
          let value ←
            if ← atOneOf [.value] then
              skip
              if ← atOneOf [.key, .value, .blockEnd] then pure .absent
              else readNode true true fuel
            else pure .absent
          return (key, value) :: (← readBlockEntries fuel)
      | some .blockEnd =>
          skip
          return []
      | _ => throw .shape

/-- The items of a flow sequence; before each but the first stands a comma. -/
def readFlowItems (first : Bool) : Nat → Reader (List Tree)
  | 0 => throw .shape
  | fuel + 1 => do
      if ← atOneOf [.flowSequenceEnd] then
        skip
        return []
      if !first then
        if ← atOneOf [.flowEntry] then skip else throw .shape
      if ← atOneOf [.flowSequenceEnd] then
        skip
        return []
      let item ←
        if ← atOneOf [.key] then
          skip
          readFlowPair fuel
        else readNode false false fuel
      return item :: (← readFlowItems false fuel)

/-- A mapping of one entry inside a flow sequence.  A key that is left out takes the next token
with it. -/
def readFlowPair : Nat → Reader Tree
  | 0 => throw .shape
  | fuel + 1 => do
      let key ←
        if ← atOneOf [.value, .flowEntry, .flowSequenceEnd] then
          skip
          pure .absent
        else readNode false false fuel
      let value ←
        if ← atOneOf [.value] then
          skip
          if ← atOneOf [.flowEntry, .flowSequenceEnd] then pure .absent
          else readNode false false fuel
        else pure .absent
      return .mapping .none [(key, value)]

/-- The entries of a flow mapping; before each but the first stands a comma. -/
def readFlowEntries (first : Bool) : Nat → Reader (List (Tree × Tree))
  | 0 => throw .shape
  | fuel + 1 => do
      if ← atOneOf [.flowMappingEnd] then
        skip
        return []
      if !first then
        if ← atOneOf [.flowEntry] then skip else throw .shape
      if ← atOneOf [.flowMappingEnd] then
        skip
        return []
      let entry ←
        if ← atOneOf [.key] then
          skip
          let key ←
            if ← atOneOf [.value, .flowEntry, .flowMappingEnd] then pure .absent
            else readNode false false fuel
          let value ←
            if ← atOneOf [.value] then
              skip
              if ← atOneOf [.flowEntry, .flowMappingEnd] then pure .absent
              else readNode false false fuel
            else pure .absent
          pure (key, value)
        else
          let key ← readNode false false fuel
          pure (key, .absent)
      return entry :: (← readFlowEntries false fuel)

end

/-! ## Documents -/

def standardHandles : List (List Char × List UInt8) :=
  [(['!'], "!".toUTF8.toList), (['!', '!'], "tag:yaml.org,2002:".toUTF8.toList)]

def knownVersion (major minor : Nat) : Bool :=
  major == 1 && (minor == 1 || minor == 2)

/-- Directives at the start of the tokens, each handle and the version declared once. -/
def readDirectives : Bool → List (List Char × List UInt8) → List Token →
    Except Fault (List (List Char × List UInt8) × List Token)
  | versioned, handles, .version major minor :: rest =>
      if versioned || !knownVersion major minor then .error .directive
      else readDirectives true handles rest
  | versioned, handles, .tagHandle handle expansion :: rest =>
      if (handles.lookup handle).isSome then .error .directive
      else readDirectives versioned ((handle, expansion) :: handles) rest
  | _, handles, rest => .ok (handles, rest)

def startsExplicit : Token → Bool
  | .version .. | .tagHandle .. | .documentStart => true
  | _ => false

def endsContent : Token → Bool
  | .version .. | .tagHandle .. | .documentStart | .documentEnd => true
  | _ => false

def readRoot (explicit : Bool) (fuel : Nat) : Reader Tree := do
  match ← peek? with
  | none => if explicit then return .absent else readNode true false fuel
  | some token =>
      if explicit && endsContent token then return .absent else readNode true false fuel

/-- The one document of a stream; `none` when there is none.  The reader of nodes takes at least a
token in every second step, which bounds its steps. -/
def readStream (tokens : List Token) : Except Fault (Option Tree) := do
  let fuel := 4 * tokens.length + 8
  match tokens with
  | [] => return none
  | first :: _ =>
      let explicit := startsExplicit first
      let (handles, rest) ←
        if explicit then readDirectives false [] tokens else pure ([], tokens)
      let rest ←
        if explicit then
          match rest with
          | .documentStart :: rest => pure rest
          | _ => throw .shape
        else pure rest
      let (tree, after) ←
        (readRoot explicit fuel).run ⟨rest, [], handles ++ standardHandles⟩
      match after.tokens.dropWhile (· == .documentEnd) with
      | [] => return some tree
      | _ :: _ => throw .severalDocuments

end Reader

end LayeredConfig.Yaml
