import LayeredConfig.Url.Host
import LayeredConfig.Url.Segments

/-!
# URLs

A URL read from text, alone or relative to another one.  Blanks and controls around the text and
line breaks within it do not count.
-/

set_option autoImplicit false

namespace LayeredConfig

structure Url where
  scheme : List Char
  /-- The name and password of a user, as they are written. -/
  user : List Char
  host : Option Url.Host
  /-- The port, unless it is the usual one of the scheme. -/
  port : Option Nat
  /-- The path: segments, or a text that cannot be taken apart. -/
  path : List (List Char) ⊕ List Char
  query : Option (List Char)
  fragment : Option (List Char)
  deriving DecidableEq

namespace Url

/-! ## Schemes -/

inductive SchemeKind where
  | special
  | file
  | other
  deriving DecidableEq, Repr

def schemeKind (scheme : List Char) : SchemeKind :=
  if scheme = "file".toList then .file
  else if ["http", "https", "ws", "wss", "ftp"].any (·.toList == scheme) then .special
  else .other

def usualPort? (scheme : List Char) : Option Nat :=
  if scheme = "http".toList ∨ scheme = "ws".toList then some 80
  else if scheme = "https".toList ∨ scheme = "wss".toList then some 443
  else if scheme = "ftp".toList then some 21
  else none

def pathRules (kind : SchemeKind) : PathRules :=
  ⟨kind != .other, kind == .file⟩

def isSchemeChar (c : Char) : Bool :=
  c.isAlphanum || c == '+' || c == '-' || c == '.'

/-- The scheme at the start of a text in small letters, and the text after its colon. -/
def readScheme (text : List Char) : Option (List Char × List Char) :=
  let scheme := text.takeWhile isSchemeChar
  match scheme, text.drop scheme.length with
  | first :: _, ':' :: rest => if first.isAlpha then some (scheme.map Char.toLower, rest) else none
  | _, _ => none

/-- A text without the controls and spaces around it and without tabs and line breaks. -/
def clean (text : List Char) : List Char :=
  let outer (c : Char) : Bool := c.toNat ≤ 0x20
  let inner := ((text.dropWhile outer).reverse.dropWhile outer).reverse
  inner.filter fun c => !(c == '\t' || c == '\n' || c == '\r')

def isSlash (kind : SchemeKind) (c : Char) : Bool :=
  c == '/' || (kind != .other && c == '\\')

/-! ## Parts behind the path -/

def encodeQuery (kind : SchemeKind) (text : List Char) : List Char :=
  percentEncode (if kind = .other then queryEncoded else specialQueryEncoded) text

def readEnding (kind : SchemeKind) (text : List Char) : Option (List Char) × Option (List Char) :=
  let beforeHash := text.takeWhile (· ≠ '#')
  let fragment :=
    match text.drop beforeHash.length with
    | '#' :: fragment => some (percentEncode [' ', '"', '<', '>', '\x60'] fragment)
    | _ => none
  let query :=
    match beforeHash with
    | '?' :: query => some (encodeQuery kind query)
    | _ => none
  (query, fragment)

def splitEnding (text : List Char) : List Char × List Char :=
  let path := text.takeWhile fun c => c ≠ '?' && c ≠ '#'
  (path, text.drop path.length)

/-! ## Authorities -/

/-- The name and password of a user as they are written; nothing when both are empty. -/
def encodeUser (text : List Char) : List Char :=
  let name := text.takeWhile (· ≠ ':')
  let password := text.drop (name.length + 1)
  percentEncode userEncoded name ++
    (if password.isEmpty then [] else ':' :: percentEncode userEncoded password)

def splitAuthority (kind : SchemeKind) (text : List Char) : List Char × List Char :=
  let authority := text.takeWhile fun c => !(isSlash kind c || c == '?' || c == '#')
  (authority, text.drop authority.length)

def splitUser (authority : List Char) : Option (List Char) × List Char :=
  if authority.contains '@' then
    let rest := (authority.reverse.takeWhile (· ≠ '@')).reverse
    (some (authority.take (authority.length - rest.length - 1)), rest)
  else (none, authority)

/-- The host of an authority, which ends at the first colon outside brackets, and the rest. -/
def splitHost : Bool → List Char → List Char × List Char
  | _, [] => ([], [])
  | inBrackets, c :: rest =>
      if c = ':' ∧ inBrackets = false then ([], c :: rest)
      else
        let inBrackets := if c = '[' then true else if c = ']' then false else inBrackets
        let (host, rest) := splitHost inBrackets rest
        (c :: host, rest)

def maxPort : Nat := 65535

/-- The port after a host, and the text after it: no port, or a colon and digits that may be
missing.  The digits end with the text or at a backslash. -/
def readPort (scheme : List Char) (text : List Char) : Except Fault (Option Nat × List Char) :=
  match text with
  | ':' :: rest =>
      let digits := rest.takeWhile (· ≠ '\\')
      let after := rest.drop digits.length
      match Decimal.digitsFrom? 10 0 digits with
      | none => .error .port
      | some port =>
          if maxPort < port then .error .port
          else if digits.isEmpty ∨ usualPort? scheme = some port then .ok (none, after)
          else .ok (some port, after)
  | _ => .ok (none, text)

/-- The host and the port of an authority, after the user, and the text after them. -/
def readHost (scheme : List Char) (kind : SchemeKind) (text : List Char) :
    Except Fault (Host × Option Nat × List Char) := do
  let (host, rest) := splitHost false text
  if host.isEmpty && (kind == .special || !rest.isEmpty) then throw .emptyHost
  let host ← if kind = .other then otherHost host else knownHost host
  let (port, after) ← readPort scheme rest
  return (host, port, after)

def pathAfterAuthority (kind : SchemeKind) (text : List Char) : List (List Char) :=
  match text with
  | [] => if kind = .other then [] else segmentsAfter (pathRules kind) [] []
  | c :: rest =>
      segmentsAfter (pathRules kind) [] (if isSlash kind c then rest else c :: rest)

def readAuthority (scheme : List Char) (kind : SchemeKind) (text : List Char) :
    Except Fault Url := do
  let (authority, rest) := splitAuthority kind text
  let (user, hostText) := splitUser authority
  let encoded := (user.map encodeUser).getD []
  if user.isSome && hostText.isEmpty && (user == some [] && !rest.isEmpty || !encoded.isEmpty) then
    throw .emptyHost
  let (host, port, after) ← readHost scheme kind hostText
  let (path, ending) := splitEnding (after ++ rest)
  let (query, fragment) := readEnding kind ending
  return ⟨scheme, encoded, some host, port, .inl (pathAfterAuthority kind path), query, fragment⟩

/-! ## Files -/

def fileHost (text : List Char) : Except Fault (Option Host) :=
  if text.isEmpty then .ok none
  else
    match knownHost text with
    | .error fault => .error fault
    | .ok (.domain name) => .ok (if name = "localhost".toList then none else some (.domain name))
    | .ok host => .ok (some host)

/-- The URL of a file, after its scheme.  The slash in front of the path belongs to it, as an empty
segment, where two slashes without a host precede. -/
def readFile (scheme : List Char) (text : List Char) : Except Fault Url := do
  let slash := isSlash .file
  let (host, rest, wholePath) ←
    match text with
    | a :: b :: rest =>
        if slash a && slash b then
          let (name, after) := splitAuthority .file rest
          if isDrive name then pure (none, rest, true)
          else
            match ← fileHost name with
            | none => pure (none, after, true)
            | some host => pure (some host, after, false)
        else pure (none, text, false)
    | _ => pure (none, text, false)
  let (path, ending) := splitEnding rest
  let segments :=
    if wholePath then segmentsAfter (pathRules .file) [] path else pathAfterAuthority .file path
  let (query, fragment) := readEnding .file ending
  return ⟨scheme, [], host, none, .inl segments, query, fragment⟩

/-! ## Whole URLs -/

def readAfterScheme (scheme text : List Char) : Except Fault Url :=
  let kind := schemeKind scheme
  match kind with
  | .file => readFile scheme text
  | .special => readAuthority scheme kind (text.dropWhile (isSlash kind))
  | .other =>
      match text with
      | '/' :: '/' :: rest => readAuthority scheme kind rest
      | _ =>
          let (path, ending) := splitEnding text
          let (query, fragment) := readEnding kind ending
          match path with
          | '/' :: rest =>
              .ok ⟨scheme, [], none, none, .inl (segmentsAfter (pathRules kind) [] rest), query,
                fragment⟩
          | _ => .ok ⟨scheme, [], none, none, .inr (percentEncode [] path), query, fragment⟩

def parse (text : String) : Except Fault Url :=
  match readScheme (clean text.toList) with
  | some (scheme, rest) => readAfterScheme scheme rest
  | none => .error .relative

def parentSegments (url : Url) : List (List Char) :=
  match url.path with
  | .inl segments => segments.dropLast
  | .inr _ => []

def readRelative (base : Url) (text : List Char) : Except Fault Url :=
  let kind := schemeKind base.scheme
  let (path, ending) := splitEnding text
  let (query, fragment) := readEnding kind ending
  match text with
  | [] => .ok { base with fragment := none }
  | c :: rest =>
      if isSlash kind c then
        match rest with
        | d :: _ =>
            if isSlash kind d then
              readAuthority base.scheme kind
                (if kind = .other then rest.drop 1 else rest.dropWhile (isSlash kind))
            else
              .ok { base with
                path := .inl (pathAfterAuthority kind path), query, fragment }
        | [] => .ok { base with path := .inl (pathAfterAuthority kind path), query, fragment }
      else if c = '#' then .ok { base with fragment }
      else if c = '?' then .ok { base with query, fragment }
      else
        .ok { base with
          path := .inl (segmentsAfter (pathRules kind) base.parentSegments path), query, fragment }

def join (base : Url) (text : String) : Except Fault Url :=
  let text := clean text.toList
  match readScheme text with
  | none =>
      match base.path with
      | .inl _ => readRelative base text
      | .inr _ => .error .relative
  | some (scheme, rest) =>
      let kind := schemeKind scheme
      if kind = .special ∧ scheme = base.scheme ∧
          (rest.takeWhile (isSlash kind)).length < 2 then
        readRelative base rest
      else readAfterScheme scheme rest

def lastSegment? (url : Url) : Option (List Char) :=
  match url.path with
  | .inl segments => segments.getLast?
  | .inr _ => none

/-- The text of a URL in a request: without user and fragment. -/
def requestText (url : Url) : String :=
  let authority :=
    match url.host with
    | none => []
    | some host =>
        '/' :: '/' :: (host.print ++
          ((url.port.map fun port => ':' :: Nat.toDigits 10 port).getD []))
  let path :=
    match url.path with
    | .inl segments => printSegments segments
    | .inr text => text
  let query := (url.query.map fun query => '?' :: query).getD []
  String.ofList (url.scheme ++ ':' :: (authority ++ path ++ query))

end Url

end LayeredConfig
