import LayeredConfig.Domain.Name
import LayeredConfig.Url.Fault
import LayeredConfig.Url.PercentEncoding

/-!
# Hosts

The host of a URL: a domain, an address in dotted numbers, an address in brackets, or for unknown
schemes a text.  A domain whose last label is a number has to be an address.
-/

set_option autoImplicit false

namespace LayeredConfig.Url

inductive Host where
  | domain (name : List Char)
  | ipv4 (address : Nat)
  | ipv6 (pieces : List Nat)
  /-- The host of a URL whose scheme is unknown. -/
  | other (text : List Char)
  deriving DecidableEq, Repr

/-! ## Domains -/

def domain (host : List Char) : Except Fault (List Char) :=
  match Text.decode (percentDecode host) with
  | .error _ => .error .domainName
  | .ok text =>
      match Domain.name? text with
      | none => .error .domainName
      | some name => if name.isEmpty then .error .emptyHost else .ok name

/-! ## Dotted addresses -/

/-- A number of a dotted address: hexadecimal after `0x`, octal after another zero.  A lone prefix
is zero. -/
def dottedNumber? (text : List Char) : Option Nat :=
  match text with
  | [] => none
  | '0' :: x :: digits =>
      if x = 'x' ∨ x = 'X' then Decimal.digitsFrom? 16 0 digits
      else Decimal.digitsFrom? 8 0 (x :: digits)
  | digits => Decimal.digitsFrom? 10 0 digits

/-- The labels of a name without the empty one after a final full stop. -/
def dottedLabels (name : List Char) : List (List Char) :=
  let labels := Text.split '.' name
  if 2 ≤ labels.length ∧ labels.getLast? = some [] then labels.dropLast else labels

def endsInNumber (name : List Char) : Bool :=
  match (dottedLabels name).getLast? with
  | none => false
  | some label => (!label.isEmpty && Decimal.allDigits label) || (dottedNumber? label).isSome

def maxByte : Nat := 255

/-- A dotted address of up to four numbers.  The last one fills the bytes that the others leave. -/
def ipv4? (name : List Char) : Option Nat :=
  let labels := dottedLabels name
  if 4 < labels.length then none
  else
    match labels.mapM dottedNumber? with
    | none => none
    | some numbers =>
        let leading := numbers.dropLast
        let last := numbers.getLast?.getD 0
        if last < Nat.pow 256 (4 - leading.length) ∧ leading.all (· ≤ maxByte) then
          some
            (leading.foldl (fun sum n => sum * 256 + n) 0 * Nat.pow 256 (4 - leading.length) + last)
        else none

/-! ## Addresses in brackets -/

/-- A number of one byte without leading zeros at the start of a text, and the rest. -/
def readByte? (text : List Char) : Option (Nat × List Char) :=
  let digits := text.takeWhile Char.isDigit
  match digits with
  | '0' :: _ :: _ => none
  | _ =>
      match Decimal.natural? 10 digits with
      | some n => if n ≤ maxByte then some (n, text.drop digits.length) else none
      | none => none

def dottedPieces? (text : List Char) : Option (List Nat) := do
  let (a, rest) ← readByte? text
  let rest ← match rest with | '.' :: rest => some rest | _ => none
  let (b, rest) ← readByte? rest
  let rest ← match rest with | '.' :: rest => some rest | _ => none
  let (c, rest) ← readByte? rest
  let rest ← match rest with | '.' :: rest => some rest | _ => none
  let (d, rest) ← readByte? rest
  if rest.isEmpty then some [a * 256 + b, c * 256 + d] else none

def pieceCount : Nat := 8

/-- The pieces of the rest of an address; `gap` is the place where left-out zeros belong. -/
def readPieces : Nat → List Nat → Option Nat → List Char → Option (List Nat × Option Nat)
  | _, pieces, gap, [] => some (pieces, gap)
  | 0, _, _, _ :: _ => none
  | fuel + 1, pieces, gap, c :: rest =>
      if pieceCount ≤ pieces.length then none
      else if c = ':' then
        if gap.isSome then none
        else readPieces fuel (pieces ++ [0]) (some (pieces.length + 1)) rest
      else
        let digits := ((c :: rest).take 4).takeWhile fun d => (Decimal.digitValue? 16 d).isSome
        let after := (c :: rest).drop digits.length
        let pieces' := pieces ++ [(Decimal.digitsFrom? 16 0 digits).getD 0]
        match after with
        | [] => some (pieces', gap)
        | '.' :: _ =>
            if digits.isEmpty ∨ pieceCount - 2 < pieces.length then none
            else (dottedPieces? (c :: rest)).map fun last => (pieces ++ last, gap)
        | ':' :: next => if next.isEmpty then none else readPieces fuel pieces' gap next
        | _ :: _ => none

def ipv6? (text : List Char) : Option (List Nat) :=
  let read :=
    match text with
    | ':' :: ':' :: rest => readPieces (text.length + 1) [0] (some 1) rest
    | ':' :: _ => none
    | [] => none
    | [_] => none
    | _ => readPieces (text.length + 1) [] none text
  match read with
  | none => none
  | some (pieces, none) => if pieces.length = pieceCount then some pieces else none
  | some (pieces, some gap) =>
      if pieces.length ≤ pieceCount then
        some (pieces.take gap ++
          (List.replicate (pieceCount - pieces.length) 0 ++ pieces.drop gap))
      else none

/-! ## Hosts of a scheme -/

def knownHost (text : List Char) : Except Fault Host :=
  match text with
  | '[' :: inner =>
      if inner.getLast? = some ']' then
        match ipv6? inner.dropLast with
        | some pieces => .ok (.ipv6 pieces)
        | none => .error .ipv6Address
      else .error .ipv6Address
  | _ =>
      match domain text with
      | .error fault => .error fault
      | .ok name =>
          if endsInNumber name then
            match ipv4? name with
            | some address => .ok (.ipv4 address)
            | none => .error .ipv4Address
          else .ok (.domain name)

def forbiddenInHost : List Char :=
  ['\x00', '\t', '\n', '\r', ' ', '#', '/', ':', '<', '>', '?', '@', '[', '\\', ']', '^', '|']

def otherHost (text : List Char) : Except Fault Host :=
  match text with
  | '[' :: inner =>
      if inner.getLast? = some ']' then
        match ipv6? inner.dropLast with
        | some pieces => .ok (.ipv6 pieces)
        | none => .error .ipv6Address
      else .error .ipv6Address
  | _ =>
      if text.any forbiddenInHost.contains then .error .hostCharacter
      else .ok (.other (percentEncode [] text))

def printIpv4 (address : Nat) : List Char :=
  Text.join '.'
    ([address / Nat.pow 256 3, address / Nat.pow 256 2, address / 256, address].map fun n =>
      Nat.toDigits 10 (n % 256))

/-- The length of the run of zeros at the start of some pieces. -/
def zeroRun (pieces : List Nat) : Nat := (pieces.takeWhile (· == 0)).length

/-- The start and the length of the first longest run of zeros. -/
def longestZeros (pieces : List Nat) : Nat × Nat :=
  (List.range pieces.length).foldl
    (fun best start =>
      let length := zeroRun (pieces.drop start)
      if best.2 < length then (start, length) else best)
    (0, 0)

/-- Pieces with colons between them, the first longest run of at least two zeros left out. -/
def printIpv6 (pieces : List Nat) : List Char :=
  let group (part : List Nat) := Text.join ':' (part.map (Nat.toDigits 16))
  let (start, length) := longestZeros pieces
  if 2 ≤ length then
    '[' :: (group (pieces.take start) ++
      (':' :: ':' :: (group (pieces.drop (start + length)) ++ [']'])))
  else '[' :: (group pieces ++ [']'])

def Host.print : Host → List Char
  | .domain name => name
  | .ipv4 address => printIpv4 address
  | .ipv6 pieces => printIpv6 pieces
  | .other text => text

end LayeredConfig.Url
