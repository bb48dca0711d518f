import LayeredConfig.Text.Separated
import LayeredConfig.Url.PercentEncoding

/-!
# Path segments

The path of a URL as the list of its segments.  A segment `.` says to stay and a segment `..` to go
up, also with percent-encoded full stops; neither is left in the path that a text stands for.
-/

set_option autoImplicit false

namespace LayeredConfig.Url

def isSingleDot (segment : List Char) : Bool :=
  let folded := segment.map Char.toLower
  folded == ".".toList || folded == "%2e".toList

def isDoubleDot (segment : List Char) : Bool :=
  let folded := segment.map Char.toLower
  [("..".toList), (".%2e".toList), ("%2e.".toList), ("%2e%2e".toList)].contains folded

/-- A letter with a colon or a bar, which names a drive in the path of a file. -/
def isDrive : List Char → Bool
  | [letter, mark] => letter.isAlpha && (mark == ':' || mark == '|')
  | _ => false

structure PathRules where
  /-- A backslash separates segments, too. -/
  backslash : Bool
  /-- The first segment may name a drive, and empty segments at the start are dropped. -/
  file : Bool
  deriving DecidableEq, Repr

/-- The segments without the last one; a drive stays. -/
def goUp (rules : PathRules) (newestFirst : List (List Char)) : List (List Char) :=
  match newestFirst with
  | [] => []
  | segment :: others => if rules.file && isDrive segment then segment :: others else others

/-- The segments that a segment at the start of the path of a file stands for. -/
def driveSegments (segment : List Char) : List (List Char) :=
  match segment with
  | [letter, '|'] => if letter.isAlpha then [[letter, ':']] else [segment]
  | letter :: ':' :: c :: rest =>
      if letter.isAlpha then [c :: rest, [letter, ':']] else [segment]
  | _ => [segment]

/-- Takes segments as they are written into a path, which is kept newest first.  A segment names a
drive only if no other one, not even an empty one, stands before it. -/
def resolveSegments (rules : PathRules) : List (List Char) → List (List Char) → List (List Char)
  | path, [] => path
  | path, segment :: rest =>
      if isDoubleDot segment then
        let path := goUp rules path
        resolveSegments rules (if rest.isEmpty then [] :: path else path) rest
      else if isSingleDot segment then
        resolveSegments rules (if rest.isEmpty then [] :: path else path) rest
      else if rules.file && path.isEmpty then
        resolveSegments rules (driveSegments segment ++ path) rest
      else resolveSegments rules (segment :: path) rest

/-- The segments as they are written, with the characters encoded that a path may not have. -/
def writtenSegments (rules : PathRules) (text : List Char) : List (List Char) :=
  (Text.split '/' (if rules.backslash then text.map fun c => if c = '\\' then '/' else c
    else text)).map (percentEncode pathEncoded)

/-- The path without empty segments at its start, one segment at least. -/
def dropEmptyStart : List (List Char) → List (List Char)
  | [] => [[]]
  | [segment] => [segment]
  | segment :: rest => if segment.isEmpty then dropEmptyStart rest else segment :: rest

/-- The segments of a path given the segments it starts from, without the slash in front. -/
def segmentsAfter (rules : PathRules) (start : List (List Char)) (text : List Char) :
    List (List Char) :=
  let path := (resolveSegments rules start.reverse (writtenSegments rules text)).reverse
  if rules.file then dropEmptyStart path else path

def printSegments (segments : List (List Char)) : List Char :=
  segments.flatMap fun segment => '/' :: segment

end LayeredConfig.Url
