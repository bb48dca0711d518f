import LayeredConfig.Domain.Direction
import LayeredConfig.Domain.EncodedLabel
import LayeredConfig.Domain.Repertoire

/-!
# Domain names

A domain name in the form in which it is looked up.  Characters are folded, the text is brought into
its normal form, and each label outside of ASCII is encoded.  A label that is encoded already has to
decode to a text that folding leaves as it is.
-/

set_option autoImplicit false

namespace LayeredConfig.Domain

def encodedPrefix : List Char := ['x', 'n', '-', '-']

def maxEncodedLength : Nat := 2000

def maxShownLength : Nat := 1000

def isLabel (label : List Char) : Bool :=
  !label.head?.any isMark && joinersFit [] label &&
    (label.all isAscii || label.length ≤ maxShownLength)

/-- A text that folding leaves as it is and that has no prefix of an encoded label. -/
def isSettled (text : List Char) : Bool :=
  text.all (fun c => isNameChar c && c ≠ '.' && fold? c == some [c]) &&
    normalForm text == text && !encodedPrefix.isPrefixOf text

def shownLabel? (label : List Char) : Option (List Char) :=
  if encodedPrefix.isPrefixOf label then
    let encoded := label.drop encodedPrefix.length
    if encoded.isEmpty || encoded.getLast? == some '-' ||
        maxEncodedLength < encoded.length then none
    else (decodeLabel? encoded).filter fun shown => isSettled shown && isLabel shown
  else if isLabel label then some label
  else none

def lookupLabel (label : List Char) : List Char :=
  if label.all isAscii then label else encodedPrefix ++ encodeLabel label

def folded? (text : List Char) : Option (List Char) :=
  (text.mapM fold?).map fun characters => normalForm characters.flatten

/-- The name that a text stands for, as it is looked up; nothing when no name can be so. -/
def name? (text : List Char) : Option (List Char) := do
  let name ← folded? text
  let labels := Text.split '.' name
  let shown ← labels.mapM shownLabel?
  if name.all isNameChar && (!shown.any isLeftward || shown.all keepsDirection) then
    some (Text.join '.' (labels.map lookupLabel))
  else none

end LayeredConfig.Domain
