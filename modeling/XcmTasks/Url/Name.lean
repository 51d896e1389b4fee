import XcmTasks.Bytes
import XcmTasks.Text.Composition
import XcmTasks.Text.Direction
import XcmTasks.Text.Joining
import XcmTasks.Url.Mapping
import XcmTasks.Url.Punycode

/-!
Names of hosts in their ASCII form. A name is a row of labels with points between. Each label is
brought into small letters and composed form; one beyond ASCII is written in punycode behind a
mark, and what is written so already has to be what would be written.
-/

namespace XcmTasks.Url

open Text

def joinWith (c : Char) : List (List Char) → List Char
  | [] => []
  | [part] => part
  | part :: parts => part ++ c :: joinWith c parts

def isDenied (c : Char) : Bool :=
  c.toNat ≤ 32 || c.toNat = 127 || "%#/:<>?@[\\]^|".toList.contains c

def isAscii (cs : List Char) : Bool := cs.all fun c => c.toNat < 128

/-- A text with each character replaced by what it stands for, in composed form. -/
def normalForm? (cs : List Char) : Option (List Char) := do
  return compose (← cs.mapM mapped?).flatten

def punycodeMark : List Char := "xn--".toList

/-- How many characters a label beyond ASCII may have, and how many its punycode. -/
def maxLabelLength : Nat := 1000
def maxPunycodeLength : Nat := 2000

/-- Whether a label in normal form may stand in a name: it does not begin with a mark, holds
joiners only where they count, and is not too long. -/
def isLabel (cs : List Char) : Bool :=
  !cs.any isDenied &&
    (isAscii cs ||
      (!(cs.head?.any isMark) && Joining.count [] cs && cs.length ≤ maxLabelLength))

/-- A label as it is read, and as it is written with ASCII characters. -/
structure Label where
  text : List Char
  ascii : List Char

def Label.ofNormal? (cs : List Char) : Option Label :=
  if punycodeMark.isPrefixOf cs then do
    let digits := cs.drop punycodeMark.length
    if maxPunycodeLength < digits.length then none
    let text ← Punycode.decode? digits
    if isAscii text || punycodeMark.isPrefixOf text then none
    if normalForm? text = some text && isLabel text then some ⟨text, cs⟩ else none
  else if !isLabel cs then none
  else if isAscii cs then some ⟨cs, cs⟩
  else some ⟨cs, punycodeMark ++ Punycode.encode cs⟩

/-- A name in its ASCII form. If one label is written from right to left, each one has to keep its
order beside it. -/
def asciiName? (cs : List Char) : Option (List Char) := do
  let labels ← (splitWhere (· = '.') (← normalForm? cs)).mapM Label.ofNormal?
  let texts := labels.map Label.text
  if texts.any (·.any Direction.isBackward) && !texts.all Direction.keepsOrder then none
  return joinWith '.' (labels.map Label.ascii)

end XcmTasks.Url
