import XcmTasks.Yaml.Scalar

/-!
The tokens of YAML text. Where a line begins deeper than the one that it belongs to, a sequence or
a mapping starts, and it ends where a line begins less deep. That something is a key shows only at
the colon behind it, so that the token for the key is put in then.
-/

namespace XcmTasks.Yaml

open Text (Cursor)

inductive Token where
  | directive
  | documentStart
  | documentEnd
  | blockSequenceStart
  | blockMappingStart
  | blockEnd
  | flowSequenceStart
  | flowSequenceEnd
  | flowMappingStart
  | flowMappingEnd
  | blockEntry
  | flowEntry
  | key
  | value
  | alias (name : String)
  | anchor (name : String)
  | tag (handle suffix : String)
  | scalar (isPlain : Bool) (text : List Char)
deriving DecidableEq

/-- Where a key may have begun, and how many tokens come before it. -/
structure KeyStart where
  place : Cursor
  tokens : Nat
  /-- Whether it has to be a key. -/
  isRequired : Bool

/-- What is known while the text is read. -/
structure Scan where
  place : Cursor
  tokens : List Token
  mayStartKey : Bool
  /-- Where the innermost key may have begun, and those around it, one for each flow. -/
  keyStarts : List (Option KeyStart)
  /-- The column of the innermost block, -1 outside of all, and those around it. -/
  indent : Int
  indents : List Int
  flowDepth : Nat
  /-- Behind which character a colon tells a value without a blank behind it. -/
  quotedEnd : Nat

namespace Scan

def start (cs : List Char) : Scan :=
  ⟨Cursor.start cs, [], true, [none], -1, [], 0, 0⟩

def inFlow (s : Scan) : Bool := s.flowDepth != 0

def push (s : Scan) (token : Token) : Scan := { s with tokens := s.tokens ++ [token] }

def insert (s : Scan) (n : Nat) (token : Token) : Scan :=
  { s with tokens := s.tokens.take n ++ token :: s.tokens.drop n }

def moveTo (s : Scan) (place : Cursor) : Scan := { s with place := place }

def allowKey (s : Scan) (allowed : Bool) : Scan := { s with mayStartKey := allowed }

/-! ### Depth of blocks -/

/-- Opens a block in a deeper column, before the token with number `n`. -/
def openBlock (s : Scan) (column n : Nat) (token : Token) : Scan :=
  if !s.inFlow && s.indent < column then
    { s.insert n token with indents := s.indent :: s.indents, indent := column }
  else s

/-- Closes the blocks that stand deeper than a column. -/
def closeBlocks (s : Scan) (column : Int) : Scan :=
  if s.inFlow then s else go s column s.indents
where
  go (s : Scan) (column : Int) : List Int → Scan
    | [] => s
    | outer :: others =>
      if column < s.indent then
        go { s.push .blockEnd with indent := outer, indents := others } column others
      else s

/-! ### Keys -/

/-- Forgets where a key may have begun, which is an error if there has to be one. -/
def dropKey (s : Scan) : Option Scan :=
  match s.keyStarts with
  | some k :: others => if k.isRequired then none else some { s with keyStarts := none :: others }
  | _ => some s

def noteKey (s : Scan) : Option Scan :=
  if s.mayStartKey then do
    let k : KeyStart := ⟨s.place, s.tokens.length, s.inFlow && s.indent == s.place.column⟩
    let s ← s.dropKey
    return { s with keyStarts := some k :: s.keyStarts.drop 1 }
  else some s

def maxKeyLength : Nat := 1024

/-- Outside of flows a key is on one line and not too long. -/
def dropStaleKeys (s : Scan) : Option Scan :=
  if s.inFlow then some s
  else
    let isStale := fun k : KeyStart =>
      k.place.line < s.place.line || k.place.index + maxKeyLength < s.place.index
    if s.keyStarts.any (·.any fun k => isStale k && k.isRequired) then none
    else some { s with keyStarts := s.keyStarts.map (·.filter fun k => !isStale k) }

/-! ### Tokens of one or three characters -/

def skipSpace : Nat → Scan → Scan
  | 0, s => s
  | fuel + 1, s =>
    match s.place.peek? with
    | some ' ' => skipSpace fuel (s.moveTo s.place.next)
    | some '\t' =>
      if s.inFlow || !s.mayStartKey then skipSpace fuel (s.moveTo s.place.next) else s
    | some '\n' =>
      let s := s.moveTo s.place.next
      skipSpace fuel (if s.inFlow then s else s.allowKey true)
    | some '#' => skipSpace fuel (s.moveTo (s.place.skipWhile (!isBreak ·)))
    | _ => s

def documentMark (s : Scan) (token : Token) : Option Scan := do
  let s ← (s.closeBlocks (-1)).dropKey
  return ((s.allowKey false).moveTo (s.place.skip 3)).push token

def maxFlowDepth : Nat := 255

def openFlow (s : Scan) (token : Token) : Option Scan := do
  let s ← s.noteKey
  if s.flowDepth = maxFlowDepth then none
  let s := { s with keyStarts := none :: s.keyStarts, flowDepth := s.flowDepth + 1 }
  return ((s.allowKey true).moveTo s.place.next).push token

def closeFlow (s : Scan) (token : Token) : Option Scan := do
  let s ← s.dropKey
  let s :=
    if s.inFlow then { s with keyStarts := s.keyStarts.drop 1, flowDepth := s.flowDepth - 1 }
    else s
  return ((s.allowKey false).moveTo s.place.next).push token

def flowEntry (s : Scan) : Option Scan := do
  let s ← s.dropKey
  return ((s.allowKey true).moveTo s.place.next).push .flowEntry

def blockEntry (s : Scan) : Option Scan := do
  if s.inFlow || !s.mayStartKey then none
  let s ← (s.openBlock s.place.column s.tokens.length .blockSequenceStart).dropKey
  return ((s.allowKey true).moveTo s.place.next).push .blockEntry

def explicitKey (s : Scan) : Option Scan := do
  if !s.inFlow && !s.mayStartKey then none
  let s ← (s.openBlock s.place.column s.tokens.length .blockMappingStart).dropKey
  return ((s.allowKey !s.inFlow).moveTo s.place.next).push .key

/-- A value. If a key may have begun before it, that was one. -/
def value (s : Scan) : Option Scan := do
  let s ← match s.keyStarts with
    | some k :: others =>
      let s := { s.insert k.tokens .key with keyStarts := none :: others }
      some ((s.openBlock k.place.column k.tokens .blockMappingStart).allowKey false)
    | _ =>
      if !s.inFlow && !s.mayStartKey then none
      else
        some ((s.openBlock s.place.column s.tokens.length .blockMappingStart).allowKey !s.inFlow)
  return (s.moveTo s.place.next).push .value

/-! ### Directives, anchors and tags -/

def isNameChar (c : Char) : Bool := c.isAlphanum || c = '_' || c = '-'

def isUriChar (c : Char) : Bool :=
  isNameChar c || ";/?:@&=+$,.!~*'()[]%".toList.contains c

def lineEnd? (place : Cursor) : Option Cursor :=
  let place := place.skipWhile isBlank
  let place := if place.peek? = some '#' then place.skipWhile (!isBreak ·) else place
  match place.peek? with
  | none => some place
  | some c => if isBreak c then some place.next else none

def version? (place : Cursor) : Option Cursor := do
  let (major, place) := (place.skipWhile isBlank).takeWhile Char.isDigit
  if major.isEmpty || 9 < major.length || place.peek? != some '.' then none
  let (minor, place) := place.next.takeWhile Char.isDigit
  if minor.isEmpty || 9 < minor.length then none
  return place

/-- The handle of a tag: two exclamation marks, or one that no other one follows. -/
def handle (place : Cursor) : List Char × Cursor :=
  let (name, after) := place.next.takeWhile isNameChar
  if after.peek? = some '!' then ('!' :: name ++ ['!'], after.next) else ('!' :: name, after)

def tagDirective? (place : Cursor) : Option Cursor := do
  let place := place.skipWhile isBlank
  if place.peek? != some '!' then none
  let (name, place) := handle place
  if name != ['!'] && (name.length < 2 || name.getLast? != some '!') then none
  let (uri, place) := (place.skipWhile isBlank).takeWhile isUriChar
  if uri.isEmpty || !endsWord place.rest then none
  return place

def directive (s : Scan) : Option Scan := do
  let s ← (s.closeBlocks (-1)).dropKey
  let (name, place) := s.place.next.takeWhile isNameChar
  if name.isEmpty || !endsWord place.rest then none
  let place ←
    if name = "YAML".toList then version? place
    else if name = "TAG".toList then tagDirective? place
    else some (place.skipWhile (!isBreak ·))
  return ((s.allowKey false).moveTo (← lineEnd? place)).push .directive

def named (s : Scan) (token : String → Token) : Option Scan := do
  let s ← s.noteKey
  let (name, place) := s.place.next.takeWhile isNameChar
  let isEnded := endsWord place.rest || place.peek?.any ("?:,]\x7d%@\x60".toList.contains ·)
  if name.isEmpty || !isEnded then none
  return ((s.allowKey false).moveTo place).push (token (String.ofList name))

def tagged (s : Scan) : Option Scan := do
  let s ← s.noteKey
  let (name, suffix, place) ←
    if s.place.rest.take 2 = ['!', '<'] then
      let (uri, place) := (s.place.skip 2).takeWhile isUriChar
      if uri.isEmpty || place.peek? != some '>' then none else some ([], uri, place.next)
    else
      let (name, place) := handle s.place
      let (uri, place) := place.takeWhile isUriChar
      if 2 ≤ name.length && name.getLast? = some '!' then
        if uri.isEmpty then none else some (name, uri, place)
      else if (name.drop 1 ++ uri).isEmpty then some ([], ['!'], place)
      else some (['!'], name.drop 1 ++ uri, place)
  if !endsWord place.rest then none
  return ((s.allowKey false).moveTo place).push
    (.tag (String.ofList name) (String.ofList suffix))

/-! ### Scalars -/

def plain (s : Scan) : Option Scan := do
  let s ← s.noteKey
  let (text, place, isBroken) ←
    plainFrom s.inFlow (s.indent + 1) (s.place.rest.length + 1) .none s.place
  return ((s.allowKey isBroken).moveTo place).push (.scalar true text)

def quoted (s : Scan) (quote : Char) : Option Scan := do
  let s ← s.noteKey
  let (text, place) ← quotedFrom quote (s.place.rest.length + 1) s.place.next
  return { ((s.allowKey false).moveTo place).push (.scalar false text) with
    quotedEnd := place.index }

def block (s : Scan) (isLiteral : Bool) : Option Scan := do
  let s ← s.noteKey
  let (text, place) ← block? isLiteral s.indent s.place.next
  return ((s.allowKey true).moveTo place).push (.scalar false text)

/-! ### The whole text -/

def step (s : Scan) (c : Char) (rest : List Char) : Option Scan :=
  if s.place.column = 0 && c = '%' then s.directive
  else if atDocumentMark s.place then
    s.documentMark (if c = '-' then .documentStart else .documentEnd)
  else if c = '[' then s.openFlow .flowSequenceStart
  else if c = '{' then s.openFlow .flowMappingStart
  else if c = ']' then s.closeFlow .flowSequenceEnd
  else if c = '}' then s.closeFlow .flowMappingEnd
  else if c = ',' then s.flowEntry
  else if c = '-' && endsWord rest then s.blockEntry
  else if c = '?' && endsWord rest then s.explicitKey
  else if c = ':' && (endsWord rest ||
      (s.inFlow && (rest.head?.any isFlowMark || s.place.index == s.quotedEnd))) then s.value
  else if c = '*' then s.named .alias
  else if c = '&' then s.named .anchor
  else if c = '!' then s.tagged
  else if c = '|' && !s.inFlow then s.block true
  else if c = '>' && !s.inFlow then s.block false
  else if c = '\'' || c = '"' then s.quoted c
  else if c = '%' || c = '@' || c.toNat = 0x60 then none
  else s.plain

def run : Nat → Scan → Option (List Token)
  | 0, _ => none
  | fuel + 1, s => do
    let s ← (skipSpace (s.place.rest.length + 1) s).dropStaleKeys
    let s := s.closeBlocks s.place.column
    match s.place.rest with
    | [] => return (← (s.closeBlocks (-1)).dropKey).tokens
    | c :: rest => run fuel (← s.step c rest)

end Scan

/-- Ends of lines are one character, and the text ends at a character of code 0. -/
def lineFeeds : List Char → List Char
  | '\r' :: '\n' :: cs => '\n' :: lineFeeds cs
  | '\r' :: cs => '\n' :: lineFeeds cs
  | c :: cs => if c.toNat = 0 then [] else c :: lineFeeds cs
  | [] => []

def tokens? (text : String) : Option (List Token) :=
  let cs := lineFeeds text.toList
  Scan.run (2 * cs.length + 2) (Scan.start cs)

end XcmTasks.Yaml
