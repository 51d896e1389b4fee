import XcmTasks.Bytes
import XcmTasks.Json.Decimal
import XcmTasks.Json.Document
import XcmTasks.Text.Code
import XcmTasks.Text.Cursor

/-!
Scalars in YAML text: plain ones, quoted ones and blocks, and what a plain one stands for. The end
of a line inside a scalar becomes a blank, and of several ones each but the first is kept.
-/

namespace XcmTasks.Yaml

open Text (Cursor)

def isBlank (c : Char) : Bool := c = ' ' || c = '\t'

def isBreak (c : Char) : Bool := c = '\n'

def endsWord : List Char → Bool
  | [] => true
  | c :: _ => isBlank c || isBreak c

def isFlowMark (c : Char) : Bool := c = ',' || c = '[' || c = ']' || c = '{' || c = '}'

def atDocumentMark (place : Cursor) : Bool :=
  place.column = 0 &&
    match place.rest with
    | '-' :: '-' :: '-' :: cs => endsWord cs
    | '.' :: '.' :: '.' :: cs => endsWord cs
    | _ => false

/-! ### Gaps between words -/

structure Gap where
  blanks : List Char
  /-- Whether a line has ended, and whether behind a backslash, which makes it count for nothing. -/
  isBroken : Bool
  isEscaped : Bool
  breaks : Nat

def Gap.none : Gap := ⟨[], false, false, 0⟩

/-- What the gap amounts to. -/
def Gap.text (gap : Gap) : List Char :=
  if !gap.isBroken then gap.blanks
  else if gap.breaks = 0 then if gap.isEscaped then [] else [' ']
  else List.replicate gap.breaks '\n'

/-- Reads on in a gap. No tab stands before the column `first` of a line. -/
def gapFrom (first : Int) : Nat → Gap → Cursor → Option (Gap × Cursor)
  | 0, gap, place => some (gap, place)
  | fuel + 1, gap, place =>
    match place.peek? with
    | some '\n' =>
      let gap : Gap :=
        if gap.isBroken then { gap with breaks := gap.breaks + 1 } else ⟨[], true, false, 0⟩
      gapFrom first fuel gap place.next
    | some c =>
      if !isBlank c then some (gap, place)
      else if gap.isBroken then
        if c = '\t' && place.column < first then .none else gapFrom first fuel gap place.next
      else gapFrom first fuel { gap with blanks := gap.blanks ++ [c] } place.next
    | none => some (gap, place)

/-! ### Plain scalars -/

def endsPlain (inFlow : Bool) : List Char → Bool
  | ':' :: cs => endsWord cs || (inFlow && cs.head?.any isFlowMark)
  | c :: _ => inFlow && isFlowMark c
  | [] => true

def plainWord (inFlow : Bool) : Nat → Cursor → List Char × Cursor
  | 0, place => ([], place)
  | fuel + 1, place =>
    if endsWord place.rest || endsPlain inFlow place.rest then ([], place)
    else
      let (word, after) := plainWord inFlow fuel place.next
      (place.rest.take 1 ++ word, after)

/-- A plain scalar whose further lines stand in the column `first` or behind it, the place behind
it, and whether the last line of it has ended. -/
def plainFrom (inFlow : Bool) (first : Int) :
    Nat → Gap → Cursor → Option (List Char × Cursor × Bool)
  | 0, _, _ => none
  | fuel + 1, gap, place =>
    if atDocumentMark place || place.peek? = some '#' then some ([], place, gap.isBroken)
    else do
      let (word, after) := plainWord inFlow (place.rest.length + 1) place
      let before := if word.isEmpty then [] else gap.text
      let gap := if word.isEmpty then gap else .none
      if !(after.peek?.any fun c => isBlank c || isBreak c) then
        return (before ++ word, after, gap.isBroken)
      let (gap, next) ← gapFrom first (after.rest.length + 1) gap after
      if !inFlow && next.column < first then return (before ++ word, next, gap.isBroken)
      let (more, last, isBroken) ← plainFrom inFlow first fuel gap next
      return (before ++ word ++ more, last, isBroken)

/-! ### Quoted scalars -/

def escaped? : Char → Option Char
  | '0' => some (Char.ofNat 0)
  | 'a' => some (Char.ofNat 7)
  | 'b' => some (Char.ofNat 8)
  | 't' => some '\t'
  | '\t' => some '\t'
  | 'n' => some '\n'
  | 'v' => some (Char.ofNat 0xb)
  | 'f' => some (Char.ofNat 0xc)
  | 'r' => some '\r'
  | 'e' => some (Char.ofNat 0x1b)
  | ' ' => some ' '
  | '"' => some '"'
  | '/' => some '/'
  | '\\' => some '\\'
  | 'N' => some (Char.ofNat 0x85)
  | '_' => some (Char.ofNat 0xa0)
  | 'L' => some (Char.ofNat 0x2028)
  | 'P' => some (Char.ofNat 0x2029)
  | _ => none

def codeLength? : Char → Option Nat
  | 'x' => some 2
  | 'u' => some 4
  | 'U' => some 8
  | _ => none

/-- The characters up to a blank, the end of a line, a backslash before one, or the quote. -/
def quotedWord? (quote : Char) : Nat → Cursor → Option (List Char × Cursor)
  | 0, place => some ([], place)
  | fuel + 1, place => do
    if endsWord place.rest then return ([], place)
    let more := fun c place => do
      let (word, after) ← quotedWord? quote fuel place
      return (c :: word, after)
    match place.rest with
    | '\'' :: '\'' :: _ =>
      if quote = '\'' then more '\'' (place.skip 2) else more '\'' place.next
    | '\\' :: d :: ds =>
      if quote = '\'' then more '\\' place.next
      else if isBreak d then return ([], place)
      else
        match codeLength? d with
        | some n => more (← Text.codedChar? n ds) (place.skip (n + 2))
        | none => more (← escaped? d) (place.skip 2)
    | c :: _ => if c = quote then return ([], place) else more c place.next
    | [] => return ([], place)

def quotedFrom (quote : Char) : Nat → Cursor → Option (List Char × Cursor)
  | 0, _ => none
  | fuel + 1, place => do
    if atDocumentMark place || place.rest.isEmpty then none
    let (word, after) ← quotedWord? quote (place.rest.length + 1) place
    let (gap, after) : Gap × Cursor := match after.rest with
      | '\\' :: _ => (⟨[], true, true, 0⟩, after.skip 2)
      | _ => (.none, after)
    if !gap.isBroken && after.peek? = some quote then return (word, after.next)
    let (gap, after) ← gapFrom 0 (after.rest.length + 1) gap after
    let (more, after) ← quotedFrom quote fuel after
    return (word ++ gap.text ++ more, after)

/-! ### Blocks -/

/-- What is done with the ends of lines at the end of a block. -/
inductive Chomping where
  | strip
  | clip
  | keep
deriving DecidableEq

def chomping? : Char → Option Chomping
  | '-' => some .strip
  | '+' => some .keep
  | _ => none

/-- How the ends of a block are treated, and how much deeper than its parent it stands if that is
told, either one coming first. -/
def blockHeader? (place : Cursor) : Option (Chomping × Nat × Cursor) :=
  let digit := fun (place : Cursor) => match place.peek? with
    | some d => if d = '0' then none else if d.isDigit then some (d.toNat - 48, place.next)
      else some (0, place)
    | none => some (0, place)
  match place.peek? >>= chomping? with
  | some c => do
    let (depth, place) ← digit place.next
    return (c, depth, place)
  | none => do
    let (depth, after) ← digit place
    if depth = 0 then return (.clip, 0, place)
    match after.peek? >>= chomping? with
    | some c => return (c, depth, after.next)
    | none => return (.clip, depth, after)

/-- Leaves out empty lines and the blanks before a line, up to the column of the block if it is
known; gives how many lines ended, the widest column met, and the place. -/
def emptyLines (column : Nat) : Nat → Nat → Nat → Cursor → Option (Nat × Nat × Cursor)
  | 0, breaks, widest, place => some (breaks, widest, place)
  | fuel + 1, breaks, widest, place =>
    let isInside : Bool := column = 0 || place.column < column
    match place.peek? with
    | some ' ' =>
      if isInside then emptyLines column fuel breaks (max widest (place.column + 1)) place.next
      else some (breaks, max widest place.column, place)
    | some '\t' => if isInside then none else some (breaks, max widest place.column, place)
    | some '\n' => emptyLines column fuel (breaks + 1) (max widest place.column) place.next
    | _ => some (breaks, max widest place.column, place)

def newlines (n : Nat) : List Char := List.replicate n '\n'

/-- The lines of a block from here on. `hasBreak` tells whether a line has ended before, `breaks`
how many empty ones followed, and `wasBlank` whether it began with a blank. -/
def blockLines (isLiteral : Bool) (chomping : Chomping) (column : Nat) :
    Nat → Bool → Nat → Bool → Cursor → Option (List Char × Cursor)
  | 0, _, _, _, _ => none
  | fuel + 1, hasBreak, breaks, wasBlank, place => do
    let tail := fun (hasBreak : Bool) (breaks : Nat) =>
      (if chomping != .strip && hasBreak then ['\n'] else []) ++
        (if chomping = .keep then newlines breaks else [])
    if place.column != column || place.rest.isEmpty then return (tail hasBreak breaks, place)
    let isBlankLine : Bool := place.peek?.any isBlank
    let joint :=
      if !isLiteral && hasBreak && !wasBlank && !isBlankLine then
        if breaks = 0 then [' '] else newlines breaks
      else (if hasBreak then ['\n'] else []) ++ newlines breaks
    let (line, after) := place.takeWhile fun c => !isBreak c
    if after.rest.isEmpty then return (joint ++ line ++ tail false 0, after)
    let (breaks, _, next) ← emptyLines column (after.rest.length + 1) 0 0 after.next
    let (more, last) ← blockLines isLiteral chomping column fuel true breaks isBlankLine next
    return (joint ++ line ++ more, last)

def block? (isLiteral : Bool) (indent : Int) (place : Cursor) : Option (List Char × Cursor) := do
  let (chomping, depth, place) ← blockHeader? place
  let place := place.skipWhile isBlank
  let place := if place.peek? = some '#' then place.skipWhile (!isBreak ·) else place
  let place ← match place.peek? with
    | some '\n' => some place.next
    | none => some place
    | some _ => none
  let told : Nat := if depth = 0 then 0 else (max indent 0).toNat + depth
  let (breaks, widest, place) ← emptyLines told (place.rest.length + 1) 0 0 place
  let column := if told = 0 then max widest (max (indent + 1) 1).toNat else told
  blockLines isLiteral chomping column (place.rest.length + 1) false breaks false place

/-! ### What plain scalars stand for -/

def whole? (base : Nat) (cs : List Char) : Option Int := do
  let (isNegative, ds) := match cs with
    | '-' :: ds => (true, ds)
    | '+' :: ds => (false, ds)
    | ds => (false, ds)
  if ds.isEmpty then none
  let n ← Text.numberOf? base ds
  if isNegative then if n ≤ signedSize then some (-(n : Int)) else none
  else if n < signedSize then some n
  else none

def wholeNumber (n : Int) : Document :=
  .number (if n < 0 then '-' :: Nat.toDigits 10 n.natAbs else Nat.toDigits 10 n.natAbs)

/-- The words for infinite numbers and for what is none. Nothing can be done with them. -/
def specialNumbers : List String :=
  [".inf", ".Inf", ".INF", "+.inf", "+.Inf", "+.INF", "-.inf", "-.Inf", "-.INF", ".nan", ".NAN"]

def plainValue? (cs : List Char) : Option Document :=
  let word := String.ofList cs
  let based := match cs with
    | '0' :: 'x' :: ds => whole? 16 ds
    | '0' :: 'o' :: ds => whole? 8 ds
    | '+' :: ds => whole? 10 ds
    | _ => none
  match based with
  | some n => some (wholeNumber n)
  | none =>
    if word = "~" || word = "null" then some .null
    else if word = "true" then some (.bool true)
    else if word = "false" then some (.bool false)
    else
      match whole? 10 cs, Json.Decimal.float? cs with
      | some n, _ => some (wholeNumber n)
      | none, some x => some (.number (Json.Decimal.floatChars x))
      | none, none => if specialNumbers.contains word then none else some (.text (some word))

/-- What a plain scalar stands for that is told to be of some type. One that is not of that type is
nothing. -/
def taggedValue? (handle suffix : String) (cs : List Char) : Option Document :=
  let word := String.ofList cs
  if handle != "!!" then some (.text (some word))
  else if suffix = "bool" then
    some (if word = "true" then .bool true else if word = "false" then .bool false else .null)
  else if suffix = "int" then
    match whole? 10 cs with
    | some n => some (wholeNumber n)
    | none => some .null
  else if suffix = "float" then
    match Json.Decimal.float? cs with
    | some x => some (.number (Json.Decimal.floatChars x))
    | none => if specialNumbers.contains word then none else some .null
  else if suffix = "null" then some .null
  else some (.text (some word))

end XcmTasks.Yaml
