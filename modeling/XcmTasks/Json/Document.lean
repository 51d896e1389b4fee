import XcmTasks.Json.Basic
import XcmTasks.Text.Code

/-!
JSON text as a tree of its parts. Numbers stay as they are written and members keep their order and
their repetitions, so that a reader of the tree can tell which fault of a text comes first. Where
the text stops being JSON, the tree holds `broken` or a list or object that is not closed, and
nothing that comes after.
-/

namespace XcmTasks

inductive Document where
  | broken
  | null
  | bool (b : Bool)
  | number (lexeme : List Char)
  /-- A text, or nothing if it names half of a surrogate pair. -/
  | text (s : Option String)
  | list (items : List Document) (closed : Bool)
  | object (members : List (Option String × Document)) (closed : Bool)
  /-- A list or an object inside too many others. It may be passed over, but not be read. -/
  | buried (document : Document)
deriving Inhabited

namespace Document

/-- Puts a value under a name, in place of the one that stands there. -/
def put (key : String) (value : Document) :
    List (Option String × Document) → List (Option String × Document)
  | [] => [(some key, value)]
  | (k, v) :: members =>
    if k = some key then (k, value) :: members else (k, v) :: put key value members

/-- The object with these members. Of equal names the last one counts. -/
def table (members : List (String × Document)) : Document :=
  .object (members.foldl (fun ms (key, value) => put key value ms) []) true

def isSpace (c : Char) : Bool := c = ' ' || c = '\n' || c = '\t' || c = '\r'

def skipSpace : List Char → List Char := List.dropWhile isSpace

/-! ### Numbers -/

def digits? (cs : List Char) : Option (List Char × List Char) :=
  match cs.takeWhile Char.isDigit with
  | [] => none
  | ds => some (ds, cs.dropWhile Char.isDigit)

/-- The whole part: a lone zero, or digits that begin with another. -/
def whole? : List Char → Option (List Char × List Char)
  | '0' :: rest =>
    match rest with
    | c :: _ => if c.isDigit then none else some (['0'], rest)
    | [] => some (['0'], [])
  | cs => digits? cs

def fraction? : List Char → Option (List Char × List Char)
  | '.' :: rest => (digits? rest).map fun (ds, rest) => ('.' :: ds, rest)
  | cs => some ([], cs)

def exponent? : List Char → Option (List Char × List Char)
  | c :: rest =>
    if c = 'e' || c = 'E' then
      match rest with
      | s :: more =>
        if s = '+' || s = '-' then
          (digits? more).map fun (ds, rest) => (c :: s :: ds, rest)
        else (digits? rest).map fun (ds, rest) => (c :: ds, rest)
      | [] => none
    else some ([], c :: rest)
  | [] => some ([], [])

def number? (cs : List Char) : Option (List Char × List Char) := do
  let (sign, cs) := match cs with
    | '-' :: rest => (['-'], rest)
    | cs => ([], cs)
  let (whole, cs) ← whole? cs
  let (fraction, cs) ← fraction? cs
  let (exponent, cs) ← exponent? cs
  return (sign ++ whole ++ fraction ++ exponent, cs)

/-! ### Quoted text -/

def escaped? : Char → Option Char
  | '"' => some '"'
  | '\\' => some '\\'
  | '/' => some '/'
  | 'b' => some (Char.ofNat 8)
  | 'f' => some (Char.ofNat 12)
  | 'n' => some '\n'
  | 'r' => some '\r'
  | 't' => some '\t'
  | _ => none

/-- One part of a quoted text: a character, or half of a surrogate pair. -/
inductive Unit16 where
  | char (c : Char)
  | half (n : Nat)

def quoted? : Nat → List Char → Option (List Unit16 × List Char)
  | 0, _ => none
  | _ + 1, [] => none
  | fuel + 1, c :: rest =>
    if c = '"' then some ([], rest)
    else if c.toNat < 32 then none
    else if c = '\\' then
      match rest with
      | 'u' :: rest => do
        let n ← Text.codeAt? 4 rest
        let (units, rest) ← quoted? fuel (rest.drop 4)
        let one := if 0xD800 ≤ n && n < 0xE000 then Unit16.half n else Unit16.char (Char.ofNat n)
        return (one :: units, rest)
      | e :: rest => do
        let c ← escaped? e
        let (units, rest) ← quoted? fuel rest
        return (.char c :: units, rest)
      | [] => none
    else do
      let (units, rest) ← quoted? fuel rest
      return (.char c :: units, rest)

/-- Joins the two halves of each surrogate pair; nothing if a half stands alone. -/
def joinHalves : List Unit16 → Option (List Char)
  | [] => some []
  | .char c :: units => (joinHalves units).map (c :: ·)
  | .half high :: .half low :: units =>
    if high < 0xDC00 && 0xDC00 ≤ low then
      (joinHalves units).map
        (Char.ofNat (0x10000 + (high - 0xD800) * 0x400 + (low - 0xDC00)) :: ·)
    else none
  | .half _ :: _ => none

def quotedText? (fuel : Nat) (cs : List Char) : Option (Option String × List Char) :=
  (quoted? fuel cs).map fun (units, rest) =>
    ((joinHalves units).map String.ofList, rest)

/-! ### Values -/

def afterWord? : List Char → List Char → Option (List Char)
  | [], rest => some rest
  | w :: word, c :: rest => if w = c then afterWord? word rest else none
  | _ :: _, [] => none

def word (w : String) (value : Document) (cs : List Char) : Document × List Char :=
  match afterWord? w.toList cs with
  | some rest => (value, rest)
  | none => (.broken, [])

def buryAt : Nat → Document → Document
  | 0, document => .buried document
  | _ + 1, document => document

mutual

/-- A value and what follows it. The fuel bounds the number of values and separators; what lies
inside more than `depth` lists and objects is buried. -/
def value : Nat → Nat → List Char → Document × List Char
  | 0, _, _ => (.broken, [])
  | fuel + 1, depth, cs =>
    match skipSpace cs with
    | [] => (.broken, [])
    | c :: rest =>
      if c = 'n' then word "null" .null (c :: rest)
      else if c = 't' then word "true" (.bool true) (c :: rest)
      else if c = 'f' then word "false" (.bool false) (c :: rest)
      else if c = '"' then
        match quotedText? fuel rest with
        | some (s, rest) => (.text s, rest)
        | none => (.broken, [])
      else if c = '[' then
        let (items, closed, rest) := items fuel (depth - 1) true rest
        (buryAt depth (.list items closed), rest)
      else if c = '{' then
        let (members, closed, rest) := members fuel (depth - 1) true rest
        (buryAt depth (.object members closed), rest)
      else if c = '-' || c.isDigit then
        match number? (c :: rest) with
        | some (lexeme, rest) => (.number lexeme, rest)
        | none => (.broken, [])
      else (.broken, [])

/-- The items of a list from here on, whether it is closed, and what follows. -/
def items : Nat → Nat → Bool → List Char → List Document × Bool × List Char
  | 0, _, _, _ => ([], false, [])
  | fuel + 1, depth, first, cs =>
    match skipSpace cs with
    | ']' :: rest => ([], true, rest)
    | cs =>
      let start : Option (List Char) :=
        if first then some cs
        else match cs with
          | ',' :: rest => if (skipSpace rest).head? = some ']' then none else some rest
          | _ => none
      match start with
      | none => ([], false, [])
      | some cs =>
        let (item, rest) := value fuel depth cs
        let (others, closed, rest) := items fuel depth false rest
        (item :: others, closed, rest)

/-- The members of an object from here on, whether it is closed, and what follows. -/
def members : Nat → Nat → Bool → List Char →
    List (Option String × Document) × Bool × List Char
  | 0, _, _, _ => ([], false, [])
  | fuel + 1, depth, first, cs =>
    match skipSpace cs with
    | '}' :: rest => ([], true, rest)
    | cs =>
      let start : Option (List Char) :=
        if first then some cs
        else match cs with
          | ',' :: rest => some (skipSpace rest)
          | _ => none
      match start with
      | some ('"' :: cs) =>
        match quotedText? fuel cs with
        | none => ([], false, [])
        | some (key, cs) =>
          match skipSpace cs with
          | ':' :: cs =>
            let (item, rest) := value fuel depth cs
            let (others, closed, rest) := members fuel depth false rest
            ((key, item) :: others, closed, rest)
          | _ => ([(key, .broken)], false, [])
      | _ => ([], false, [])

end

/-- How deep lists and objects may lie inside each other to be read. -/
def maxDepth : Nat := 127

/-- The tree of a whole text, and whether nothing but blanks follows it. -/
def ofText (s : String) : Document × Bool :=
  let cs := s.toList
  let (document, rest) := value (2 * cs.length + 2) maxDepth cs
  (document, (skipSpace rest).isEmpty)

end Document

end XcmTasks
