import XcmTasks.Bytes
import XcmTasks.Json.Decimal
import XcmTasks.Json.Document
import XcmTasks.Text.Code
import XcmTasks.Text.Reader

/-!
RON text as a tree. A structure, with its name or without it, is read as a table if its parts have
names and as a list if they have none; an optional value is read as the value or as nothing.
-/

namespace XcmTasks.Ron

def isSpace (c : Char) : Bool :=
  c = ' ' || c = '\t' || c = '\n' || c = '\r' || c.toNat = 0xb || c.toNat = 0xc ||
    c.toNat = 0x85 || c.toNat = 0x200e || c.toNat = 0x200f || c.toNat = 0x2028 ||
    c.toNat = 0x2029

def afterComments? : Nat → List Char → Option (List Char)
  | 0, cs => some cs
  | depth + 1, '*' :: '/' :: cs => afterComments? depth cs
  | depth + 1, '/' :: '*' :: cs => afterComments? (depth + 2) cs
  | depth + 1, _ :: cs => afterComments? (depth + 1) cs
  | _ + 1, [] => none

def skipFrom : Nat → List Char → Option (List Char)
  | 0, cs => some cs
  | fuel + 1, cs =>
    match cs with
    | '/' :: '/' :: more => skipFrom fuel (more.dropWhile (· != '\n'))
    | '/' :: '*' :: more => do skipFrom fuel (← afterComments? 1 more)
    | '/' :: _ => none
    | c :: more => if isSpace c then skipFrom fuel more else some cs
    | [] => some []

def skip : Reader Unit := fun cs => (skipFrom (cs.length + 1) cs).map ((), ·)

/-! ### Names -/

def isNameStart (c : Char) : Bool := c.isAlpha || c = '_'

def isNameChar (c : Char) : Bool := c.isAlphanum || c = '_'

def isRawNameChar (c : Char) : Bool := isNameChar c || c = '.' || c = '+' || c = '-'

/-- A name off the front, if there is one. What begins as a raw text is no name. -/
def name? : List Char → Option (List Char × List Char)
  | 'r' :: '"' :: _ => none
  | 'r' :: '#' :: cs =>
    if cs.head?.any isRawNameChar then
      some (cs.takeWhile isRawNameChar, cs.dropWhile isRawNameChar)
    else none
  | c :: cs =>
    if isNameStart c then some ((c :: cs).takeWhile isNameChar, (c :: cs).dropWhile isNameChar)
    else none
  | [] => none

def skipsName (word : String) : Reader Bool := fun cs =>
  let w := word.toList
  if w.isPrefixOf cs && !(cs.drop w.length).head?.any isNameChar then some (true, cs.drop w.length)
  else some (false, cs)

/-! ### Texts -/

def escaped : Reader Char := do
  match ← Reader.rest with
  | '\'' :: cs => set cs; return '\''
  | '"' :: cs => set cs; return '"'
  | '\\' :: cs => set cs; return '\\'
  | 'n' :: cs => set cs; return '\n'
  | 'r' :: cs => set cs; return '\r'
  | 't' :: cs => set cs; return '\t'
  | '0' :: cs => set cs; return Char.ofNat 0
  | 'x' :: cs => coded 2 2 cs
  | 'u' :: '{' :: cs =>
    let count := (cs.takeWhile Text.isHexDigit).length
    if count = 0 || 6 < count || (cs.drop count).head? != some '}' then Reader.fail
    coded count (count + 1) cs
  | _ => Reader.fail
where
  coded (count skipped : Nat) (cs : List Char) : Reader Char := fun _ =>
    (Text.codedChar? count cs).map (·, cs.drop skipped)

def textUntil : Nat → Reader (List Char)
  | 0 => Reader.fail
  | fuel + 1 => do
    match ← Reader.rest with
    | [] => Reader.fail
    | '"' :: cs => set cs; return []
    | '\\' :: cs =>
      set cs
      let c ← escaped
      return c :: (← textUntil fuel)
    | c :: cs =>
      set cs
      return c :: (← textUntil fuel)

/-- A raw text up to its end, and the rest. -/
def rawUntil? (ending : List Char) : List Char → Option (List Char × List Char)
  | [] => none
  | c :: cs =>
    if ending.isPrefixOf (c :: cs) then some ([], (c :: cs).drop ending.length)
    else (rawUntil? ending cs).map fun (text, rest) => (c :: text, rest)

/-- A text as it stands, between quotes with as many hashes on either side. -/
def rawText : Reader (List Char) := do
  Reader.char 'r'
  let hashes ← Reader.takeWhile (· = '#')
  Reader.char '"'
  (rawUntil? ('"' :: hashes) (← Reader.rest) |>.elim Reader.fail fun (text, rest) => do
    set rest
    return text)

def character : Reader Char := do
  Reader.char '\''
  let c ← match ← Reader.rest with
    | '\\' :: cs => do set cs; escaped
    | c :: cs => do set cs; pure c
    | [] => Reader.fail
  Reader.char '\''
  return c

/-! ### Numbers -/

def isWholeChar (c : Char) : Bool := Text.isHexDigit c || c = '_'

def isFloatChar (c : Char) : Bool :=
  c.isDigit || c = 'e' || c = 'E' || c = '.' || c = '+' || c = '-' || c = '_'

def floating? (cs : List Char) : Option (List Char) :=
  (Json.Decimal.float? (cs.filter (· != '_'))).map Json.Decimal.floatChars

/-- A whole number without its sign, in a base that two characters before it tell, and the rest. -/
def whole? (cs : List Char) : Option (Nat × List Char) :=
  let (base, digits) := match cs with
    | '0' :: 'b' :: ds => (2, ds)
    | '0' :: 'o' :: ds => (8, ds)
    | '0' :: 'x' :: ds => (16, ds)
    | ds => (10, ds)
  let word := digits.takeWhile isWholeChar
  let ds := word.filter (· != '_')
  if ds.isEmpty || word.head? = some '_' then none
  else do
    let n ← Text.numberOf? base ds
    return (n, digits.drop word.length)

/-- A number. A whole one of more than 64 bits is read as one with a fraction. -/
def number : Reader Document := fun cs =>
  let (sign, body) := match cs with
    | '+' :: body => (['+'], body)
    | '-' :: body => (['-'], body)
    | body => ([], body)
  let floatWord := body.takeWhile isFloatChar
  let float := do return (.number (← floating? (sign ++ floatWord)), body.drop floatWord.length)
  if (body.takeWhile isWholeChar).length < floatWord.length then float
  else
    match whole? body with
    | some (n, rest) =>
      let fits := if sign = ['-'] then n ≤ signedSize else n < signedSize
      if fits then
        some (.number (if sign = ['-'] && n != 0 then '-' :: Nat.toDigits 10 n
          else Nat.toDigits 10 n), rest)
      else float
    | none => float

/-! ### Values -/

def maxDepth : Nat := 128

def keyOf : Document → Reader String
  | .text (some s) => pure s
  | _ => Reader.fail

def hasNames (cs : List Char) : Bool :=
  match skipFrom (cs.length + 1) cs >>= name? with
  | some (_, rest) => (skipFrom (rest.length + 1) rest >>= List.head?) = some ':'
  | none => false

/-- Whether another part follows behind a comma; without one the end has to follow. -/
def continues (ending : Char) : Reader Bool := do
  skip
  match ← Reader.rest with
  | ',' :: cs =>
    set cs
    skip
    return (← Reader.next?) != some ending
  | _ => return false

mutual

def value : Nat → Nat → Reader Document
  | 0, _ => Reader.fail
  | fuel + 1, depth => do
    if ← skipsName "true" then return .bool true
    if ← skipsName "false" then return .bool false
    if ← skipsName "None" then return .null
    if ← Reader.skips "()" then return .null
    if ← skipsName "inf" then return .number "inf".toList
    if ← skipsName "-inf" then return .number "-inf".toList
    if ← skipsName "NaN" then return .number "NaN".toList
    if ← skipsName "Some" then
      skip
      Reader.char '('
      skip
      let d ← inner fuel depth
      if ← continues ')' then Reader.fail
      Reader.char ')'
      return d
    match name? (← Reader.rest) with
    | some (_, rest) =>
      set rest
      skip
      if (← Reader.next?) = some '(' then tuple fuel depth else return .null
    | none =>
      match ← Reader.next? with
      | some '(' => tuple fuel depth
      | some '[' =>
        Reader.char '['
        skip
        if (← Reader.next?) = some ']' then
          Reader.char ']'
          return .list [] true
        else
          let ds ← items fuel depth ']'
          return .list ds true
      | some '"' =>
        Reader.char '"'
        return .text (some (String.ofList (← textUntil ((← Reader.rest).length + 1))))
      | some 'r' => return .text (some (String.ofList (← rawText)))
      | some '\'' => return .text (some (String.ofList [← character]))
      | some '{' =>
        Reader.char '{'
        skip
        if (← Reader.next?) = some '}' then
          Reader.char '}'
          return .object [] true
        else return Document.table (← entries fuel depth)
      | _ => number

def inner : Nat → Nat → Reader Document
  | 0, _ => Reader.fail
  | _, 0 => Reader.fail
  | fuel + 1, depth + 1 => value fuel depth

def tuple : Nat → Nat → Reader Document
  | 0, _ => Reader.fail
  | fuel + 1, depth => do
    Reader.char '('
    let cs ← Reader.rest
    skip
    if (← Reader.next?) = some ')' then
      Reader.char ')'
      return .list [] true
    else if hasNames cs then return Document.table (← parts fuel depth)
    else return .list (← items fuel depth ')') true

def items : Nat → Nat → Char → Reader (List Document)
  | 0, _, _ => Reader.fail
  | fuel + 1, depth, ending => do
    let d ← inner fuel depth
    if ← continues ending then return d :: (← items fuel depth ending)
    else
      Reader.char ending
      return [d]

def entries : Nat → Nat → Reader (List (String × Document))
  | 0, _ => Reader.fail
  | fuel + 1, depth => do
    let key ← keyOf (← inner fuel depth)
    skip
    Reader.char ':'
    skip
    let d ← inner fuel depth
    if ← continues '}' then return (key, d) :: (← entries fuel depth)
    else
      Reader.char '}'
      return [(key, d)]

def parts : Nat → Nat → Reader (List (String × Document))
  | 0, _ => Reader.fail
  | fuel + 1, depth => do
    match name? (← Reader.rest) with
    | none => Reader.fail
    | some (key, rest) =>
      set rest
      skip
      Reader.char ':'
      skip
      let d ← inner fuel depth
      if ← continues ')' then return (String.ofList key, d) :: (← parts fuel depth)
      else
        Reader.char ')'
        return [(String.ofList key, d)]

end

def extensions : List String := ["unwrap_newtypes", "implicit_some", "unwrap_variant_newtypes"]

def extensionNames : Nat → Reader Unit
  | 0 => Reader.fail
  | fuel + 1 => do
    match name? (← Reader.rest) with
    | none => Reader.fail
    | some (extension, rest) =>
      if !extensions.contains (String.ofList extension) then Reader.fail
      set rest
      if ← continues ')' then extensionNames fuel

def attributes : Nat → Reader Unit
  | 0 => Reader.fail
  | fuel + 1 => do
    skip
    if (← Reader.next?) = some '#' then
      for mark in ["#", "!", "[", "enable", "("] do
        if !(← Reader.skips mark) then Reader.fail
        skip
      extensionNames (fuel + 1)
      for mark in [")", "]"] do
        skip
        if !(← Reader.skips mark) then Reader.fail
      attributes fuel

/-- The tree of a whole text, nothing if it is not RON. -/
def document? (s : String) : Option Document :=
  let cs := s.toList
  let reader : Reader Document := do
    attributes (cs.length + 1)
    let d ← value (2 * cs.length + 2) maxDepth
    skip
    return d
  reader.whole cs

end XcmTasks.Ron
