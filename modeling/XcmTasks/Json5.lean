import XcmTasks.Bytes
import XcmTasks.Json.Decimal
import XcmTasks.Json.Document
import XcmTasks.Text.Code
import XcmTasks.Text.Letter
import XcmTasks.Text.Reader

/-!
JSON5 text as a tree. Besides JSON it has comments, commas behind the last item, names without
quotes, texts in single quotes and over several lines, and more ways to write numbers.
-/

namespace XcmTasks.Json5

open Text (inRanges rangesOf isLetter isFollower)

def isLineEnd (c : Char) : Bool :=
  c = '\n' || c = '\r' || c.toNat = 0x2028 || c.toNat = 0x2029

def isSpace (c : Char) : Bool :=
  isLineEnd c || c = '\t' || c.toNat = 0xb || c.toNat = 0xc || c.toNat = 0xfeff ||
    inRanges (rangesOf ["20 A0 1680 2000-200A 202F 205F 3000"]) c.toNat

def afterComment? : List Char → Option (List Char)
  | '*' :: '/' :: cs => some cs
  | _ :: cs => afterComment? cs
  | [] => none

def skipFrom : Nat → List Char → List Char
  | 0, cs => cs
  | fuel + 1, cs =>
    match cs with
    | '/' :: '/' :: more => skipFrom fuel (more.dropWhile fun c => !isLineEnd c)
    | '/' :: '*' :: more =>
      match afterComment? more with
      | some rest => skipFrom fuel rest
      | none => cs
    | c :: more => if isSpace c then skipFrom fuel more else cs
    | [] => []

def skip : Reader Unit := fun cs => some ((), skipFrom (cs.length + 1) cs)

/-! ### Texts and names -/

def code (count : Nat) : Reader Nat := fun cs =>
  (Text.codeAt? count cs).map (·, cs.drop count)

def charOf (n : Nat) : Reader Char := fun cs => (Text.charOf? n).map (·, cs)

/-- The character behind `\u`, which may be written in two halves. -/
def unicodeChar : Reader Char := do
  let high ← code 4
  if 0xd800 ≤ high && high < 0xdc00 then
    if !(← Reader.skips "\\u") then Reader.fail
    let low ← code 4
    if low < 0xdc00 || 0xdfff < low then Reader.fail
    charOf (0x10000 + (high - 0xd800) * 0x400 + (low - 0xdc00))
  else charOf high

def escaped (c : Char) : Char :=
  if c = 'b' then Char.ofNat 8
  else if c = 'f' then Char.ofNat 12
  else if c = 'n' then '\n'
  else if c = 'r' then '\r'
  else if c = 't' then '\t'
  else if c = 'v' then Char.ofNat 11
  else c

/-- What a backslash and what follows it stand for. The end of a line stands for nothing. -/
def escape : Reader (List Char) := do
  match ← Reader.rest with
  | '0' :: cs => set cs; return [Char.ofNat 0]
  | 'x' :: cs => set cs; return [← charOf (← code 2)]
  | 'u' :: cs => set cs; return [← unicodeChar]
  | '\r' :: '\n' :: cs => set cs; return []
  | c :: cs =>
    if c.isDigit then Reader.fail
    else
      set cs
      return if isLineEnd c then [] else [escaped c]
  | [] => Reader.fail

def textUntil (quote : Char) : Nat → Reader (List Char)
  | 0 => Reader.fail
  | fuel + 1 => do
    match ← Reader.rest with
    | [] => Reader.fail
    | c :: cs =>
      set cs
      if c = quote then return []
      else if c = '\\' then
        let read ← escape
        return read ++ (← textUntil quote fuel)
      else if isLineEnd c then Reader.fail
      else return c :: (← textUntil quote fuel)

def text (quote : Char) : Reader String := do
  Reader.char quote
  return String.ofList (← textUntil quote ((← Reader.rest).length + 1))

def nameChars (isFirst : Bool) : Nat → Reader (List Char)
  | 0 => Reader.fail
  | fuel + 1 => do
    match ← Reader.rest with
    | '\\' :: 'u' :: cs =>
      set cs
      let c ← unicodeChar
      return c :: (← nameChars false fuel)
    | c :: cs =>
      if isLetter c || c = '$' || c = '_' || (!isFirst && isFollower c) then
        set cs
        return c :: (← nameChars false fuel)
      else if isFirst then Reader.fail
      else return []
    | [] => if isFirst then Reader.fail else return []

def name : Reader String := do
  match ← Reader.next? with
  | some '"' => text '"'
  | some '\'' => text '\''
  | _ => return String.ofList (← nameChars true ((← Reader.rest).length + 1))

/-! ### Numbers -/

/-- A whole part: a lone zero, or digits that begin with another. -/
def wholePart : List Char → List Char
  | '0' :: _ => ['0']
  | cs => cs.takeWhile Char.isDigit

def exponentPart : List Char → List Char
  | e :: cs =>
    if e = 'e' || e = 'E' then
      let (sign, cs) := match cs with
        | '+' :: cs => (['+'], cs)
        | '-' :: cs => (['-'], cs)
        | cs => ([], cs)
      let ds := cs.takeWhile Char.isDigit
      if ds.isEmpty then [] else e :: sign ++ ds
    else []
  | [] => []

def numberLexeme (cs : List Char) : List Char :=
  if "Infinity".toList.isPrefixOf cs then "Infinity".toList
  else if "NaN".toList.isPrefixOf cs then "NaN".toList
  else
    let hex := (cs.drop 2).takeWhile Text.isHexDigit
    if (cs.take 2 = ['0', 'x'] || cs.take 2 = ['0', 'X']) && !hex.isEmpty then cs.take 2 ++ hex
    else
      let whole := wholePart cs
      let cs := cs.drop whole.length
      match cs with
      | '.' :: more =>
        let ds := more.takeWhile Char.isDigit
        if whole.isEmpty && ds.isEmpty then []
        else whole ++ '.' :: ds ++ exponentPart (more.drop ds.length)
      | cs => if whole.isEmpty then [] else whole ++ exponentPart cs

/-- The number that a lexeme stands for. Whole numbers have 64 bits with their sign, or 32 bits if
they are written to the base of sixteen; other numbers are not too large. -/
def numberOf? (sign lexeme : List Char) : Option (List Char) :=
  let isNegative := sign = ['-']
  if lexeme = "Infinity".toList then
    if sign = ['+'] then none else some (if isNegative then "-inf".toList else "inf".toList)
  else if lexeme = "NaN".toList then
    if sign = ['+'] then none else some "NaN".toList
  else if (lexeme.drop 1).head? = some 'x' || (lexeme.drop 1).head? = some 'X' then
    do
      let n ← Text.numberOf? 16 (lexeme.drop 2)
      if sign.isEmpty && n < UInt32.size then some (Nat.toDigits 10 n) else none
  else if lexeme.all Char.isDigit then
    let n := Json.Decimal.digitsValue lexeme
    if isNegative then
      if n ≤ signedSize then some (if n = 0 then ['0'] else '-' :: Nat.toDigits 10 n) else none
    else if n < signedSize then some (Nat.toDigits 10 n) else none
  else do
    let x ← Json.Decimal.float? (sign ++ lexeme)
    if x.isInf then none else some (Json.Decimal.floatChars x)

def number : Reader Document := do
  let sign ← match ← Reader.rest with
    | '+' :: cs => do set cs; pure ['+']
    | '-' :: cs => do set cs; pure ['-']
    | _ => pure []
  let cs ← Reader.rest
  let lexeme := numberLexeme cs
  if lexeme.isEmpty then Reader.fail
  set (cs.drop lexeme.length)
  match numberOf? sign lexeme with
  | some n => return .number n
  | none => Reader.fail

/-! ### Values -/

mutual

def value : Nat → Reader Document
  | 0 => Reader.fail
  | fuel + 1 => do
    if ← Reader.skips "null" then return .null
    if ← Reader.skips "true" then return .bool true
    if ← Reader.skips "false" then return .bool false
    match ← Reader.next? with
    | some '"' => return .text (some (← text '"'))
    | some '\'' => return .text (some (← text '\''))
    | some '[' =>
      Reader.char '['
      skip
      if (← Reader.next?) = some ']' then
        Reader.char ']'
        return .list [] true
      else return .list (← items fuel) true
    | some '{' =>
      Reader.char '{'
      skip
      if (← Reader.next?) = some '}' then
        Reader.char '}'
        return .object [] true
      else return Document.table (← members fuel)
    | _ => number

def items : Nat → Reader (List Document)
  | 0 => Reader.fail
  | fuel + 1 => do
    let item ← value fuel
    skip
    if (← Reader.next?) = some ',' then
      Reader.char ','
      skip
      if (← Reader.next?) = some ']' then
        Reader.char ']'
        return [item]
      else return item :: (← items fuel)
    else
      Reader.char ']'
      return [item]

def members : Nat → Reader (List (String × Document))
  | 0 => Reader.fail
  | fuel + 1 => do
    let key ← name
    skip
    Reader.char ':'
    skip
    let item ← value fuel
    skip
    if (← Reader.next?) = some ',' then
      Reader.char ','
      skip
      if (← Reader.next?) = some '}' then
        Reader.char '}'
        return [(key, item)]
      else return (key, item) :: (← members fuel)
    else
      Reader.char '}'
      return [(key, item)]

end

def document? (s : String) : Option Document :=
  let cs := s.toList
  let reader : Reader Document := do
    skip
    let d ← value (cs.length + 1)
    skip
    return d
  reader.whole cs

end XcmTasks.Json5
