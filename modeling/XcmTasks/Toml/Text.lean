import XcmTasks.Text.Code
import XcmTasks.Text.Reader

/-!
The small parts of TOML text: blanks, comments, ends of lines, quoted texts and keys.
-/

namespace XcmTasks.Toml

/-! ### Blanks and comments -/

def isBlank (c : Char) : Bool := c = ' ' || c = '\t'

def skipBlanks : Reader Unit := do let _ ← Reader.takeWhile isBlank

def isPlain (c : Char) : Bool := c = '\t' || (32 ≤ c.toNat && c.toNat != 127)

def afterNewline? : List Char → Option (List Char)
  | '\n' :: cs => some cs
  | '\r' :: '\n' :: cs => some cs
  | _ => none

def newline : Reader Unit := fun cs => (afterNewline? cs).map ((), ·)

def skipComment : Reader Unit := do
  if (← Reader.next?) = some '#' then let _ ← Reader.takeWhile isPlain

def endOfLine : Reader Unit := do
  skipBlanks
  skipComment
  if !(← Reader.rest).isEmpty then newline

def skipLines : Nat → List Char → List Char
  | 0, cs => cs
  | fuel + 1, cs =>
    match cs with
    | '#' :: more => skipLines fuel (more.dropWhile isPlain)
    | c :: more =>
      if isBlank c then skipLines fuel more
      else
        match afterNewline? cs with
        | some rest => skipLines fuel rest
        | none => cs
    | [] => []

def skipSpace : Reader Unit := fun cs => some ((), skipLines cs.length cs)

/-! ### Quoted texts -/

/-- The character whose code the first `count` digits give. -/
def coded? (count : Nat) (cs : List Char) : Option (Char × List Char) := do
  return (← Text.codedChar? count cs, cs.drop count)

def escaped? : List Char → Option (Char × List Char)
  | 'b' :: cs => some (Char.ofNat 8, cs)
  | 't' :: cs => some ('\t', cs)
  | 'n' :: cs => some ('\n', cs)
  | 'f' :: cs => some (Char.ofNat 12, cs)
  | 'r' :: cs => some ('\r', cs)
  | '"' :: cs => some ('"', cs)
  | '\\' :: cs => some ('\\', cs)
  | 'u' :: cs => coded? 4 cs
  | 'U' :: cs => coded? 8 cs
  | _ => none

/-- A text up to the closing quote on the same line, with escapes if the quote is double. -/
def lineText? (quote : Char) : Nat → List Char → Option (List Char × List Char)
  | 0, _ => none
  | _ + 1, [] => none
  | fuel + 1, c :: cs =>
    if c = quote then some ([], cs)
    else if c = '\\' && quote = '"' then do
      let (c, cs) ← escaped? cs
      let (text, cs) ← lineText? quote fuel cs
      return (c :: text, cs)
    else if isPlain c then do
      let (text, cs) ← lineText? quote fuel cs
      return (c :: text, cs)
    else none

def skipEmpty : Nat → List Char → List Char
  | 0, cs => cs
  | fuel + 1, cs =>
    match afterNewline? cs with
    | some rest => skipEmpty fuel rest
    | none =>
      match cs with
      | c :: rest => if isBlank c then skipEmpty fuel rest else cs
      | [] => []

/-- A backslash at the end of a line joins it with the next one that is not blank. -/
def joined? (cs : List Char) : Option (List Char) := do
  let rest ← afterNewline? (cs.dropWhile isBlank)
  return skipEmpty rest.length rest

/-- A text up to three closing quotes, before which up to two more belong to the text. -/
def blockText? (quote : Char) : Nat → List Char → Option (List Char × List Char)
  | 0, _ => none
  | _ + 1, [] => none
  | fuel + 1, c :: cs =>
    if c = quote then
      let quotes := (c :: cs).takeWhile (· = quote)
      let rest := (c :: cs).dropWhile (· = quote)
      if quotes.length < 3 then do
        let (text, rest) ← blockText? quote fuel rest
        return (quotes ++ text, rest)
      else if quotes.length ≤ 5 then some (quotes.drop 3, rest)
      else none
    else if c = '\\' && quote = '"' then
      match joined? cs with
      | some cs => blockText? quote fuel cs
      | none => do
        let (c, cs) ← escaped? cs
        let (text, cs) ← blockText? quote fuel cs
        return (c :: text, cs)
    else
      match afterNewline? (c :: cs) with
      | some cs => do
        let (text, cs) ← blockText? quote fuel cs
        return ('\n' :: text, cs)
      | none =>
        if isPlain c then do
          let (text, cs) ← blockText? quote fuel cs
          return (c :: text, cs)
        else none

def lineText (quote : Char) : Reader (List Char)
  | c :: cs => if c = quote then lineText? quote (cs.length + 1) cs else none
  | [] => none

/-- A quoted text, on one line or between threefold quotes. The end of a line right behind those
does not count. -/
def quotedText (quote : Char) : Reader (List Char) := fun cs =>
  if [quote, quote, quote].isPrefixOf cs then
    let inner := cs.drop 3
    let inner := (afterNewline? inner).getD inner
    blockText? quote (inner.length + 1) inner
  else lineText quote cs

/-! ### Keys -/

def isBare (c : Char) : Bool :=
  c.isDigit || ('a' ≤ c && c ≤ 'z') || ('A' ≤ c && c ≤ 'Z') || c = '_' || c = '-'

def simpleKey : Reader String := do
  match ← Reader.next? with
  | some '"' => return String.ofList (← lineText '"')
  | some '\'' => return String.ofList (← lineText '\'')
  | _ =>
    let key ← Reader.takeWhile isBare
    if key.isEmpty then Reader.fail else return String.ofList key

/-- Keys with dots between them. -/
def dottedKey : Nat → Reader (List String)
  | 0 => Reader.fail
  | fuel + 1 => do
    skipBlanks
    let key ← simpleKey
    skipBlanks
    if (← Reader.next?) = some '.' then
      Reader.char '.'
      return key :: (← dottedKey fuel)
    else return [key]

/-- How many tables, lists and keys may lie inside each other on one line. -/
def maxDepth : Nat := 79

def key : Reader (List String) := do
  let path ← dottedKey ((← Reader.rest).length + 1)
  if maxDepth < path.length then Reader.fail else return path

end XcmTasks.Toml
