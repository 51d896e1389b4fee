import XcmTasks.Json.Document
import XcmTasks.Toml.Scalar
import XcmTasks.Toml.Text

/-!
TOML documents as trees. A table is opened once, by its header or by the dots of a key, and
nothing is added to it in the other way; a list of tables grows by its headers. Times become
texts. A table whose first key is a certain mark stands for the time that is told under it.
-/

namespace XcmTasks.Toml

inductive Node where
  | value (document : Document)
  /-- A table, whether it is there only because of what is inside it, and whether it comes from the
  dots of a key. -/
  | table (implied dotted : Bool) (entries : List (String × Node))
  | tables (elements : List (List (String × Node)))

abbrev Entries := List (String × Node)

/-- The first key of a table that stands for a time. -/
def timeMark : String := "$__toml_private_datetime"

def tableDocument? (members : List (Option String × Document)) : Option Document :=
  match members with
  | (key, value) :: _ =>
    if key = some timeMark then
      match value with
      | .text (some s) => do return .text (some (String.ofList (← momentOfText? s.toList)))
      | _ => none
    else some (.object members true)
  | [] => some (.object [] true)

mutual

def Node.document? : Node → Option Document
  | .value d => some d
  | .table _ _ entries => do tableDocument? (← memberDocuments? entries)
  | .tables elements => do return .list (← elementDocuments? elements) true

def memberDocuments? : List (String × Node) → Option (List (Option String × Document))
  | [] => some []
  | (key, node) :: entries => do
    return (some key, ← node.document?) :: (← memberDocuments? entries)

def elementDocuments? : List (List (String × Node)) → Option (List Document)
  | [] => some []
  | entries :: elements => do
    let d ← tableDocument? (← memberDocuments? entries)
    return d :: (← elementDocuments? elements)

end

/-! ### Changing tables -/

def put (key : String) (node : Node) : Entries → Entries
  | [] => [(key, node)]
  | (k, n) :: entries => if k = key then (k, node) :: entries else (k, n) :: put key node entries

/-- Changes the table at the end of a path, with all tables on the way. Those that are not there yet
are implied ones. A path of dots passes through implied tables only. -/
def descend (dotted : Bool) (f : Bool → Entries → Option Entries) :
    List String → Bool → Entries → Option Entries
  | [], isDotted, entries => f isDotted entries
  | key :: path, _, entries =>
    match entries.lookup key with
    | none => do
      let inner ← descend dotted f path dotted []
      return entries ++ [(key, .table true dotted inner)]
    | some (.value _) => none
    | some (.tables elements) => do
      let inner ← descend dotted f path false (← elements.getLast?)
      return put key (.tables (elements.dropLast ++ [inner])) entries
    | some (.table implied isDotted inner) => do
      if dotted && !implied then none
      let inner ← descend dotted f path isDotted inner
      return put key (.table implied isDotted inner) entries

/-- Adds a value under a key of dots. -/
def addPair (entries : Entries) (path : List String) (value : Document) : Option Entries := do
  let key ← path.getLast?
  let above := path.dropLast
  let add := fun isDotted (entries : Entries) =>
    if isDotted == above.isEmpty || (entries.lookup key).isSome then none
    else some (entries ++ [(key, .value value)])
  descend true add above false entries

/-! ### Values -/

def isScalarChar (c : Char) : Bool := isBare c || c = '+' || c = '.' || c = ':'

def scalarWord : Reader (List Char) := fun cs =>
  let word := cs.takeWhile isScalarChar
  match cs.dropWhile isScalarChar with
  | ' ' :: c :: rest =>
    if c.isDigit && (date? word).any (·.2.isEmpty) then
      some (word ++ ' ' :: (c :: rest).takeWhile isScalarChar, (c :: rest).dropWhile isScalarChar)
    else some (word, ' ' :: c :: rest)
  | rest => some (word, rest)

def scalar : Reader Document := do
  let word ← scalarWord
  if word = "true".toList then return .bool true
  else if word = "false".toList then return .bool false
  else
    match integer? word, float? word, moment? word with
    | some n, _, _ => return .number n
    | none, some x, _ => return .number x
    | none, none, some t => return .text (some (String.ofList t))
    | none, none, none => Reader.fail

mutual

/-- A value, which holds no more values than the fuel and lies inside others no deeper than
`depth`. -/
def value (depth : Nat) : Nat → Reader Document
  | 0 => Reader.fail
  | fuel + 1 => do
    match ← Reader.next? with
    | some '"' => return .text (some (String.ofList (← quotedText '"')))
    | some '\'' => return .text (some (String.ofList (← quotedText '\'')))
    | some '[' =>
      if depth = 0 then Reader.fail
      Reader.char '['
      return .list (← items (depth - 1) fuel) true
    | some '{' =>
      if depth = 0 then Reader.fail
      Reader.char '{'
      skipBlanks
      if (← Reader.next?) = some '}' then
        Reader.char '}'
        return .object [] true
      else
        let entries ← pairs (depth - 1) fuel []
        ((Node.table false false entries).document? : Option Document)
    | _ => scalar

def items (depth : Nat) : Nat → Reader (List Document)
  | 0 => Reader.fail
  | fuel + 1 => do
    skipSpace
    if (← Reader.next?) = some ']' then
      Reader.char ']'
      return []
    else
      let item ← value depth fuel
      skipSpace
      if (← Reader.next?) = some ',' then
        Reader.char ','
        return item :: (← items depth fuel)
      else
        Reader.char ']'
        return [item]

def pairs (depth : Nat) : Nat → Entries → Reader Entries
  | 0, _ => Reader.fail
  | fuel + 1, entries => do
    let path ← key
    Reader.char '='
    skipBlanks
    let d ← value depth fuel
    match addPair entries path d with
    | none => Reader.fail
    | some entries =>
      skipBlanks
      if (← Reader.next?) = some ',' then
        Reader.char ','
        pairs depth fuel entries
      else
        Reader.char '}'
        return entries

end

/-! ### Documents -/

/-- The table that is being filled, and those that are finished. -/
structure State where
  root : Entries
  current : Entries
  path : List String
  isElement : Bool

/-- Puts the table that is being filled to the others. -/
def State.finish (s : State) : Option Entries :=
  match s.path.getLast? with
  | none => some s.current
  | some key =>
    let add := fun _ (entries : Entries) =>
      match entries.lookup key, s.isElement with
      | none, true => some (entries ++ [(key, .tables [s.current])])
      | some (.tables elements), true =>
        some (put key (.tables (elements ++ [s.current])) entries)
      | none, false => some (entries ++ [(key, .table false false s.current)])
      | some (.table true _ _), false => some (put key (.table false false s.current) entries)
      | _, _ => none
    descend false add s.path.dropLast false s.root

def State.openTable (s : State) (path : List String) : Option State := do
  let root ← s.finish
  let key ← path.getLast?
  let parent ← lookUp root path.dropLast
  match parent.lookup key with
  | none => some ⟨root, [], path, false⟩
  | some (.table true false entries) => some ⟨root, entries, path, false⟩
  | some _ => none
where
  lookUp (entries : Entries) : List String → Option Entries
    | [] => some entries
    | key :: path =>
      match entries.lookup key with
      | none => some []
      | some (.value _) => none
      | some (.tables elements) => do lookUp (← elements.getLast?) path
      | some (.table _ _ inner) => lookUp inner path

/-- Begins one more table of a list. -/
def State.openElement (s : State) (path : List String) : Option State := do
  let root ← s.finish
  let key ← path.getLast?
  let parent ← State.openTable.lookUp root path.dropLast
  match parent.lookup key with
  | none => some ⟨root, [], path, true⟩
  | some (.tables _) => some ⟨root, [], path, true⟩
  | some _ => none

def line (fuel : Nat) (s : State) : Reader State := do
  skipBlanks
  match ← Reader.rest with
  | '[' :: '[' :: rest =>
    set rest
    let path ← key
    Reader.char ']'
    Reader.char ']'
    endOfLine
    (s.openElement path : Option State)
  | '[' :: rest =>
    set rest
    let path ← key
    Reader.char ']'
    endOfLine
    (s.openTable path : Option State)
  | cs =>
    if cs.isEmpty || cs.head? = some '#' || (afterNewline? cs).isSome then
      endOfLine
      return s
    else
      let path ← key
      Reader.char '='
      skipBlanks
      let d ← value maxDepth fuel
      endOfLine
      match addPair s.current path d with
      | some current => return { s with current := current }
      | none => Reader.fail

def lines : Nat → State → List Char → Option State
  | _, s, [] => some s
  | 0, _, _ :: _ => none
  | fuel + 1, s, cs => do
    let (s, rest) ← line (2 * cs.length + 2) s cs
    lines fuel s rest

/-- The tree of a whole text, nothing if it is not TOML. -/
def document? (text : String) : Option Document := do
  let cs := text.toList
  let cs := if cs.head? = some (Char.ofNat 0xfeff) then cs.drop 1 else cs
  let s ← lines (cs.length + 1) ⟨[], [], [], false⟩ cs
  tableDocument? (← memberDocuments? (← s.finish))

end XcmTasks.Toml
