import XcmTasks.Bytes
import XcmTasks.Json.Document
import XcmTasks.Text.LetterCase

/-!
Putting configurations together. A value is put at a place named by a path, over what stands
there; a table is laid into the table there, key by key. Keys are in small letters throughout,
except inside lists.
-/

namespace XcmTasks.Config

open Document (put)

inductive Step where
  | child (key : String)
  | index (i : Int)
deriving DecidableEq, Repr

abbrev Members := List (Option String × Document)

def membersOf : Document → Members
  | .object members _ => members
  | _ => []

def itemsOf : Document → List Document
  | .list items _ => items
  | _ => []

def find? (key : String) (members : Members) : Option Document :=
  (members.find? fun m => m.1 == some key).map Prod.snd

mutual

/-- Lays a value under a key into a configuration, which becomes a table if it is none. -/
def lay (key : String) (root : Document) : Document → Document
  | .object incoming _ =>
    let key := Text.lowercase key
    let target := (find? key (membersOf root)).getD (.object [] true)
    .object (put key (layAll target incoming) (membersOf root)) true
  | value => .object (put (Text.lowercase key) value (membersOf root)) true

def layAll (target : Document) : List (Option String × Document) → Document
  | [] => target
  | (some key, value) :: members => layAll (lay key target value) members
  | (none, _) :: members => layAll target members

end

/-- A list that is long enough to have an item at a place. -/
def lengthen (n : Nat) (items : List Document) : List Document :=
  items ++ List.replicate (n + 1 - items.length) .null

/-- The place that a number names in a list; one below zero counts from the end. -/
def placeOf (i : Int) (items : List Document) : Nat :=
  if 0 ≤ i then i.toNat else items.length - i.natAbs

/-- Puts a value at the end of a path. What is in the way becomes a table or a list. -/
def set (value : Document) : List Step → Document → Document
  | [], _ => value
  | [.child key], root => lay key root value
  | .child key :: steps, root =>
    let key := Text.lowercase key
    let inner := (find? key (membersOf root)).getD .null
    .object (put key (set value steps inner) (membersOf root)) true
  | .index i :: steps, root =>
    let place := placeOf i (itemsOf root)
    let items := lengthen place (itemsOf root)
    .list (items.set place (set value steps (items.getD place .null))) true

/-! ### Paths as texts -/

def isKeyChar (c : Char) : Bool :=
  c.isDigit || ('a' ≤ c && c ≤ 'z') || ('A' ≤ c && c ≤ 'Z') || c = ' ' || c = '_' || c = '-'

def isBlank (c : Char) : Bool := c = ' ' || c = '\t'

/-- A number between brackets, the opening one left out, and the rest. -/
def index? (cs : List Char) : Option (Int × List Char) := do
  let cs := cs.dropWhile isBlank
  let (isNegative, cs) := match cs with
    | '-' :: cs => (true, cs)
    | cs => (false, cs)
  let digits := cs.takeWhile Char.isDigit
  let n : Nat := digits.foldl (fun n d => n * 10 + (d.toNat - 48)) 0
  if digits.isEmpty || signedSize ≤ n then none
  match (cs.dropWhile Char.isDigit).dropWhile isBlank with
  | ']' :: rest => some (if isNegative then -(n : Int) else n, rest)
  | _ => none

def steps? : Nat → List Char → Option (List Step)
  | _, [] => some []
  | 0, _ => none
  | fuel + 1, '.' :: cs =>
    let key := cs.takeWhile isKeyChar
    if key.isEmpty then none
    else (steps? fuel (cs.dropWhile isKeyChar)).map (.child (String.ofList key) :: ·)
  | fuel + 1, '[' :: cs => do
    let (i, cs) ← index? cs
    return .index i :: (← steps? fuel cs)
  | _, _ => none

/-- The path that a text names. A text that names none is a key as it stands. -/
def pathOf (s : String) : List Step :=
  let cs := s.toList
  let key := cs.takeWhile isKeyChar
  match steps? cs.length (cs.dropWhile isKeyChar) with
  | some steps => if key.isEmpty then [.child s] else .child (String.ofList key) :: steps
  | none => [.child s]

end XcmTasks.Config
