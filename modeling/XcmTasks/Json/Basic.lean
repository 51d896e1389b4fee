import XcmTasks.Json.Decimal
import XcmTasks.Table
import XcmTasks.Text.Hex

/-!
JSON values and their compact text: no blanks, members in the order of the value, every character
written as itself except quotes, backslashes and control characters.
-/

namespace XcmTasks

namespace Json

inductive Number where
  | natural (n : Nat)
  /-- The number `-(n + 1)`. -/
  | negative (n : Nat)
  | decimal (d : Decimal)
deriving DecidableEq, Repr

end Json

inductive Json where
  | null
  | bool (b : Bool)
  | number (n : Json.Number)
  | text (s : String)
  | list (items : List Json)
  | object (members : List (String × Json))
deriving Repr, Inhabited

namespace Json

def ofNat (n : Nat) : Json := .number (.natural n)

def Number.chars : Number → List Char
  | .natural n => Nat.toDigits 10 n
  | .negative n => '-' :: Nat.toDigits 10 (n + 1)
  | .decimal d => d.chars

def escapeLetter? (c : Char) : Option Char :=
  if c = '"' || c = '\\' then some c
  else
    match c.toNat with
    | 8 => some 'b'
    | 9 => some 't'
    | 10 => some 'n'
    | 12 => some 'f'
    | 13 => some 'r'
    | _ => none

def escape (c : Char) : List Char :=
  match escapeLetter? c with
  | some letter => ['\\', letter]
  | none =>
    if c.toNat < 32 then
      ['\\', 'u', '0', '0', Hex.digit (c.toNat / 16), Hex.digit (c.toNat % 16)]
    else [c]

def quote (s : String) : List Char := '"' :: s.toList.flatMap escape ++ ['"']

mutual

def chars : Json → List Char
  | .null => ['n', 'u', 'l', 'l']
  | .bool true => ['t', 'r', 'u', 'e']
  | .bool false => ['f', 'a', 'l', 's', 'e']
  | .number n => n.chars
  | .text s => quote s
  | .list items => '[' :: itemChars items ++ [']']
  | .object members => '{' :: memberChars members ++ ['}']

def itemChars : List Json → List Char
  | [] => []
  | [item] => chars item
  | item :: items => chars item ++ ',' :: itemChars items

def memberChars : List (String × Json) → List Char
  | [] => []
  | [(key, value)] => quote key ++ ':' :: chars value
  | (key, value) :: members => quote key ++ ':' :: chars value ++ ',' :: memberChars members

end

def render (j : Json) : String := String.ofList (chars j)

def get? (key : String) : Json → Option Json
  | .object members => members.lookup key
  | _ => none

def text? : Json → Option String
  | .text s => some s
  | _ => none

/-- The object with these members in ascending order; of equal keys the last one counts. -/
def sortedObject (members : List (String × Json)) : Json := .object (Table.ofList members).entries

def optional {α : Type} (write : α → Json) : Option α → Json
  | none => .null
  | some a => write a

end Json

class ToJson (α : Type) where
  toJson : α → Json

export ToJson (toJson)

instance : ToJson Bool := ⟨.bool⟩
instance : ToJson String := ⟨.text⟩
instance {α : Type} [ToJson α] : ToJson (Option α) := ⟨Json.optional toJson⟩
instance {α : Type} [ToJson α] : ToJson (List α) := ⟨fun as => .list (as.map toJson)⟩
instance {α : Type} [ToJson α] : ToJson (Table α) :=
  ⟨fun table => .object (table.entries.map fun e => (e.1, toJson e.2))⟩
instance : ToJson UInt8 := ⟨fun n => .ofNat n.toNat⟩
instance : ToJson UInt32 := ⟨fun n => .ofNat n.toNat⟩
instance : ToJson UInt64 := ⟨fun n => .ofNat n.toNat⟩
instance : ToJson (BitVec 128) := ⟨fun n => .ofNat n.toNat⟩

def jsonText {α : Type} [ToJson α] (a : α) : String := (toJson a).render

end XcmTasks
