import XcmTasks.Bytes
import XcmTasks.Json.Document
import XcmTasks.Text.Blank
import XcmTasks.Text.LetterCase

/-!
Values read from a document. Reading follows the order of the text and stops at its first fault;
members that are missing are noticed after the last one, in the order of declaration.

JSON text is read `exact`ly: nothing but a number is read as a number. A configuration file is read
in a `lenient` manner: numbers, truth values and texts stand for each other, names of variants do
not mind their case, and a list may be longer than what it is read as.
-/

namespace XcmTasks

inductive Manner where
  | exact
  | lenient
deriving DecidableEq

inductive ReadError where
  /-- Not JSON, or another kind of value, or a number out of range. -/
  | malformed
  | missingMember (name : String)
  | duplicateMember (name : String)
  | unknownVariant (name : String) (expected : List String)
  /-- A value of the right kind that the type refuses. -/
  | refused (reason : String)
deriving DecidableEq, Repr

abbrev Reading := Except ReadError

namespace ReadError

def quoted (name : String) : String := "`" ++ name ++ "`"

def choice : List String → String
  | [] => "there are no variants"
  | [a] => "expected " ++ quoted a
  | [a, b] => "expected " ++ quoted a ++ " or " ++ quoted b
  | names => "expected one of " ++ String.intercalate ", " (names.map quoted)

def message? : ReadError → Option String
  | .malformed => none
  | .missingMember name => some ("missing field " ++ quoted name)
  | .duplicateMember name => some ("duplicate field " ++ quoted name)
  | .unknownVariant name expected =>
    some ("unknown variant " ++ quoted name ++ ", " ++ choice expected)
  | .refused reason => some reason

end ReadError

class FromDocument (α : Type) where
  read : Manner → Document → Reading α

export FromDocument (read)

namespace Document

mutual

/-- Whether a part that nobody reads is JSON nevertheless. -/
def isWhole : Document → Bool
  | .broken => false
  | .list items closed => areWhole items && closed
  | .object members closed => membersWhole members && closed
  | .buried document => isWhole document
  | _ => true

def areWhole : List Document → Bool
  | [] => true
  | item :: items => isWhole item && areWhole items

def membersWhole : List (Option String × Document) → Bool
  | [] => true
  | (_, item) :: members => isWhole item && membersWhole members

end

/-! ### Numbers as they are written -/

def digitValue (c : Char) : Nat := c.toNat - 48

def naturalOf (ds : List Char) : Nat := ds.foldl (fun n d => n * 10 + digitValue d) 0

def plainNatural? (cs : List Char) : Option Nat :=
  if !cs.isEmpty && cs.all Char.isDigit then some (naturalOf cs) else none

/-- The whole number nearest to a decimal without an exponent, a half going away from zero. -/
def roundedNatural (cs : List Char) : Nat :=
  let whole := naturalOf (cs.takeWhile Char.isDigit)
  match (cs.dropWhile Char.isDigit).drop 1 with
  | [] => whole
  | d :: _ => if 5 ≤ digitValue d then whole + 1 else whole

/-- The whole number nearest to another that a floating-point number comes to, a significand of 53
bits being kept and an even one winning a tie. -/
def nearestFloating (n : Nat) : Nat :=
  let unit := Nat.pow 2 (Nat.log2 n - 52)
  let q := n / unit
  let r := n % unit
  if unit < 2 * r || (unit == 2 * r && q % 2 == 1) then (q + 1) * unit else q * unit

/-- The number of at most 64 bits that a lenient reader takes a number for. One with a fraction is
the shortest text of a floating-point number. -/
def lenientNumber? (cs : List Char) : Option Nat :=
  match cs with
  | '-' :: rest =>
    -- a fraction below zero is cut off there, a whole number is not
    if rest.all Char.isDigit then none else some 0
  | cs =>
    match plainNatural? cs with
    | some n => some n
    | none =>
      if cs = "inf".toList then some (UInt64.size - 1)
      else if cs = "NaN".toList then some 0
      else some (min (nearestFloating (roundedNatural cs)) (UInt64.size - 1))

def numberOfText? (s : String) : Option Nat :=
  let word := Text.lowercase s
  if word = "true" || word = "on" || word = "yes" then some 1
  else if word = "false" || word = "off" || word = "no" then some 0
  else
    let cs := s.toList
    plainNatural? (if cs.head? = some '+' then cs.drop 1 else cs)

def truthOfText? (s : String) : Option Bool :=
  let word := Text.lowercase s
  if word = "1" || word = "true" || word = "on" || word = "yes" then some true
  else if word = "0" || word = "false" || word = "off" || word = "no" then some false
  else none

/-! ### Plain values -/

def natural (limit : Nat) (manner : Manner) (document : Document) : Reading Nat :=
  let n? : Option Nat := match manner, document with
    | .exact, .number cs => plainNatural? cs
    | .lenient, .number cs => lenientNumber? cs
    | .lenient, .bool b => some (if b then 1 else 0)
    | .lenient, .text (some s) => numberOfText? s
    | _, _ => none
  match n? with
  | some n => if n ≤ limit then .ok n else .error .malformed
  | none => .error .malformed

def truth (manner : Manner) (document : Document) : Reading Bool :=
  match manner, document with
  | _, .bool b => .ok b
  | .lenient, .number cs => .ok (cs.any fun c => c.isAlpha || (c.isDigit && c != '0'))
  | .lenient, .text (some s) =>
    match truthOfText? s with
    | some b => .ok b
    | none => .error .malformed
  | _, _ => .error .malformed

/-- A number as it is written, but without a fraction of zero. -/
def withoutZeroFraction (cs : List Char) : List Char :=
  if cs.dropWhile (· != '.') = ['.', '0'] then cs.takeWhile (· != '.') else cs

def string (manner : Manner) (document : Document) : Reading String :=
  match manner, document with
  | _, .text (some s) => .ok s
  | .lenient, .number cs => .ok (String.ofList (withoutZeroFraction cs))
  | .lenient, .bool b => .ok (if b then "true" else "false")
  | _, _ => .error .malformed

/-- Nothing for `null`. -/
def optional {α : Type} (item : Manner → Document → Reading α) (manner : Manner) :
    Document → Reading (Option α)
  | .null => .ok none
  | document => some <$> item manner document

def listOf {α : Type} (item : Manner → Document → Reading α) (manner : Manner) :
    Document → Reading (List α)
  | .list items closed => do
    let values ← items.mapM (item manner)
    if closed then return values else .error .malformed
  | _ => .error .malformed

/-- The members of an object under their names, in the order of the text. -/
def entriesOf {α : Type} (item : Manner → Document → Reading α) (manner : Manner) :
    Document → Reading (List (String × α))
  | .object members closed => do
    let entries ← members.mapM fun (key, document) =>
      match key with
      | some key => do return (key, ← item manner document)
      | none => .error .malformed
    if closed then return entries else .error .malformed
  | _ => .error .malformed

/-! ### Variants -/

/-- One of the alternatives of a type: a name alone, or a name with a value. -/
inductive Variant (α : Type) where
  | plain (value : α)
  | carrying (item : Manner → Document → Reading α)

/-- A variant is a name, or an object whose one member is the name with its value; a name alone is
also written with `null`. -/
def variantOf {α : Type} (variants : List (String × Variant α)) (manner : Manner)
    (document : Document) : Reading α :=
  let find (name : String) : Reading (Variant α) :=
    let found : Option (String × Variant α) := match manner with
      | .exact => variants.find? fun v => v.1 == name
      | .lenient => variants.find? fun v => Text.lowercase v.1 == Text.lowercase name
    match found with
    | some v => .ok v.2
    | none => .error (.unknownVariant name (variants.map Prod.fst))
  match document with
  | .text (some name) => do
    match ← find name with
    | .plain a => return a
    | .carrying _ => .error .malformed
  | .object ((some name, payload) :: others) closed => do
    let a ← match ← find name with
      | .plain a =>
        match manner, payload with
        | .exact, .null => pure a
        | .exact, _ => .error .malformed
        | .lenient, _ => pure a
      | .carrying item => item manner payload
    if others.isEmpty && closed then return a else .error .malformed
  | _ => .error .malformed

/-! ### Members -/

/-- How the members of an object, or the items of a list, are put together to a value. -/
structure Members (α : Type) where
  /-- What the members read so far amount to. -/
  State : Type
  start : State
  /-- What to do with a member of this name, if it is one of ours. -/
  take : Manner → String → State → Option (Document → Reading State)
  finish : State → Reading α
  ofItems : Manner → List Document → Reading (α × List Document)

namespace Members

/-- One member, which may have other names besides its own and may be left out if there is a
value to take its place. -/
def one {α : Type} (name : String) (aliases : List String) (default? : Option α)
    (item : Manner → Document → Reading α) : Members α where
  State := Option α
  start := none
  take manner key state :=
    if key = name || aliases.contains key then
      some fun document =>
        match state with
        | some _ => .error (.duplicateMember name)
        | none => some <$> item manner document
    else none
  finish
    | some a => .ok a
    | none =>
      match default? with
      | some a => .ok a
      | none => .error (.missingMember name)
  ofItems manner
    | [] =>
      match default? with
      | some a => .ok (a, [])
      | none => .error .malformed
    | document :: rest => do return (← item manner document, rest)

def required {α : Type} [FromDocument α] (name : String) : Members α := one name [] none read

def withDefault {α : Type} [FromDocument α] (name : String) (a : α) : Members α :=
  one name [] (some a) read

def of {α : Type} (a : α) : Members α where
  State := Unit
  start := ()
  take _ _ _ := none
  finish _ := .ok a
  ofItems _ items := .ok (a, items)

/-- One member more. -/
def and {α β : Type} (f : Members (α → β)) (a : Members α) : Members β where
  State := f.State × a.State
  start := (f.start, a.start)
  take manner key state :=
    match f.take manner key state.1 with
    | some step => some fun document => do return (← step document, state.2)
    | none =>
      match a.take manner key state.2 with
      | some step => some fun document => do return (state.1, ← step document)
      | none => none
  finish state := do
    let g ← f.finish state.1
    let x ← a.finish state.2
    return g x
  ofItems manner items := do
    let (g, items) ← f.ofItems manner items
    let (x, items) ← a.ofItems manner items
    return (g x, items)

/-- Reads members one after another; those of other names are only looked through. -/
def run {α : Type} (ms : Members α) (manner : Manner) :
    ms.State → List (Option String × Document) → Reading ms.State
  | state, [] => .ok state
  | _, (none, _) :: _ => .error .malformed
  | state, (some key, document) :: others => do
    match ms.take manner key state with
    | some step => run ms manner (← step document) others
    | none => if document.isWhole then run ms manner state others else .error .malformed

end Members

/-- A value given by its members, or by their values in the order of declaration. -/
def recordOf {α : Type} (ms : Members α) (manner : Manner) : Document → Reading α
  | .object members closed => do
    let state ← ms.run manner ms.start members
    if closed then ms.finish state else .error .malformed
  | .list items closed => do
    let (a, rest) ← ms.ofItems manner items
    if closed && (rest.isEmpty || manner == .lenient) then return a else .error .malformed
  | _ => .error .malformed

end Document

open Document

instance : FromDocument Bool := ⟨truth⟩
instance : FromDocument String := ⟨string⟩
instance : FromDocument UInt8 := ⟨fun m d => UInt8.ofNat <$> natural (UInt8.size - 1) m d⟩
instance : FromDocument UInt32 := ⟨fun m d => UInt32.ofNat <$> natural (UInt32.size - 1) m d⟩
instance : FromDocument UInt64 := ⟨fun m d => UInt64.ofNat <$> natural (UInt64.size - 1) m d⟩

/-- Numbers of 128 bits are not read from configuration files. -/
instance : FromDocument (BitVec 128) where
  read
    | .exact, d => BitVec.ofNat 128 <$> natural (UInt128.size - 1) .exact d
    | .lenient, _ => .error .malformed

instance {α : Type} [FromDocument α] : FromDocument (Option α) := ⟨optional read⟩
instance {α : Type} [FromDocument α] : FromDocument (List α) := ⟨listOf read⟩
instance {α : Type} [FromDocument α] : FromDocument (Table α) :=
  ⟨fun m d => Table.ofList <$> entriesOf read m d⟩

instance {α β : Type} [FromDocument α] [FromDocument β] : FromDocument (α × β) where
  read m document := do
    let items ← listOf (fun _ d => .ok d) m document
    match items with
    | [a, b] => return (← read m a, ← read m b)
    | _ => throw .malformed

def readText {α : Type} [FromDocument α] (s : String) : Reading α := do
  let (document, ends) := Document.ofText s
  let a ← read .exact document
  if ends then return a else .error .malformed

end XcmTasks
