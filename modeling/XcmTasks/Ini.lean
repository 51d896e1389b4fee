import XcmTasks.Json.Document
import XcmTasks.Text.Blank
import XcmTasks.Text.Code
import XcmTasks.Text.Cursor

/-!
INI files: keys with texts, in sections. A line whose first character is a semicolon or a hash is a
comment. Of sections with the same name the last one counts.
-/

namespace XcmTasks.Ini

open Text

/-- The section without a name, and those that have one, the last one first. -/
structure Sections where
  general : List (String × String)
  named : List (String × List (String × String))

def Sections.add (s : Sections) (key value : String) : Sections :=
  match s.named with
  | [] => { s with general := s.general ++ [(key, value)] }
  | (name, entries) :: others => { s with named := (name, entries ++ [(key, value)]) :: others }

def textMembers (entries : List (String × String)) : List (String × Document) :=
  entries.map fun (key, value) => (key, .text (some value))

def Sections.document (s : Sections) : Document :=
  Document.table <|
    textMembers s.general ++
      s.named.reverse.map fun (name, entries) => (name, Document.table (textMembers entries))

/-! ### Parts of the text -/

def escaped : Char → List Char
  | '0' => [Char.ofNat 0]
  | 'a' => [Char.ofNat 7]
  | 'b' => [Char.ofNat 8]
  | 't' => ['\t']
  | 'r' => ['\r']
  | 'n' => ['\n']
  | '\n' => []
  | c => ['\\', c]

/-- A text up to a character that ends it, with escapes carried out. The end of the whole text ends
it too if `atEnd` says so. -/
def textUntil (isEnd : Char → Bool) (atEnd : Bool) : Nat → Cursor → Option (List Char × Cursor)
  | 0, _ => none
  | fuel + 1, place => do
    let (read, place) ← match place.rest with
      | [] => none
      | '\\' :: 'x' :: cs => some ([← codedChar? 4 cs], place.skip 6)
      | '\\' :: c :: _ => some (escaped c, place.skip 2)
      | c :: _ => some ([c], place.next)
    let isDone : Bool := match place.rest with
      | [] => atEnd
      | c :: _ => isEnd c
    if isDone then return (read, place)
    else
      let (more, place) ← textUntil isEnd atEnd fuel place
      return (read ++ more, place)

def textBefore (isEnd : Char → Bool) (atEnd : Bool) (place : Cursor) :
    Option (List Char × Cursor) :=
  let isEmpty : Bool := match place.rest with
    | [] => atEnd
    | c :: _ => isEnd c
  if isEmpty then some ([], place) else textUntil isEnd atEnd (place.rest.length + 1) place

def isBreak (c : Char) : Bool := c = '\n' || c = '\r'

/-- The text behind a key: between quotes as it is, else up to the end of the line without the
blanks around it. -/
def value? (place : Cursor) : Option (List Char × Cursor) := do
  let place := place.skipWhile fun c => isBlank c && !isBreak c
  let quoted := fun (quote : Char) => do
    let (text, place) ← textBefore (· = quote) false place.next
    return (text, place.next)
  match place.peek? with
  | some '"' => quoted '"'
  | some '\'' => quoted '\''
  | _ =>
    let (text, place) ← textBefore isBreak true place
    return (trimChars text, place)

/-! ### The whole file -/

def sectionsFrom : Nat → Option (List Char) → Sections → Cursor → Option Sections
  | 0, _, _, _ => none
  | fuel + 1, key, sections, place => do
    let place := place.skipWhile isBlank
    match place.peek? with
    | none => return sections
    | some c =>
      if c = ';' || c = '#' then
        if place.column != 0 then none
        sectionsFrom fuel key sections (place.skipWhile (· != '\n'))
      else if c = '[' then
        let (name, place) ← textBefore (· = ']') false place.next
        let sections :=
          { sections with named := (String.ofList (trimChars name), []) :: sections.named }
        sectionsFrom fuel key sections place.next
      else if c = '=' || c = ':' then
        let name ← key
        let (text, place) ← value? place.next
        sectionsFrom fuel none (sections.add (String.ofList name) (String.ofList text)) place
      else
        let (name, place) ← textBefore (fun c => c = '=' || c = ':') false place
        let name := trimChars name
        sectionsFrom fuel (if name.isEmpty then none else some name) sections place

def document? (text : String) : Option Document := do
  let cs := text.toList
  return (← sectionsFrom (cs.length + 1) none ⟨[], []⟩ (Cursor.start cs)).document

end XcmTasks.Ini
