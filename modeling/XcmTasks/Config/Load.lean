import XcmTasks.Config.Merge
import XcmTasks.Config.Settings
import XcmTasks.Ini
import XcmTasks.Json.Value
import XcmTasks.Json5
import XcmTasks.Ron
import XcmTasks.Toml.Document
import XcmTasks.Yaml.Node

/-!
Loading settings. The environment is laid over the file: a variable that begins with the mark
names a place, with two underscores between the keys, and its value is a text. A file that is not
there is an empty one.
-/

namespace XcmTasks.Config

inductive FileFormat where
  | toml
  | json
  | yaml
  | ini
  | ron
  | json5
deriving DecidableEq, Repr

/-! ### Files -/

def FileFormat.ofExtension? : String → Option FileFormat
  | "toml" => some .toml
  | "json" => some .json
  | "yaml" => some .yaml
  | "yml" => some .yaml
  | "ini" => some .ini
  | "ron" => some .ron
  | "json5" => some .json5
  | _ => none

def FileFormat.ofName? (name : String) : Option FileFormat :=
  FileFormat.ofExtension? (String.ofList (name.toList.reverse.takeWhile (· != '.')).reverse)

/-- A whole number that has 63 bits and a sign stays one; all others are written with a fraction. -/
def numberChars : Json.Number → List Char
  | .natural n =>
    if n < signedSize then Nat.toDigits 10 n else Json.Decimal.floatChars (UInt64.ofNat n).toFloat
  | .negative n => '-' :: Nat.toDigits 10 (n + 1)
  | .decimal d => d.fullChars

mutual

def ofJson : Json → Document
  | .null => .null
  | .bool b => .bool b
  | .number n => .number (numberChars n)
  | .text s => .text (some s)
  | .list items => .list (ofItems items) true
  | .object members => .object (ofMembers members) true

def ofItems : List Json → List Document
  | [] => []
  | item :: items => ofJson item :: ofItems items

def ofMembers : List (String × Json) → List (Option String × Document)
  | [] => []
  | (key, value) :: members => (some key, ofJson value) :: ofMembers members

end

def withoutByteMark (text : String) : String :=
  match text.toList with
  | c :: cs => if c.toNat = 0xfeff then String.ofList cs else text
  | [] => text

/-- The tree of a file. A file in YAML holds one document or none. -/
def fileDocument? (format : FileFormat) (text : String) : Option Document :=
  match format with
  | .toml => Toml.document? text
  | .json =>
    match readText (α := Json) text with
    | .ok json => some (ofJson json)
    | .error _ => none
  | .yaml =>
    match Yaml.documents? text with
    | some [] => some (.object [] true)
    | some [d] => some d
    | _ => none
  | .ini => Ini.document? text
  | .ron => Ron.document? text
  | .json5 => Json5.document? text

def fileMembers? (format : FileFormat) (text : String) : Option Members :=
  match fileDocument? format (withoutByteMark text) with
  | some (.object members _) => some members
  | _ => none

/-! ### Environment -/

/-- How the names of the variables begin that count, in small letters. -/
def variableMark : List Char := "oak__".toList

def dotted : List Char → List Char
  | '_' :: '_' :: cs => '.' :: dotted cs
  | c :: cs => c :: dotted cs
  | [] => []

/-- The place that a variable names, if it counts. -/
def place? (name : String) : Option (List Step) :=
  let cs := (Text.lowercase name).toList
  if variableMark.isPrefixOf cs then
    some (pathOf (String.ofList (dotted (cs.drop variableMark.length))))
  else none

def layVariable (root : Document) (entry : String × String) : Document :=
  match place? entry.1 with
  | some path => set (.text (some entry.2)) path root
  | none => root

def layMember (root : Document) (entry : Option String × Document) : Document :=
  match entry.1 with
  | some key => set entry.2 (pathOf (Text.lowercase key)) root
  | none => root

end XcmTasks.Config

namespace XcmTasks

open Config in
/-- The settings from a file, if there is one, and the environment; nothing if they are no
settings. -/
def Settings.load? (file : Option (FileFormat × String)) (environment : Environment) :
    Option Settings := do
  let members ← match file with
    | none => some []
    | some (format, text) => fileMembers? format text
  let root := members.foldl layMember (.object [] true)
  let root := environment.foldl layVariable root
  (read .lenient root).toOption

end XcmTasks
