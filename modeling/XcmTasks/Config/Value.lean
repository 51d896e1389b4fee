import XcmTasks.Json.Value

/-!
Values in the configuration that stand for themselves or for an environment variable. They are
written as a pair of kind and value, or for short as a text, in which `env:` tells that the name of
a variable follows.
-/

namespace XcmTasks

abbrev Environment := List (String × String)

inductive ConfigValue where
  | env (name : String)
  | plain (value : String)
deriving DecidableEq, Repr

namespace ConfigValue

def shortMark : List Char := "env:".toList

def ofText (s : String) : ConfigValue :=
  if shortMark.isPrefixOf s.toList then .env (String.ofList (s.toList.drop shortMark.length))
  else .plain s

def text : ConfigValue → String
  | .env name => String.ofList shortMark ++ name
  | .plain value => value

/-- What the value is, without telling a secret. -/
def description : ConfigValue → String
  | .env name => "environment variable '" ++ name ++ "'"
  | .plain _ => "configured plain value"

/-- The value itself, or the name of the variable that is not there. -/
def resolve (environment : Environment) : ConfigValue → Except String String
  | .env name =>
    match environment.lookup name with
    | some value => .ok value
    | none => .error name
  | .plain value => .ok value

def missingMessage (name : String) : String :=
  "Environment variable '" ++ name ++ "' not found"

inductive Kind where
  | env
  | plain

def ofKind : Kind → String → ConfigValue
  | .env => .env
  | .plain => .plain

open Document Members

def readKind : Manner → Document → Reading Kind :=
  variantOf [("env", .plain .env), ("plain", .plain .plain)]

def readPair : Document → Reading ConfigValue
  | .object members closed =>
    recordOf ((of ofKind).and (one "type" [] none readKind) |>.and (required "value")) .exact
      (.object members closed)
  | _ => .error .malformed

end ConfigValue

instance : ToJson ConfigValue where
  toJson
    | .env name => .object [("type", .text "env"), ("value", .text name)]
    | .plain value => .object [("type", .text "plain"), ("value", .text value)]

/-- Either form is read as it stands, in every manner. What is neither has no message. All of it has
to be JSON that can be read, also the members of a pair that do not count. -/
instance : FromDocument ConfigValue where
  read _ document :=
    match document with
    | .text (some s) => .ok (.ofText s)
    | document =>
      match Json.ofDocument document, ConfigValue.readPair document with
      | .ok _, .ok value => .ok value
      | _, _ => .error .malformed

end XcmTasks
