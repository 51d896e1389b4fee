import XcmTasks.Json.Value
import XcmTasks.Node.Error

/-!
JSON-RPC over HTTP: what is posted to a node, and what its reply tells. A reply tells a result only
if it has a status of success and its body holds no error.
-/

namespace XcmTasks.Rpc

structure Message where
  /-- The number of the request on its connection. -/
  id : UInt64
  method : String
  params : Json

instance : ToJson Message where
  toJson m := .object
    [("jsonrpc", .text "2.0"), ("id", toJson m.id), ("method", toJson m.method),
     ("params", m.params)]

inductive Reply where
  /-- There was no connection to the node. -/
  | refused (reason : String)
  /-- The connection broke, or the reply did not come in time. -/
  | broken (reason : String)
  | response (status : Nat) (body : String)
deriving DecidableEq, Repr

/-! ### Body -/

/-- An error that the node answers with. -/
structure Fault where
  code : Int
  message : String
  data : Option Json

structure Body where
  result : Option Json
  fault : Option Fault

open Document Members

/-- A whole number with 63 bits and a sign. -/
def readCode (_ : Manner) : Document → Reading Int
  | .number ('-' :: cs) =>
    match plainNatural? cs with
    | some n => if n = 0 || signedSize < n then .error .malformed else .ok (-n)
    | none => .error .malformed
  | .number cs =>
    match plainNatural? cs with
    | some n => if n < signedSize then .ok n else .error .malformed
    | none => .error .malformed
  | _ => .error .malformed

instance : FromDocument Fault where
  read := recordOf <|
    (of Fault.mk).and (one "code" [] none readCode) |>.and (required "message")
      |>.and (withDefault "data" none)

instance : FromDocument Body where
  read := recordOf <|
    (of Body.mk).and (withDefault "result" none) |>.and (withDefault "error" none)

/-- The node's error, with the data behind its message. -/
def Fault.error (f : Fault) : NodeError :=
  match f.data with
  | some data => .remote f.code (f.message ++ ": " ++ data.render)
  | none => .remote f.code f.message

/-! ### Status -/

def statusReasons : List (Nat × String) :=
  [(100, "Continue"), (101, "Switching Protocols"), (102, "Processing"), (200, "OK"),
   (201, "Created"), (202, "Accepted"), (203, "Non Authoritative Information"),
   (204, "No Content"), (205, "Reset Content"), (206, "Partial Content"), (207, "Multi-Status"),
   (208, "Already Reported"), (226, "IM Used"), (300, "Multiple Choices"),
   (301, "Moved Permanently"), (302, "Found"), (303, "See Other"), (304, "Not Modified"),
   (305, "Use Proxy"), (307, "Temporary Redirect"), (308, "Permanent Redirect"),
   (400, "Bad Request"), (401, "Unauthorized"), (402, "Payment Required"), (403, "Forbidden"),
   (404, "Not Found"), (405, "Method Not Allowed"), (406, "Not Acceptable"),
   (407, "Proxy Authentication Required"), (408, "Request Timeout"), (409, "Conflict"),
   (410, "Gone"), (411, "Length Required"), (412, "Precondition Failed"),
   (413, "Payload Too Large"), (414, "URI Too Long"), (415, "Unsupported Media Type"),
   (416, "Range Not Satisfiable"), (417, "Expectation Failed"), (418, "I'm a teapot"),
   (421, "Misdirected Request"), (422, "Unprocessable Entity"), (423, "Locked"),
   (424, "Failed Dependency"), (426, "Upgrade Required"), (428, "Precondition Required"),
   (429, "Too Many Requests"), (431, "Request Header Fields Too Large"),
   (451, "Unavailable For Legal Reasons"), (500, "Internal Server Error"),
   (501, "Not Implemented"), (502, "Bad Gateway"), (503, "Service Unavailable"),
   (504, "Gateway Timeout"), (505, "HTTP Version Not Supported"),
   (506, "Variant Also Negotiates"), (507, "Insufficient Storage"), (508, "Loop Detected"),
   (510, "Not Extended"), (511, "Network Authentication Required")]

def statusText (status : Nat) : String :=
  toString status ++ " " ++ (statusReasons.lookup status).getD "<unknown status code>"

def isSuccess (status : Nat) : Bool := 200 ≤ status && status < 300

def Reply.result (url : String) : Reply → Except NodeError Json
  | .refused reason => .error (.unreachable url reason)
  | .broken reason => .error (.transport reason)
  | .response status body =>
    if !isSuccess status then .error (.transport (url ++ " returned status " ++ statusText status))
    else
      match readText (α := Body) body with
      | .error _ => .error (.invalidResponse "invalid JSON-RPC body")
      | .ok body =>
        match body.fault with
        | some fault => .error fault.error
        | none => .ok (body.result.getD .null)

end XcmTasks.Rpc
