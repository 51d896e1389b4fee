import XcmTasks.Node.Error
import XcmTasks.Url.Basic

/-!
Where requests to a node are posted. An endpoint for a socket stands for the one for requests on the
same port; nothing but the scheme is changed.
-/

namespace XcmTasks.Rpc

/-- The scheme for requests, if the scheme of an endpoint leads to a node. -/
def requestScheme? (scheme : String) : Option String :=
  if scheme = "ws" || scheme = "http" then some "http"
  else if scheme = "wss" || scheme = "https" then some "https"
  else none

def requestUrl (endpoint : String) : Except NodeError WebUrl :=
  match Url.parse endpoint with
  | .error e => .error (.unreachable endpoint ("invalid endpoint: " ++ e.message))
  | .ok url =>
    match url, requestScheme? url.scheme with
    | .web url, some scheme =>
      if url.scheme = scheme then .ok url
      else
        match url.withScheme? scheme with
        | some switched => .ok switched
        | none => .error (.unreachable endpoint "cannot switch endpoint scheme to http")
    | _, _ => .error (.unreachable endpoint ("unsupported scheme " ++ url.scheme))

end XcmTasks.Rpc
