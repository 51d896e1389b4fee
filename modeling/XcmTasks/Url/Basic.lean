import XcmTasks.Url.Host

/-!
URLs. Those of the web's schemes are taken apart and written in one form: the host in small letters,
the default port left out, steps up and down the path carried out, and what may not stand as it is
percent-encoded. Of any other URL only the scheme is kept, once it is known to be a URL.
-/

namespace XcmTasks

structure WebUrl where
  scheme : String
  credentials : List Char
  host : Url.Host
  port : Option Nat
  path : List Char
  query : Option (List Char)
  fragment : Option (List Char)
deriving DecidableEq, Repr

inductive Url where
  | web (url : WebUrl)
  | other (scheme : String)
deriving DecidableEq, Repr

namespace Url

def scheme : Url → String
  | .web url => url.scheme
  | .other scheme => scheme

def defaultPort? (scheme : String) : Option Nat :=
  if scheme = "http" || scheme = "ws" then some 80
  else if scheme = "https" || scheme = "wss" then some 443
  else if scheme = "ftp" then some 21
  else none

def isAsciiLetter (c : Char) : Bool := ('a' ≤ c && c ≤ 'z') || ('A' ≤ c && c ≤ 'Z')

def isBreak (c : Char) : Bool := c = '\t' || c = '\n' || c = '\r'

/-- The text without control characters and blanks around it, and without line breaks and tabs
anywhere. -/
def clean (s : String) : List Char :=
  let isEdge := fun c : Char => c.toNat ≤ 32
  (((s.toList.dropWhile isEdge).reverse.dropWhile isEdge).reverse).filter fun c => !isBreak c

/-- The scheme in small letters, and what stands behind its colon. -/
def splitScheme? (cs : List Char) : Option (String × List Char) :=
  let isInner := fun c : Char =>
    isAsciiLetter c || c.isDigit || c = '+' || c = '-' || c = '.'
  match cs with
  | [] => none
  | c :: _ =>
    if isAsciiLetter c then
      match cs.dropWhile isInner with
      | ':' :: rest =>
        some (String.ofList ((cs.takeWhile isInner).map Text.asciiLowerChar), rest)
      | _ => none
    else none

/-! ### Authority -/

def isAuthorityEnd (isWeb : Bool) (c : Char) : Bool :=
  c = '/' || c = '?' || c = '#' || (isWeb && c = '\\')

/-- What stands before the last `@` of the authority, and what stands behind it. -/
def splitCredentials (isWeb : Bool) (cs : List Char) : Option (List Char) × List Char :=
  let authority := cs.takeWhile fun c => !isAuthorityEnd isWeb c
  if authority.contains '@' then
    let host := (authority.reverse.takeWhile (· != '@')).reverse
    let length := authority.length - host.length - 1
    (some (cs.take length), cs.drop (length + 1))
  else (none, cs)

def credentialSet : List Char := " \"<>\x60#?\x7b\x7d/:;=@[\\]^|".toList

def writeCredentials (cs : List Char) : List Char :=
  let user := percentEncode credentialSet (cs.takeWhile (· != ':'))
  let password := percentEncode credentialSet ((cs.dropWhile (· != ':')).drop 1)
  let both := if password.isEmpty then user else user ++ ':' :: password
  if both.isEmpty then [] else both ++ ['@']

/-- The host of an authority, and what stands behind it. A colon between brackets does not end the
host. -/
def splitHost (isWeb : Bool) : Bool → List Char → List Char × List Char
  | _, [] => ([], [])
  | inBrackets, c :: cs =>
    if isAuthorityEnd isWeb c || (c = ':' && !inBrackets) then ([], c :: cs)
    else
      let inBrackets := if c = '[' then true else if c = ']' then false else inBrackets
      let (host, rest) := splitHost isWeb inBrackets cs
      (c :: host, rest)

def splitPort (cs : List Char) : Except UrlError (Option Nat × List Char) :=
  match cs with
  | ':' :: cs =>
    let digits := cs.takeWhile Char.isDigit
    let rest := cs.dropWhile Char.isDigit
    let n := digits.foldl (fun n d => n * 10 + (d.toNat - 48)) 0
    if 65535 < n then .error .invalidPort
    else
      match rest with
      | [] => .ok (if digits.isEmpty then none else some n, rest)
      | c :: _ =>
        if isAuthorityEnd true c then .ok (if digits.isEmpty then none else some n, rest)
        else .error .invalidPort
  | cs => .ok (none, cs)

/-! ### Path, query and fragment -/

def pathSet : List Char := " \"<>\x60#?\x7b\x7d".toList

def querySet : List Char := " \"#<>'".toList

def fragmentSet : List Char := " \"<>\x60".toList

def isSlash (c : Char) : Bool := c = '/' || c = '\\'

def isHere (part : List Char) : Bool :=
  [".", "%2e"].contains (Text.asciiLowercase (String.ofList part))

/-- Whether a part of a path means the place above. -/
def isUp (part : List Char) : Bool :=
  ["..", "%2e.", ".%2e", "%2e%2e"].contains (Text.asciiLowercase (String.ofList part))

/-- A letter before a colon or a bar, which no step up leaves. -/
def isDrive : List Char → Bool
  | [c, d] => isAsciiLetter c && (d = ':' || d = '|')
  | _ => false

/-- The parts that are left, the last one first, once the steps are carried out. A step at the end
leaves an empty part there. -/
def walk : List (List Char) → List (List Char) → List (List Char)
  | left, [] => left
  | left, part :: parts =>
    let isLast := parts.isEmpty
    if isUp part then
      let left := match left with
        | [] => []
        | top :: below => if isDrive top then top :: below else below
      walk (if isLast then [] :: left else left) parts
    else if isHere part then walk (if isLast then [] :: left else left) parts
    else walk (percentEncode pathSet part :: left) parts

def writePath (cs : List Char) : List Char :=
  let inner := match cs with
    | c :: rest => if isSlash c then rest else cs
    | [] => []
  '/' :: joinWith '/' (walk [] (Text.splitWhere isSlash inner)).reverse

def isPathEnd (c : Char) : Bool := c = '?' || c = '#'

def writeQuery? (cs : List Char) : Option (List Char) :=
  match cs.dropWhile fun c => !isPathEnd c with
  | '?' :: query => some (percentEncode querySet (query.takeWhile (· != '#')))
  | _ => none

def writeFragment? (cs : List Char) : Option (List Char) :=
  match cs.dropWhile (· != '#') with
  | '#' :: fragment => some (percentEncode fragmentSet fragment)
  | _ => none

/-! ### Whole URLs -/

/-- What stands behind the scheme of a URL of the web. -/
def parseWeb (scheme : String) (cs : List Char) : Except UrlError Url := do
  let (credentials, cs) := splitCredentials true (cs.dropWhile isSlash)
  let (host, cs) := splitHost true false cs
  if host.isEmpty then throw .emptyHost
  let host ← Host.ofText host
  let (port, cs) ← splitPort cs
  return .web {
    scheme := scheme
    credentials := (credentials.map writeCredentials).getD []
    host := host
    port := if port = defaultPort? scheme then none else port
    path := writePath (cs.takeWhile fun c => !isPathEnd c)
    query := writeQuery? cs
    fragment := writeFragment? cs }

def isForbiddenInHost (c : Char) : Bool :=
  c.toNat = 0 || c.toNat = 9 || c.toNat = 10 || c.toNat = 13 || " #/:<>?@[\\]^|".toList.contains c

def checkAuthority (cs : List Char) : Except UrlError Unit := do
  let (credentials, cs) := splitCredentials false cs
  let (host, cs) := splitHost false false cs
  match host with
  | [] =>
    if cs.head? = some ':' then throw .emptyHost
    match credentials with
    | none => pure ()
    | some [] => if cs.isEmpty then pure () else throw .emptyHost
    | some credentials =>
      if (writeCredentials credentials).isEmpty then pure () else throw .emptyHost
  | '[' :: _ => let _ ← Host.ofText host
  | _ => if host.any isForbiddenInHost then throw .invalidDomainCharacter
  let _ ← splitPort cs

def checkFileHost (cs : List Char) : Except UrlError Unit :=
  match cs with
  | c :: d :: rest =>
    if isSlash c && isSlash d then
      let host := rest.takeWhile fun c => !isAuthorityEnd true c
      if host.isEmpty || isDrive host then .ok () else do let _ ← Host.ofText host
    else .ok ()
  | _ => .ok ()

def parse (s : String) : Except UrlError Url :=
  match splitScheme? (clean s) with
  | none => .error .relativeWithoutBase
  | some (scheme, rest) =>
    if (defaultPort? scheme).isSome then parseWeb scheme rest
    else if scheme = "file" then do
      checkFileHost rest
      return .other scheme
    else
      match rest with
      | '/' :: '/' :: rest => do
        checkAuthority rest
        return .other scheme
      | _ => .ok (.other scheme)

end Url

/-- The URL under another scheme, which has to be one of the web, too. A port that is the default
one there is left out. -/
def WebUrl.withScheme? (url : WebUrl) (scheme : String) : Option WebUrl :=
  if (Url.defaultPort? scheme).isSome then
    some { url with
      scheme := scheme
      port := if url.port = Url.defaultPort? scheme then none else url.port }
  else none

def WebUrl.text (url : WebUrl) : String :=
  String.ofList <|
    url.scheme.toList ++ "://".toList ++ url.credentials ++ url.host.text
      ++ (match url.port with
        | some n => ':' :: Nat.toDigits 10 n
        | none => [])
      ++ url.path
      ++ (match url.query with
        | some query => '?' :: query
        | none => [])
      ++ (match url.fragment with
        | some fragment => '#' :: fragment
        | none => [])

end XcmTasks
