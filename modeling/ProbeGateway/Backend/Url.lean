import ProbeGateway.Number.Numeral
import ProbeGateway.Text.Percent

/-!
# Addresses of backends

The address of a backend is an `http` or `https` URL. Reading one puts it into normal form: the path
has no dot segments, and what may not stand in a path or a query is percent-encoded. A fragment is
dropped, for it is not sent.
-/

namespace ProbeGateway

/-- A URL that can be called. -/
structure Url where
  scheme : String
  host : String
  port : Option Nat
  /-- The segments of the path, each percent-encoded. -/
  segments : List (List Char)
  query : Option (List Char)
deriving DecidableEq, Repr

namespace Url

/-! ## Characters -/

/-- The characters of octets that are all ASCII. -/
def asciiChars (bs : Bytes) : List Char := bs.map fun b => Char.ofNat b.toNat

/-- A text with the octets outside a set percent-encoded. -/
def encodeText (keep : UInt8 → Bool) (s : List Char) : List Char :=
  asciiChars (Percent.encode keep (Utf8.encodeList s))

/-- Whether an octet is a graphic character of ASCII. -/
def isGraphic (b : UInt8) : Bool := 0x21 ≤ b && b ≤ 0x7E

/-- The octets that stand as themselves in a segment of a path. -/
def isPathOctet (b : UInt8) : Bool :=
  isGraphic b && b != 0x22 && b != 0x23 && b != 0x3C && b != 0x3E && b != 0x3F && b != 0x5E &&
    b != 0x60 && b != 0x7B && b != 0x7D

/-- The octets that stand as themselves in a query. -/
def isQueryOctet (b : UInt8) : Bool :=
  isGraphic b && b != 0x22 && b != 0x23 && b != 0x27 && b != 0x3C && b != 0x3E

/-- Whether a character separates segments. -/
def isSlash (c : Char) : Bool := c = '/' || c = '\\'

/-- Whether a character ends the part of a URL that names the host. -/
def endsAuthority (c : Char) : Bool := isSlash c || c = '?' || c = '#'

/-- Whether a character can never stand in the name of a host. -/
def isForbiddenInHost (c : Char) : Bool :=
  c.toNat ≤ 0x20 || c.toNat = 0x7F || c ∈ ['#', '/', '<', '>', '?', '@', '\\', '^', '|', '%', '[',
    ']', ':']

/-! ## Paths -/

/-- A segment with its encoded dots decoded and in lower case, to be compared. -/
def plainDots : List Char → List Char
  | '%' :: '2' :: c :: rest =>
    if c = 'e' ∨ c = 'E' then '.' :: plainDots rest else '%' :: '2' :: c :: plainDots rest
  | c :: rest => c :: plainDots rest
  | [] => []

/-- Whether a segment stands for the one it is in. -/
def isDot (s : List Char) : Bool := plainDots s = ['.']

/-- Whether a segment stands for the one before. -/
def isDotDot (s : List Char) : Bool := plainDots s = ['.', '.']

/-- Cuts a text at every character that satisfies a condition. -/
def splitWhere (p : Char → Bool) : List Char → List (List Char)
  | [] => [[]]
  | c :: rest =>
    if p c then [] :: splitWhere p rest
    else match splitWhere p rest with
      | part :: parts => (c :: part) :: parts
      | [] => [[c]]

/-- Resolves the dot segments behind the segments already kept; the last of them leaves an empty
segment in its place. -/
def resolveDots (kept : List (List Char)) : List (List Char) → List (List Char)
  | [] => kept
  | s :: rest =>
    if isDotDot s then
      resolveDots (kept.dropLast ++ if rest.isEmpty then [[]] else []) rest
    else if isDot s then resolveDots (kept ++ if rest.isEmpty then [[]] else []) rest
    else resolveDots (kept ++ [s]) rest

/-- The segments of a path that begins with a slash or is empty. -/
def pathSegments (path : List Char) : List (List Char) :=
  resolveDots [] ((splitWhere isSlash (path.drop 1)).map (encodeText isPathOctet))

/-! ## Reading -/

/-- The text without blanks and control characters at its ends and without line breaks. -/
def trimmed (s : List Char) : List Char :=
  let isEdge (c : Char) : Bool := c.toNat ≤ 0x20
  let inner := ((s.dropWhile isEdge).reverse.dropWhile isEdge).reverse
  inner.filter fun c => c ≠ '\t' ∧ c ≠ '\n' ∧ c ≠ '\r'

/-- The port that a scheme has by itself. -/
def schemePort (scheme : String) : Nat := if scheme = "https" then 443 else 80

/-- Reads a port; the empty text and the scheme's own port are none. -/
def port? (scheme : String) (s : List Char) : Option (Option Nat) :=
  if s.isEmpty then some none
  else if s.all isDigit && readDigits 0 s < 65536 then
    let n := readDigits 0 s
    some (if n = schemePort scheme then none else some n)
  else none

/-- Reads a host and a port. -/
def hostAndPort? (scheme : String) (s : List Char) : Option (String × Option Nat) :=
  match s with
  | '[' :: rest =>
    let inner := rest.takeWhile (· ≠ ']')
    match rest.dropWhile (· ≠ ']') with
    | [']'] => some (String.ofList ('[' :: inner ++ [']']), none)
    | ']' :: ':' :: p => (port? scheme p).map fun p => (String.ofList ('[' :: inner ++ [']']), p)
    | _ => none
  | _ =>
    let host := s.takeWhile (· ≠ ':')
    let port := (s.dropWhile (· ≠ ':')).drop 1
    if host.isEmpty || host.any isForbiddenInHost then none
    else (port? scheme port).map fun p => (String.ofList (host.map Char.toLower), p)

/-- What follows the last at-sign: the host, behind any user information. -/
def behindUser (s : List Char) : List Char :=
  if s.any (· = '@') then (s.reverse.takeWhile (· ≠ '@')).reverse else s

/-- Reads a URL; one of another scheme, or without a host, cannot be called. -/
def parse? (s : String) : Option Url := do
  let s := trimmed s.toList
  let scheme := String.ofList ((s.takeWhile (· ≠ ':')).map Char.toLower)
  if scheme ≠ "http" ∧ scheme ≠ "https" then none
  else
    match s.dropWhile (· ≠ ':') with
    | [] => none
    | _ :: rest =>
      let rest := rest.dropWhile isSlash
      let authority := rest.takeWhile fun c => !endsAuthority c
      let rest := rest.dropWhile fun c => !endsAuthority c
      let (host, port) ← hostAndPort? scheme (behindUser authority)
      let path := rest.takeWhile fun c => c ≠ '?' ∧ c ≠ '#'
      let query := match rest.dropWhile fun c => c ≠ '?' ∧ c ≠ '#' with
        | '?' :: q => some (encodeText isQueryOctet (q.takeWhile (· ≠ '#')))
        | _ => none
      some ⟨scheme, host, port, pathSegments path, query⟩

/-- Adds pairs to the query. -/
def withPairs (pairs : List (String × String)) (url : Url) : Url :=
  let text := asciiChars (Percent.formEncode pairs)
  match url.query with
  | some (c :: q) => { url with query := some (c :: q ++ '&' :: text) }
  | _ => { url with query := some text }

/-! ## Writing -/

/-- The path. -/
def path (url : Url) : List Char := url.segments.flatMap ('/' :: ·)

/-- What a request line asks for: the path, and the query behind a question mark. -/
def requestTarget (url : Url) : String :=
  String.ofList (url.path ++ match url.query with
    | some q => '?' :: q
    | none => [])

/-- A base address without the slashes at its end, followed by a path. -/
def under (base path : String) : String :=
  String.ofList ((base.toList.reverse.dropWhile (· = '/')).reverse) ++ path

example : (parse? "HTTP://h:80/a/./b/../%2e%2E/é x?q=1 2#f").map requestTarget =
    some "/%C3%A9%20x?q=1%202" := by decide +kernel
example : ((parse? (under "http://h:1/x//" "/api")).map
    (·.withPairs [("query", "a b")])).map requestTarget = some "/x/api?query=a+b" := by
  decide +kernel
example : parse? "ftp://h/" = none ∧ parse? "http://" = none ∧ parse? "h" = none := by
  decide +kernel

end Url

end ProbeGateway
