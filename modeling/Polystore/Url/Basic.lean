import Polystore.Text.Percent
import Polystore.Text.Split
import Polystore.Url.Address

/-!
Urls, read and written as the WHATWG standard says for schemes it gives no meaning of their own: the host is
kept as it is, characters that a part does not take are percent-escaped, and dot segments are resolved.
-/
namespace Polystore

/-- Why a text is no url. -/
inductive UrlError where
  | emptyHost | invalidPort | invalidAddress | invalidHost | relative
deriving DecidableEq, Repr

def UrlError.message : UrlError → String
  | .emptyHost => "empty host"
  | .invalidPort => "invalid port number"
  | .invalidAddress => "invalid IPv6 address"
  | .invalidHost => "invalid domain character"
  | .relative => "relative URL without a base"

/-- Who answers: the host, with what stands before and behind it. -/
structure Authority where
  /-- The user and the password, in escaped form. -/
  credentials : List Char
  /-- The host in escaped form; it may be empty. -/
  host : List Char
  port : Option Nat

def Authority.text (authority : Authority) : List Char :=
  (if authority.credentials.isEmpty then [] else authority.credentials ++ ['@']) ++ authority.host ++
    authority.port.elim [] fun port => ':' :: Nat.toDigits 10 port

/-- The parts of a url, in escaped form. -/
structure Url where
  scheme : List Char
  authority : Option Authority
  path : List Char
  query : Option (List Char)
  fragment : Option (List Char)

namespace Url

/-! ### Escapes -/

private def isControl (c : Char) : Bool := c.toNat < 32 || c.toNat = 127

private def outside (marks : String) (c : Char) : Bool := isControl c || marks.toList.contains c

private def escape (escaped : Char → Bool) (text : List Char) : List Char :=
  (Text.Percent.encode escaped (String.ofList text)).toList

def escapeFragment : List Char → List Char := escape (outside " \"<>`")

def escapeQuery : List Char → List Char := escape (outside " \"#<>")

def escapePath : List Char → List Char := escape (outside " \"<>`#?\x7b\x7d")

def escapeCredentials : List Char → List Char := escape (outside " \"<>`#?\x7b\x7d/:;=@[\\]^|")

/-! ### Parts -/

/-- The scheme in small letters, and what stands behind its colon. -/
def scheme? (text : List Char) : Option (List Char × List Char) :=
  match Text.cut ':' text with
  | (name, some rest) =>
    if (name.head?.any Char.isAlpha) && name.all (fun c => c.isAlphanum || c = '+' || c = '-' || c = '.') then
      some (name.map Char.toLower, rest)
    else none
  | _ => none

/-- The user and the password of credentials, in escaped form. An empty password is left out. -/
def credentialsOf (text : List Char) : List Char :=
  let (user, password) := Text.cut ':' text
  let password := password.getD []
  escapeCredentials user ++ if password.isEmpty then [] else ':' :: escapeCredentials password

/-- The host at the front of a text: up to a colon, of which there may be some between brackets. -/
def takeHost (bracketed : Bool) : List Char → List Char × List Char
  | [] => ([], [])
  | c :: rest =>
    if c = ':' && !bracketed then ([], c :: rest)
    else
      let (host, rest) := takeHost (if c = '[' then true else if c = ']' then false else bracketed) rest
      (c :: host, rest)

/-- The escaped form of a host: an address between brackets, or a name without delimiters. -/
def hostOf (text : List Char) : Except UrlError (List Char) :=
  if text.head? = some '[' then
    if text.getLast? = some ']' then
      match Address.read? (text.drop 1).dropLast with
      | some groups => .ok ('[' :: Address.text groups ++ [']'])
      | none => .error .invalidAddress
    else .error .invalidAddress
  else if text.any fun c => "\x00\t\n\r #/:<>?@[\\]^|".toList.contains c then .error .invalidHost
  else .ok (escape isControl text)

/-- Reads a port of at most 65535 up to a backslash; there may be no digits at all. -/
def portOf (text : List Char) : Except UrlError (Option Nat × List Char) :=
  let digits := text.takeWhile Char.isDigit
  let rest := text.dropWhile Char.isDigit
  let port := Nat.ofDigitChars 10 digits 0
  if 65535 < port || rest.head?.any (· ≠ '\\') then .error .invalidPort
  else .ok (if digits.isEmpty then none else some port, rest)

/-- Reads an authority, with what is left of it for the path, given what stands behind. -/
def authorityOf (text behind : List Char) : Except UrlError (Authority × List Char) := do
  let (credentials, rest) := Text.cutLast '@' text
  if credentials = some [] && rest.isEmpty && !behind.isEmpty then throw .emptyHost
  let credentials := credentialsOf (credentials.getD [])
  let (host, rest) := takeHost false rest
  let host ← hostOf host
  if host.isEmpty && (!rest.isEmpty || !credentials.isEmpty) then throw .emptyHost
  let (port, rest) ← portOf (rest.drop 1)
  return (⟨credentials, host, port⟩, rest)

/-- Whether a segment stands for the one it is in. -/
def isDot (segment : List Char) : Bool := segment.map Char.toLower ∈ [".".toList, "%2e".toList]

def isDoubleDot (segment : List Char) : Bool :=
  segment.map Char.toLower ∈ ["..".toList, ".%2e".toList, "%2e.".toList, "%2e%2e".toList]

/-- Whether a segment begins with the letter of a drive. -/
def isDrive : List Char → Bool
  | letter :: mark :: rest =>
    letter.isAlpha && (mark = ':' || mark = '|') && (rest.isEmpty || rest.head? = some '\\')
  | _ => false

/-- Leaves the innermost segment, unless it is a drive. -/
def leave : List (List Char) → List (List Char)
  | [] => []
  | segment :: outer => if isDrive segment then segment :: outer else outer

/-- Resolves the dot segments, given the segments before, the innermost first. -/
def resolve (before : List (List Char)) : List (List Char) → List (List Char)
  | [] => before.reverse
  | segment :: rest =>
    let next := if isDoubleDot segment then leave before else if isDot segment then before else segment :: before
    if rest.isEmpty && (isDoubleDot segment || isDot segment) then ([] :: next).reverse else resolve next rest

def pathOf (text : List Char) : List Char :=
  if text.isEmpty then []
  else
    let text := if text.head? = some '/' then text.drop 1 else text
    (resolve [] (Text.split '/' (escapePath text))).flatMap ('/' :: ·)

private def isDelimiter (c : Char) : Bool := c = '?' || c = '#'

/-- The query and the fragment at the end of a text. -/
def tailOf (text : List Char) : Option (List Char) × Option (List Char) :=
  let (front, fragment) := Text.cut '#' text
  let query := match front with
    | '?' :: query => some (escapeQuery query)
    | _ => none
  (query, fragment.map escapeFragment)

def readParts (scheme : List Char) (text : List Char) : Except UrlError Url := do
  let front := text.takeWhile fun c => !isDelimiter c
  let behind := text.dropWhile fun c => !isDelimiter c
  let (query, fragment) := tailOf behind
  match front with
  | '/' :: '/' :: rest =>
    let path := rest.dropWhile (· ≠ '/')
    let (authority, left) ← authorityOf (rest.takeWhile (· ≠ '/')) (path ++ behind)
    return ⟨scheme, some authority, pathOf (left ++ path), query, fragment⟩
  | '/' :: _ => return ⟨scheme, none, pathOf front, query, fragment⟩
  | _ => return ⟨scheme, none, escape isControl front, query, fragment⟩

/-- Reads a url. Blanks and controls around it do not count, nor do tabs and line ends within. -/
def parse (text : String) : Except UrlError Url :=
  let isMargin (c : Char) : Bool := c.toNat ≤ 32
  let text := ((text.toList.dropWhile isMargin).reverse.dropWhile isMargin).reverse
  match scheme? (text.filter fun c => !(c = '\t' || c = '\n' || c = '\r')) with
  | some (scheme, rest) => readParts scheme rest
  | none => .error .relative

/-! ### The whole -/

def text (url : Url) : String :=
  String.ofList (url.scheme ++ [':'] ++
    (match url.authority with
      | some authority => '/' :: '/' :: authority.text
      | none => if url.path.take 2 = "//".toList then "/.".toList else []) ++
    url.path ++ url.query.elim [] ('?' :: ·) ++ url.fragment.elim [] ('#' :: ·))

/-- The host, if there is one. -/
def host? (url : Url) : Option String :=
  url.authority.bind fun authority =>
    if authority.host.isEmpty then none else some (String.ofList authority.host)

end Url

end Polystore
