import BuildSession.Text.Cut
import BuildSession.Url.DomainName
import BuildSession.Url.Ipv4
import BuildSession.Url.Ipv6
import BuildSession.Url.Percent

/-!
# Urls

`Url.read?` finds scheme and host of a url by the rules of the URL Standard. The web's own schemes
have domain names, IPv4 or IPv6 addresses as hosts; `file` urls may have one and treat the local
host and drive letters specially; for all other schemes a host is any text without delimiters.
-/

namespace BuildSession

structure Url where
  scheme : List Char
  host : Option (List Char)
  deriving DecidableEq

namespace Url

/-- A host as it is written in a url. -/
inductive Host where
  | domain (name : List Char)
  | ipv4 (address : Nat)
  | ipv6 (pieces : List Nat)
  deriving DecidableEq

def Host.text : Host → List Char
  | .domain name => name
  | .ipv4 address => Ipv4.text address
  | .ipv6 pieces => '[' :: (Ipv6.text pieces ++ [']'])

def bracketed? (cs : List Char) : Option Host :=
  if cs.getLast? = some ']' then (Ipv6.address? cs.tail.dropLast).map .ipv6 else none

/-- The host of a web or file url. -/
def Host.ofWeb? (cs : List Char) : Option Host :=
  if cs.head? = some '[' then bracketed? cs
  else
    match (Percent.decode? cs).bind DomainName.toAscii? with
    | none | some [] => none
    | some name =>
      if Ipv4.endsInNumber name then (Ipv4.address? name).map .ipv4 else some (.domain name)

/-- Characters that no host has, whatever the scheme. -/
def isDelimiter (c : Char) : Bool :=
  c == '\x00' || c == '\t' || c == '\n' || c == '\r' || c == ' ' || c == '#' || c == '/' || c == ':'
    || c == '<' || c == '>' || c == '?' || c == '@' || c == '[' || c == '\\' || c == ']'
    || c == '^' || c == '|'

def Host.ofOpaque? (cs : List Char) : Option Host :=
  if cs.head? = some '[' then bracketed? cs
  else if cs.any isDelimiter then none
  else some (.domain (Percent.encodeControls cs))

/-- The host and what is behind it in an authority: a colon inside brackets does not end it. -/
def spanHost (inBrackets : Bool) : List Char → List Char × List Char
  | [] => ([], [])
  | c :: cs =>
    if c = ':' ∧ inBrackets = false then ([], c :: cs)
    else
      let inBrackets := if c = '[' then true else if c = ']' then false else inBrackets
      let (host, rest) := spanHost inBrackets cs
      (c :: host, rest)

/-- Whether a text behind the host is a port, ended by a backslash at the latest. -/
def isPort : List Char → Bool
  | [] => true
  | ':' :: cs =>
    let digits := cs.takeWhile Char.isDigit
    Decimal.extend 0 digits ≤ 65535
      && match cs.dropWhile Char.isDigit with
        | [] => true
        | c :: _ => c == '\\'
  | _ => false

/-- Whether user data in front of a host count: a lone colon does not. -/
def hasUserInfo (cs : List Char) : Bool :=
  cs != [] && cs != [':']

/-- The texts in front of and behind the last `@`. -/
def cutUserInfo (authority : List Char) : List Char × List Char :=
  match Text.cutLast ['@'] authority with
  | some (front, host) => (front, host)
  | none => ([], authority)

def webHost? (authority : List Char) : Option Host :=
  let (host, port) := spanHost false (cutUserInfo authority).2
  if host = [] then none
  else
    match Host.ofWeb? host with
    | some h => if isPort port then some h else none
    | none => none

/-- The host of an authority of any other scheme; `isLast` says that the url ends with the
authority. -/
def opaqueHost? (authority : List Char) (isLast : Bool) : Option Host :=
  let (user, behind) := cutUserInfo authority
  if authority.head? = some '@' ∧ user = [] ∧ behind = [] ∧ isLast = false then none
  else
    let (host, port) := spanHost false behind
    if host = [] ∧ (port ≠ [] ∨ hasUserInfo user) then none
    else
      match Host.ofOpaque? host with
      | some h => if isPort port then some h else none
      | none => none

/-- Whether a text is a drive letter, such as `C:` or `C|`. -/
def isDriveLetter : List Char → Bool
  | [c, mark] => c.isAlpha && (mark == ':' || mark == '|')
  | _ => false

/-- Whether a path segment stands for its directory. -/
def isDot (segment : List Char) : Bool :=
  let s := Text.lower segment
  s == ['.'] || s == "%2e".toList

/-- Whether a path segment stands for the directory above. -/
def isDoubleDot (segment : List Char) : Bool :=
  let s := Text.lower segment
  s == "..".toList || s == "%2e.".toList || s == ".%2e".toList || s == "%2e%2e".toList

/-- Tabs and line breaks, which a url is read without. -/
def isBreak (c : Char) : Bool :=
  c == '\t' || c == '\n' || c == '\r'

/-- A text without its breaks. -/
def joined (cs : List Char) : List Char :=
  cs.filter (!isBreak ·)

/-- What is behind the first `n` characters of a text, breaks not counted. -/
def dropJoined : Nat → List Char → List Char
  | 0, cs => cs
  | _ + 1, [] => []
  | n + 1, c :: cs => if isBreak c then dropJoined (n + 1) cs else dropJoined n cs

/-- Whether a segment continues behind a drive letter with `:` and a break. Such a segment counts as
two, the first of which is the drive letter. -/
def isBrokenDrive (segment : List Char) : Bool :=
  match joined segment with
  | c :: ':' :: _ :: _ => c.isAlpha && (dropJoined 2 segment).head?.any isBreak
  | _ => false

/-- Whether a file path comes to start with a segment that is a drive letter; `depth` counts the
segments so far. A segment that stands for the directory above takes the last one away, unless that
is a drive letter: a path with a drive letter further down never starts anew. -/
def reachesDrive (depth : Nat) : List (List Char) → Bool
  | [] => false
  | segment :: rest =>
    let text := joined segment
    if isDoubleDot text then reachesDrive (depth - 1) rest
    else if isDot text then reachesDrive depth rest
    else if isDriveLetter text then depth = 0
    else if depth = 0 ∧ isBrokenDrive segment then false
    else reachesDrive (depth + 1) rest

/-- Whether a character starts the path, query or fragment of a web or file url. -/
def endsAuthority (c : Char) : Bool :=
  c == '/' || c == '\\' || c == '?' || c == '#'

/-- The host of a file url from what is behind its two slashes, breaks included: `some none` if it
has none. -/
def fileHost? (cs : List Char) : Option (Option Host) :=
  let text := joined (cs.takeWhile (!endsAuthority ·))
  let path := (cs.dropWhile (!endsAuthority ·)).takeWhile fun c => c != '?' && c != '#'
  if text = [] ∨ isDriveLetter text then some none
  else
    match Host.ofWeb? text with
    | none => none
    | some host =>
      if host = .domain "localhost".toList
          ∨ reachesDrive 0 ((path.drop 1).splitOnP fun c => c == '/' || c == '\\') then some none
      else some (some host)

/-- The schemes of the web besides `file`. -/
def webSchemes : List (List Char) :=
  ["http".toList, "https".toList, "ws".toList, "wss".toList, "ftp".toList]

/-- The scheme in lower case and the text behind its colon. -/
def cutScheme? (cs : List Char) : Option (List Char × List Char) :=
  match Text.cutFirst ':' cs with
  | some (scheme, rest) =>
    if scheme.head?.any Char.isAlpha
        ∧ scheme.all (fun c => c.isAlphanum || c == '+' || c == '-' || c == '.') then
      some (Text.lower scheme, rest)
    else none
  | none => none

/-- A url without controls and blanks at its ends. -/
def trimmed (cs : List Char) : List Char :=
  let isEdge := fun c : Char => c.toNat ≤ 32
  ((cs.dropWhile isEdge).reverse.dropWhile isEdge).reverse

/-- Scheme and host of a url, if it is one. -/
def read? (url : List Char) : Option Url :=
  match cutScheme? (joined (trimmed url)) with
  | none => none
  | some (scheme, rest) =>
    if scheme = "file".toList then
      match rest with
      | a :: b :: _ =>
        if (a = '/' ∨ a = '\\') ∧ (b = '/' ∨ b = '\\') then
          (fileHost? (dropJoined "file://".length (trimmed url))).map fun host =>
            ⟨scheme, host.map Host.text⟩
        else some ⟨scheme, none⟩
      | _ => some ⟨scheme, none⟩
    else if scheme ∈ webSchemes then
      let rest := rest.dropWhile fun c => c == '/' || c == '\\'
      (webHost? (rest.takeWhile (!endsAuthority ·))).map fun host => ⟨scheme, some host.text⟩
    else
      match Text.afterLead ['/', '/'] rest with
      | none => some ⟨scheme, none⟩
      | some rest =>
        let isEnd := fun c : Char => c == '/' || c == '?' || c == '#'
        let behind := rest.dropWhile (!isEnd ·)
        (opaqueHost? (rest.takeWhile (!isEnd ·)) behind.isEmpty).map fun host =>
          ⟨scheme, if host.text = [] then none else some host.text⟩

end Url

end BuildSession
