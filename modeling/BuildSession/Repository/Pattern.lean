import BuildSession.Repository.Transport

/-!
# Patterns over repositories and layouts

A pattern lists segments between commas. A segment that is the name itself includes it, `!` in
front of the name excludes it, and the first segment that decides settles the matter. When none
decides, the name is matched if some segment is a wildcard that covers it.
-/

namespace BuildSession

namespace Pattern

/-- What a segment says about a name. -/
inductive Verdict where
  | excludes
  | includes
  | covers
  | silent
  deriving DecidableEq

/-- What a segment says about `name`; `wild` are the wildcards that cover the name. -/
def verdict (name : List Char) (wild : List (List Char)) (segment : List Char) : Verdict :=
  match segment with
  | '!' :: c :: rest => if c :: rest = name then .excludes else .silent
  | _ => if segment = name then .includes else if wild.contains segment then .covers else .silent

/-- Whether the segments match, given whether an earlier one covers the name. -/
def scan (name : List Char) (wild : List (List Char)) : (covered : Bool) → List (List Char) → Bool
  | covered, [] => covered
  | covered, segment :: rest =>
    match verdict name wild segment with
    | .excludes => false
    | .includes => true
    | .covers => scan name wild true rest
    | .silent => scan name wild covered rest

def segments (pattern : String) : List (List Char) :=
  Text.segments (· == ',') pattern.toList

def anything : String := "*"

/-- The wildcard for repositories that are not on this machine. -/
def external : String := "external:*"

/-- The wildcard for repositories that are reached by http and are not on this machine. -/
def externalHttp : String := "external:http:*"

end Pattern

namespace Transport

/-- Whether the transport leads to another machine. -/
def isExternal (t : Transport) : Bool :=
  !(t.host == some "localhost" || t.host == some "127.0.0.1" || t.protocol == "file")

/-- Whether the transport leads to another machine by a form of http. -/
def isExternalHttp (t : Transport) : Bool :=
  ["http", "https", "dav", "dav:http", "dav:https"].contains t.protocol && t.isExternal

end Transport

namespace RemoteRepository

/-- The wildcards that cover a repository. -/
def wildcards (r : RemoteRepository) : List (List Char) :=
  (if r.transport.isExternal then [Pattern.external.toList] else [])
    ++ (if r.transport.isExternalHttp then [Pattern.externalHttp.toList] else [])
    ++ [Pattern.anything.toList]

def matchesPattern (r : RemoteRepository) (pattern : String) : Bool :=
  pattern == Pattern.anything || pattern == r.id
    || Pattern.scan r.id.toList r.wildcards false (Pattern.segments pattern)

end RemoteRepository

/-- Whether a layout matches a pattern over layouts; the empty pattern matches every layout. -/
def matchesLayout (layout pattern : String) : Bool :=
  pattern.isEmpty || pattern == Pattern.anything || pattern == layout
    || Pattern.scan layout.toList [Pattern.anything.toList] false (Pattern.segments pattern)

end BuildSession
