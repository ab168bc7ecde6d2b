import BuildSession.Repository.Basic
import BuildSession.Url.Basic

/-!
# The transport of a repository

How a repository is reached: its protocol and its host, both read off its url. A url may nest
another one behind `dav:`, and then the protocol keeps that lead. A url that cannot be read has no
host, and its protocol is the text in front of its first colon.
-/

namespace BuildSession

structure Transport where
  protocol : String
  host : Option String
  deriving DecidableEq

namespace Transport

/-- The lead of a url that nests another. -/
def davLead : List Char := "dav:".toList

/-- The lead and the url nested behind it; without nesting, no lead and the url itself. -/
def cutDav (url : List Char) : List Char × List Char :=
  match Text.afterLead davLead url with
  | some rest => if Text.hasPart "://".toList rest then (davLead, rest) else ([], url)
  | none => ([], url)

/-- The text in front of the first colon, the whole text if there is none. -/
def beforeColon (url : List Char) : List Char :=
  url.takeWhile (· != ':')

def ofUrl (url : String) : Transport :=
  let (lead, nested) := cutDav url.toList
  match Url.read? nested with
  | some u =>
    { protocol := String.ofList (lead ++ u.scheme)
      host := u.host.map fun h => String.ofList (Text.lower h) }
  | none => { protocol := String.ofList (Text.lower (beforeColon url.toList)), host := none }

end Transport

namespace RemoteRepository

def transport (r : RemoteRepository) : Transport :=
  .ofUrl r.url

def protocol (r : RemoteRepository) : String :=
  r.transport.protocol

/-- The host of the repository, if its url has one. -/
def host (r : RemoteRepository) : Option String :=
  r.transport.host

end RemoteRepository

end BuildSession
