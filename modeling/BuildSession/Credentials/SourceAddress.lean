import BuildSession.Text.Cut

/-!
# Source addresses

A problem names the setting it is about as `servers.server[id].password`: a section, the id of an
entry between brackets, and a field. The section ends at the first bracket and the field starts
behind the last `].`, so the id may be any text.
-/

namespace BuildSession

structure SourceAddress where
  group : String
  id : String
  field : String
  deriving DecidableEq

namespace SourceAddress

def proxies : String := "proxies.proxy"

def servers : String := "servers.server"

def text (a : SourceAddress) : String :=
  a.group ++ "[" ++ a.id ++ "]." ++ a.field

def parse? (source : String) : Option SourceAddress :=
  match Text.cutFirst '[' source.toList with
  | none => none
  | some (group, rest) =>
    match Text.cutLast [']', '.'] rest with
    | none => none
    | some (id, field) => some ⟨String.ofList group, String.ofList id, String.ofList field⟩

end SourceAddress

end BuildSession
