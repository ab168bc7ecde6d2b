import BuildSession.Repository.Basic

/-!
# Mirror settings

A mirror names the repositories it stands in for by a pattern over their ids and a pattern over
their layouts.
-/

namespace BuildSession

/-- A rule that puts one repository in place of others. -/
structure Mirror where
  id : String
  url : String
  layout : String := defaultLayout
  mirrorOf : String
  mirrorOfLayouts : String := "default,legacy"
  blocked : Bool := false
  deriving DecidableEq

namespace Mirror

def toJson (m : Mirror) : Json :=
  .object [
    ("id", .string m.id),
    ("url", .string m.url),
    ("layout", .string m.layout),
    ("mirror_of", .string m.mirrorOf),
    ("mirror_of_layouts", .string m.mirrorOfLayouts),
    ("blocked", .bool m.blocked)]

def ofJson? (j : Json) : Read Mirror := do
  let found ← Json.fields
    ["id", "url", "layout", "mirror_of", "mirror_of_layouts", "blocked"] j
  let id ← Json.required "id" Json.asString found
  let url ← Json.required "url" Json.asString found
  let layout ← Json.orElse "layout" Json.asString defaultLayout found
  let mirrorOf ← Json.required "mirror_of" Json.asString found
  let mirrorOfLayouts ← Json.orElse "mirror_of_layouts" Json.asString "default,legacy" found
  let blocked ← Json.orElse "blocked" Json.asBool false found
  return { id, url, layout, mirrorOf, mirrorOfLayouts, blocked }

def shown (m : Mirror) : Shown :=
  .record "Mirror" [
    ("id", .quoted m.id),
    ("url", .quoted m.url),
    ("layout", .quoted m.layout),
    ("mirror_of", .quoted m.mirrorOf),
    ("mirror_of_layouts", .quoted m.mirrorOfLayouts),
    ("blocked", .bool m.blocked)] false

end Mirror

end BuildSession
