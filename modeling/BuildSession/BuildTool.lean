import BuildSession.Json.Fields

/-!
# The build tool

What a build says of itself to the servers it talks to.
-/

namespace BuildSession

structure BuildTool where
  product : String
  version : String := ""
  runtime : String := ""
  osName : String := ""
  osVersion : String := ""
  deriving DecidableEq

namespace BuildTool

/-- This library by its name and version, on a host with this runtime and operating system. -/
def current (runtime osName : String) : BuildTool :=
  { product := "resolver-session", version := "0.4.0", runtime, osName }

def userAgent (t : BuildTool) : String :=
  t.product ++ (if t.version.isEmpty then "" else "/" ++ t.version)
    ++ " (" ++ t.runtime ++ "; "
    ++ " ".intercalate ([t.osName, t.osVersion].filter (!·.isEmpty)) ++ ")"

def toJson (t : BuildTool) : Json :=
  .object [
    ("product", .string t.product),
    ("version", .string t.version),
    ("runtime", .string t.runtime),
    ("os_name", .string t.osName),
    ("os_version", .string t.osVersion)]

def ofJson? (j : Json) : Read BuildTool := do
  let found ← Json.fields ["product", "version", "runtime", "os_name", "os_version"] j
  let product ← Json.required "product" Json.asString found
  let version ← Json.orElse "version" Json.asString "" found
  let runtime ← Json.orElse "runtime" Json.asString "" found
  let osName ← Json.orElse "os_name" Json.asString "" found
  let osVersion ← Json.orElse "os_version" Json.asString "" found
  return { product, version, runtime, osName, osVersion }

end BuildTool

end BuildSession
