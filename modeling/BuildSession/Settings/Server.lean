import BuildSession.Config.Node

/-!
# Server settings

What a build knows about the server of a repository: credentials, file modes and a configuration
tree for the connector.
-/

namespace BuildSession

/-- A server as the settings declare it. -/
structure Server where
  id : String
  username : Option String := none
  password : Option String := none
  privateKey : Option String := none
  passphrase : Option String := none
  filePermissions : Option String := none
  directoryPermissions : Option String := none
  configuration : Option ConfigNode := none
  deriving BEq

namespace Server

def toJson (s : Server) : Json :=
  .object [
    ("id", .string s.id),
    ("username", .ofOption .string s.username),
    ("password", .ofOption .string s.password),
    ("private_key", .ofOption .string s.privateKey),
    ("passphrase", .ofOption .string s.passphrase),
    ("file_permissions", .ofOption .string s.filePermissions),
    ("directory_permissions", .ofOption .string s.directoryPermissions),
    ("configuration", .ofOption ConfigNode.toJson s.configuration)]

def ofJson? (j : Json) : Read Server := do
  let found ← Json.fields
    ["id", "username", "password", "private_key", "passphrase", "file_permissions",
      "directory_permissions", "configuration"] j
  let id ← Json.required "id" Json.asString found
  let username ← Json.optional "username" Json.asString found
  let password ← Json.optional "password" Json.asString found
  let privateKey ← Json.optional "private_key" Json.asString found
  let passphrase ← Json.optional "passphrase" Json.asString found
  let filePermissions ← Json.optional "file_permissions" Json.asString found
  let directoryPermissions ← Json.optional "directory_permissions" Json.asString found
  let configuration ← Json.optional "configuration" ConfigNode.ofJson? found
  return { id, username, password, privateKey, passphrase, filePermissions, directoryPermissions,
           configuration }

def shown (s : Server) : Shown :=
  .record "Server" [
    ("id", .quoted s.id),
    ("username", .option .quoted s.username),
    ("password", .secret s.password),
    ("private_key", .option .quoted s.privateKey),
    ("passphrase", .secret s.passphrase),
    ("file_permissions", .option .quoted s.filePermissions),
    ("directory_permissions", .option .quoted s.directoryPermissions),
    ("configuration", .option ConfigNode.shown s.configuration)] false

end Server

end BuildSession
