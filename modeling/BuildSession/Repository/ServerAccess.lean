import BuildSession.Config.Layer
import BuildSession.Repository.Basic
import BuildSession.Settings.Server

/-!
# Access to servers

The servers of the settings become credentials by repository id and a layer of connector settings.
A later definition of an id replaces everything that earlier ones contributed.
-/

namespace BuildSession

structure AuthenticationSelector where
  byId : Dict Authentication := .empty

namespace AuthenticationSelector

/-- The selector with the credentials of an id set, or removed. -/
def add (s : AuthenticationSelector) (id : String) :
    Option Authentication → AuthenticationSelector
  | some a => ⟨s.byId.insert id a⟩
  | none => ⟨s.byId.erase id⟩

def authenticationForId (s : AuthenticationSelector) (id : String) : Option Authentication :=
  s.byId.get? id

/-- The credentials for a repository, which go by its id. -/
def authenticationFor (s : AuthenticationSelector) (r : RemoteRepository) :
    Option Authentication :=
  s.authenticationForId r.id

/-- The ids with credentials, ascending. -/
def ids (s : AuthenticationSelector) : List String :=
  s.byId.keys

end AuthenticationSelector

/-! ### The keys of connector settings -/

namespace ConnectorKey

/-- The name of the nodes that choose a transport implementation and are not published. -/
def wagonProvider : String := "wagonProvider"

/-- The lead of the key of a server's configuration. -/
def configurationLead : String := "aether.connector.wagon.config."

/-- The lead of the key of a server's file mode. -/
def fileModeLead : String := "aether.connector.perms.fileMode."

/-- The lead of the key of a server's directory mode. -/
def directoryModeLead : String := "aether.connector.perms.dirMode."

/-- The leads of all keys that a server has. -/
def leads : List String :=
  [configurationLead, fileModeLead, directoryModeLead]

end ConnectorKey

namespace Server

def authentication (s : Server) : Option Authentication :=
  (({} : AuthenticationBuilder).username s.username
    |>.password s.password |>.privateKey s.privateKey s.passphrase).build

/-- A configuration without the nodes that choose a transport implementation. -/
def publishedConfiguration (n : ConfigNode) : ConfigNode :=
  (n.removeChildren ConnectorKey.wagonProvider).1

def connectorEntries (s : Server) : List (String × ConfigValue) :=
  (match s.configuration with
    | some n => [(ConnectorKey.configurationLead ++ s.id, .node (publishedConfiguration n))]
    | none => [])
  ++ (match s.filePermissions with
    | some mode => [(ConnectorKey.fileModeLead ++ s.id, .text mode)]
    | none => [])
  ++ (match s.directoryPermissions with
    | some mode => [(ConnectorKey.directoryModeLead ++ s.id, .text mode)]
    | none => [])

end Server

structure ServerAccess where
  selector : AuthenticationSelector := {}
  connector : ConfigLayer := ⟨.connector, []⟩

namespace ServerAccess

/-- Takes one more server in, in place of earlier ones of its id. -/
def step (a : ServerAccess) (s : Server) : ServerAccess :=
  let cleared := ConnectorKey.leads.foldl (fun l lead => l.remove (lead ++ s.id)) a.connector
  { selector := a.selector.add s.id s.authentication
    connector := s.connectorEntries.foldl (fun l e => l.push e.1 e.2) cleared }

def ofServers (servers : List Server) : ServerAccess :=
  servers.foldl step {}

end ServerAccess

end BuildSession
