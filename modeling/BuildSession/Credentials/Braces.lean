import BuildSession.Credentials.Decryption

/-!
# Secrets in braces

The simplest cipher: `{secret}` is closed and opens to `secret`, a text without braces around it is
open, and `{!}` is a secret that cannot be opened.
-/

namespace BuildSession

namespace Braces

/-- What opening a secret leads to: the secret that is now held, and the problem there was. -/
def openSecret (a : SourceAddress) : Option String → Option String × List SettingsProblem
  | none => (none, [])
  | some secret =>
    match secret.toList with
    | ['\x7b', '!', '\x7d'] =>
      (some secret,
        [{ message := "Failed to decrypt value"
           source := a.text
           cause := some "invalid block size" }])
    | '\x7b' :: rest =>
      (some (if rest.getLast? = some '\x7d' then String.ofList rest.dropLast else secret), [])
    | _ => (some secret, [])

def openProxy (p : ProxySettings) : ProxySettings × List SettingsProblem :=
  let (password, problems) := openSecret ⟨SourceAddress.proxies, p.id, "password"⟩ p.password
  ({ p with password }, problems)

/-- A server with its password opened; a passphrase stays as it is. -/
def openServer (s : Server) : Server × List SettingsProblem :=
  let (password, problems) := openSecret ⟨SourceAddress.servers, s.id, "password"⟩ s.password
  ({ s with password }, problems)

/-- A server with its password and its passphrase opened. -/
def openSecrets (s : Server) : Server × List SettingsProblem :=
  let (server, problems) := openServer s
  let (passphrase, more) := openSecret ⟨SourceAddress.servers, s.id, "passphrase"⟩ s.passphrase
  ({ server with passphrase }, problems ++ more)

end Braces

namespace Decrypter

/-- The decrypter for passwords of proxies in braces; `openOne` opens what a server holds. -/
def bracesOf (openOne : Server → Server × List SettingsProblem) : Decrypter :=
  fun proxies servers =>
    let openedProxies := proxies.map Braces.openProxy
    let openedServers := servers.map openOne
    .ok {
      proxies := openedProxies.map (·.1)
      servers := openedServers.map (·.1)
      problems := openedProxies.flatMap (·.2) ++ openedServers.flatMap (·.2) }

def braces : Decrypter :=
  bracesOf Braces.openServer

end Decrypter

end BuildSession
