import BuildSession.Proofs.Injection
import BuildSession.Proofs.Proxying
import BuildSession.Proofs.ServerAccess

/-!
# What becomes of a redacted request

Redaction replaces the text of every password and passphrase that is present, at any depth, and
leaves everything else. No diagnostic of a record shows a difference (`shown_redacted`), and making
repositories ready commutes with it (`inject_redacted`): a selector of redacted settings chooses
what it would have chosen, redacted.
-/

namespace BuildSession

variable {γ : Type}

/-- A secret with its text replaced; an absent one stays absent. -/
def redactSecret (secret : Option String) : Option String :=
  secret.map fun _ => "***"

theorem Shown.secret_redactSecret (secret : Option String) :
    Shown.secret (redactSecret secret) = Shown.secret secret := by
  rcases secret with _ | x <;> rfl

theorem Shown.option_map {α β : Type} {f : α → β} {value : β → Shown} {value' : α → Shown}
    (h : ∀ a, value (f a) = value' a) (o : Option α) :
    Shown.option value (o.map f) = Shown.option value' o := by
  rcases o with _ | a
  · rfl
  · exact congrArg (Shown.tagged "Some") (h a)

/-! ## Credentials and proxies -/

/-- The key with its passphrase redacted. -/
def PrivateKey.redacted (k : PrivateKey) : PrivateKey :=
  { k with passphrase := redactSecret k.passphrase }

theorem PrivateKey.shown_redacted (k : PrivateKey) : k.redacted.shown = k.shown := by
  simp only [shown, redacted, Shown.secret_redactSecret]

/-- The credentials with their password and passphrase redacted. -/
def Authentication.redacted (a : Authentication) : Authentication :=
  { a with
    password := redactSecret a.password
    privateKey := a.privateKey.map PrivateKey.redacted }

theorem Authentication.shown_redacted (a : Authentication) : a.redacted.shown = a.shown := by
  simp only [shown, redacted, Shown.secret_redactSecret,
    Shown.option_map PrivateKey.shown_redacted]

/-- The proxy with its credentials redacted. -/
def Proxy.redacted (p : Proxy) : Proxy :=
  { p with authentication := p.authentication.map Authentication.redacted }

theorem Proxy.shown_redacted (p : Proxy) : p.redacted.shown = p.shown := by
  simp only [shown, redacted, Shown.option_map Authentication.shown_redacted]

/-! ## Repositories -/

namespace RemoteRepository

mutual

/-- The repository with its own secrets redacted, and those of the repositories it stands in for. -/
def redacted : RemoteRepository → RemoteRepository
  | ⟨id, url, layout, releases, snapshots, blocked, mirrored, proxy, authentication⟩ =>
    ⟨id, url, layout, releases, snapshots, blocked, redactedAll mirrored, proxy.map Proxy.redacted,
      authentication.map Authentication.redacted⟩

/-- The repositories of a list redacted. -/
def redactedAll : List RemoteRepository → List RemoteRepository
  | [] => []
  | r :: rs => redacted r :: redactedAll rs

end

theorem redactedAll_eq_map : ∀ rs : List RemoteRepository, redactedAll rs = rs.map redacted
  | [] => rfl
  | r :: rs => by rw [redactedAll, redactedAll_eq_map rs, List.map_cons]

theorem redacted_eq (r : RemoteRepository) : r.redacted =
    { r with
      mirrored := r.mirrored.map redacted
      proxy := r.proxy.map Proxy.redacted
      authentication := r.authentication.map Authentication.redacted } := by
  rcases r with ⟨id, url, layout, releases, snapshots, blocked, mirrored, proxy, authentication⟩
  rw [redacted, redactedAll_eq_map]

theorem transport_redacted (r : RemoteRepository) : r.redacted.transport = r.transport := by
  rw [redacted_eq]
  rfl

mutual

theorem shown_redacted : ∀ r : RemoteRepository, r.redacted.shown = r.shown
  | ⟨id, url, layout, releases, snapshots, blocked, mirrored, proxy, authentication⟩ => by
    simp only [redacted, shown, shownAll_redactedAll mirrored,
      Shown.option_map Proxy.shown_redacted, Shown.option_map Authentication.shown_redacted]

theorem shownAll_redactedAll : ∀ rs : List RemoteRepository,
    shownAll (redactedAll rs) = shownAll rs
  | [] => rfl
  | r :: rs => by
    rw [redactedAll, shownAll, shownAll, shown_redacted r, shownAll_redactedAll rs]

end

theorem shownAll_map_redacted (rs : List RemoteRepository) :
    shownAll (rs.map redacted) = shownAll rs := by
  rw [← redactedAll_eq_map, shownAll_redactedAll]

end RemoteRepository

/-! ## Settings -/

/-- The proxy with its password redacted. -/
def ProxySettings.redacted (p : ProxySettings) : ProxySettings :=
  { p with password := redactSecret p.password }

theorem ProxySettings.shown_redacted (p : ProxySettings) : p.redacted.shown = p.shown := by
  simp only [shown, redacted, Shown.secret_redactSecret]

/-- The server with its password and passphrase redacted. -/
def Server.redacted (s : Server) : Server :=
  { s with
    password := redactSecret s.password
    passphrase := redactSecret s.passphrase }

theorem Server.shown_redacted (s : Server) : s.redacted.shown = s.shown := by
  simp only [shown, redacted, Shown.secret_redactSecret]

theorem Server.authentication_redacted (s : Server) :
    s.redacted.authentication = s.authentication.map Authentication.redacted := by
  rw [authentication_eq, authentication_eq]
  simp only [redacted, redactSecret, Option.map_eq_none_iff]
  split
  · rfl
  · simp only [Option.map_some, Authentication.redacted, redactSecret, Option.map_map,
      Function.comp_def, PrivateKey.redacted]

theorem Server.connectorEntries_redacted (s : Server) :
    s.redacted.connectorEntries = s.connectorEntries := rfl

/-! ## The choices of a session -/

/-- The rule with the credentials of its proxy redacted. -/
def ProxyRule.redacted (rule : ProxyRule) : ProxyRule :=
  { rule with proxy := rule.proxy.redacted }

theorem ProxyRule.ofSettings_redacted (p : ProxySettings) :
    ofSettings p.redacted = (ofSettings p).redacted := by
  unfold ofSettings redacted ProxySettings.redacted Proxy.redacted
  rcases p.username with _ | u <;> rcases p.password with _ | w <;> rfl

namespace ProxySelector

/-- The selector with its rules redacted. -/
def redacted (s : ProxySelector) : ProxySelector :=
  ⟨s.rules.map ProxyRule.redacted⟩

theorem ofSettings_redacted (ps : List ProxySettings) :
    ofSettings (ps.map ProxySettings.redacted) = (ofSettings ps).redacted := by
  simp only [ofSettings, redacted, List.map_map, Function.comp_def, ProxyRule.ofSettings_redacted]

theorem proxyFor_redacted (s : ProxySelector) (r : RemoteRepository) :
    s.redacted.proxyFor r.redacted = (s.proxyFor r).map Proxy.redacted := by
  have hserves : ∀ host protocol,
      serves host protocol ∘ ProxyRule.redacted = serves host protocol := fun _ _ => rfl
  rw [proxyFor_congr _ r.transport_redacted, proxyFor_eq, proxyFor_eq]
  simp only [redacted, List.find?_map, hserves]
  split
  · rw [← Option.map_or, Option.map_map, Option.map_map]
    rfl
  · rw [Option.or_none, Option.or_none, Option.map_map, Option.map_map]
    rfl

end ProxySelector

namespace AuthenticationSelector

/-- The selector with its credentials redacted. -/
def redacted (s : AuthenticationSelector) : AuthenticationSelector :=
  ⟨s.byId.map Authentication.redacted⟩

theorem add_redacted (s : AuthenticationSelector) (id : String) (a : Option Authentication) :
    s.redacted.add id (a.map Authentication.redacted) = (s.add id a).redacted := by
  rcases a with _ | a
  · simp only [add, redacted, Option.map_none, Dict.map_erase]
  · simp only [add, redacted, Option.map_some, Dict.map_insert]

theorem authenticationForId_redacted (s : AuthenticationSelector) (id : String) :
    s.redacted.authenticationForId id
      = (s.authenticationForId id).map Authentication.redacted :=
  Dict.get?_map _ _ _

theorem ids_redacted (s : AuthenticationSelector) : s.redacted.ids = s.ids :=
  Dict.keys_map _ _

end AuthenticationSelector

namespace ServerAccess

/-- What servers come to, with the credentials redacted. -/
def redacted (a : ServerAccess) : ServerAccess :=
  { a with selector := a.selector.redacted }

theorem step_redacted (a : ServerAccess) (s : Server) :
    a.redacted.step s.redacted = (a.step s).redacted := by
  simp only [step, redacted, Server.authentication_redacted, Server.connectorEntries_redacted,
    ← AuthenticationSelector.add_redacted]
  rfl

theorem foldl_step_redacted : ∀ (servers : List Server) (a : ServerAccess),
    (servers.map Server.redacted).foldl step a.redacted = (servers.foldl step a).redacted
  | [], _ => rfl
  | s :: servers, a => by
    rw [List.map_cons, List.foldl_cons, List.foldl_cons, step_redacted, foldl_step_redacted servers]

/-- What redacted servers come to is the redacted form of what the servers come to. -/
theorem ofServers_redacted (servers : List Server) :
    ofServers (servers.map Server.redacted) = (ofServers servers).redacted :=
  foldl_step_redacted servers {}

end ServerAccess

/-! ## Making ready -/

theorem Mirror.standIn_redacted (m : Mirror) (r : RemoteRepository) :
    m.standIn r.redacted = (m.standIn r).redacted := by
  have hlayout : r.redacted.layout = r.layout := by rw [RemoteRepository.redacted_eq]
  have hreleases : r.redacted.releases = r.releases := by rw [RemoteRepository.redacted_eq]
  have hsnapshots : r.redacted.snapshots = r.snapshots := by rw [RemoteRepository.redacted_eq]
  rw [RemoteRepository.redacted_eq (m.standIn r)]
  simp only [standIn, hlayout, hreleases, hsnapshots, List.map_cons, List.map_nil, Option.map_none]

/-- The choice of a mirror does not look at secrets. -/
theorem MirrorSelector.mirrorFor_redacted (s : MirrorSelector) (r : RemoteRepository) :
    s.mirrorFor r.redacted = (s.mirrorFor r).map RemoteRepository.redacted := by
  have hfind : s.find? r.redacted = s.find? r := by
    refine s.find?_congr ?_ r.transport_redacted ?_ <;> rw [RemoteRepository.redacted_eq]
  rw [mirrorFor, mirrorFor, hfind, Option.map_map]
  exact congrArg (fun f => (s.find? r).map f) (funext fun m => m.standIn_redacted r)

namespace Injector

variable (i : Injector) (rs : List RemoteRepository)

/-- The choices redacted. -/
def redacted : Injector :=
  { i with proxies := i.proxies.redacted, authentication := i.authentication.redacted }

theorem injectMirrors_redacted : i.redacted.injectMirrors (rs.map RemoteRepository.redacted)
    = (i.injectMirrors rs).map RemoteRepository.redacted := by
  rw [injectMirrors, injectMirrors, List.map_map, List.map_map]
  refine List.map_congr_left fun r _ => ?_
  rw [Function.comp_apply, Function.comp_apply, redacted, MirrorSelector.mirrorFor_redacted,
    Option.getD_map]

theorem injectProxies_redacted : i.redacted.injectProxies (rs.map RemoteRepository.redacted)
    = (i.injectProxies rs).map RemoteRepository.redacted := by
  rw [injectProxies, injectProxies, List.map_map, List.map_map]
  refine List.map_congr_left fun r _ => ?_
  have hproxy := i.proxies.proxyFor_redacted r
  simp only [Function.comp_apply, redacted, hproxy]
  simp only [RemoteRepository.redacted_eq, Option.map_or]

theorem injectAuthentication_redacted :
    i.redacted.injectAuthentication (rs.map RemoteRepository.redacted)
      = (i.injectAuthentication rs).map RemoteRepository.redacted := by
  rw [injectAuthentication, injectAuthentication, List.map_map, List.map_map]
  refine List.map_congr_left fun r _ => ?_
  simp only [Function.comp_apply, redacted, AuthenticationSelector.authenticationFor,
    AuthenticationSelector.authenticationForId_redacted, RemoteRepository.redacted_eq,
    Option.map_or]

/-- Making redacted repositories ready gives the redacted forms of the repositories made ready. -/
theorem inject_redacted : i.redacted.inject (rs.map RemoteRepository.redacted)
    = (i.inject rs).map RemoteRepository.redacted := by
  rw [inject, inject, injectMirrors_redacted, injectProxies_redacted,
    injectAuthentication_redacted]

end Injector

end BuildSession
