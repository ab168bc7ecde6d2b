import BuildSession.Proofs.Assembly
import BuildSession.Proofs.Mirroring
import BuildSession.Proofs.Proxying

/-!
# What injection makes of a repository

Three passes over a list come to one map, which makes each repository ready by itself
(`inject_eq_map`). What a mirror ends up with goes by the rule it comes from: its proxy by the
rule's url, its credentials by the rule's id, and nothing by the repository it stands in for
(`madeOf_of_find?`).
-/

namespace BuildSession

variable {γ : Type}

namespace RepositorySession

variable (s : RepositorySession γ)

/-- The repository that the published rules put in the place of `x`, or `x` itself. -/
def standing (x : RemoteRepository) : RemoteRepository :=
  match s.mirrors.mirrorFor x with
  | some m => m
  | none => x

/-- The repository with the proxy and the credentials that are published for it; where there are
none, it keeps its own. -/
def equipped (m : RemoteRepository) : RemoteRepository :=
  { m with
    proxy := match s.proxies.proxyFor m with
      | some p => some p
      | none => m.proxy
    authentication := match s.authentication.authenticationFor m with
      | some a => some a
      | none => m.authentication }

/-- What the published choices of a session make of a repository. -/
def madeOf (x : RemoteRepository) : RemoteRepository :=
  s.equipped (s.standing x)

theorem injectMirrors_eq_map (xs : List RemoteRepository) :
    s.injector.injectMirrors xs = xs.map s.standing := by
  refine List.map_congr_left fun x _ => ?_
  simp only [injector, standing]
  rcases s.mirrors.mirrorFor x with _ | m <;> rfl

/-- The pass for credentials meets repositories with their proxies changed, but it only asks for
their ids. -/
theorem injectAuthentication_injectProxies (xs : List RemoteRepository) :
    s.injector.injectAuthentication (s.injector.injectProxies xs) = xs.map s.equipped := by
  rw [Injector.injectAuthentication, Injector.injectProxies, List.map_map]
  refine List.map_congr_left fun x _ => ?_
  simp only [Function.comp_apply, injector, equipped, AuthenticationSelector.authenticationFor]
  rcases s.proxies.proxyFor x with _ | p <;>
    rcases s.authentication.authenticationForId x.id with _ | a <;> rfl

theorem inject_eq_map (xs : List RemoteRepository) : s.injector.inject xs = xs.map s.madeOf := by
  rw [Injector.inject, injectMirrors_eq_map, injectAuthentication_injectProxies, List.map_map]
  rfl

theorem equipped_of_bare {m : RemoteRepository} (hp : m.proxy = none)
    (ha : m.authentication = none) :
    (s.equipped m).proxy = s.proxies.proxyFor m
      ∧ (s.equipped m).authentication = s.authentication.authenticationFor m := by
  simp only [equipped, hp, ha]
  constructor
  · rcases s.proxies.proxyFor m with _ | p <;> rfl
  · rcases s.authentication.authenticationFor m with _ | a <;> rfl

/-- A repository behind a mirror has the mirror's id and url, and keeps neither its own proxy nor
its own credentials. -/
theorem madeOf_of_find? {x : RemoteRepository} {rule : Mirror}
    (h : s.mirrors.find? x = some rule) :
    (s.madeOf x).id = rule.id ∧ (s.madeOf x).url = rule.url ∧ (s.madeOf x).mirrored = [x]
      ∧ (s.madeOf x).proxy = s.proxies.proxyFor { id := rule.id, url := rule.url }
      ∧ (s.madeOf x).authentication = s.authentication.authenticationForId rule.id := by
  have hs : s.standing x = rule.standIn x := by
    rw [standing, MirrorSelector.mirrorFor, h, Option.map_some]
  obtain ⟨hp, ha⟩ := s.equipped_of_bare (m := rule.standIn x) rfl rfl
  rw [madeOf, hs]
  refine ⟨rfl, rfl, rfl, ?_, ha⟩
  rw [hp]
  exact s.proxies.proxyFor_congr rfl

theorem mirrored_madeOf {x : RemoteRepository} (h : s.mirrors.mirrorFor x = none) :
    (s.madeOf x).mirrored = x.mirrored := by
  simp only [madeOf, equipped, standing, h]

end RepositorySession

/-- The repositories of a session are those of its request, one by one made ready by the choices
that the session publishes. One that gave way to a mirror has the proxy and the credentials of the
mirror's url and id, and its own only within the repository that is listed as mirrored. -/
theorem assemble_makes_ready (f : SessionFactory) (r : BuildRequest γ) (s : RepositorySession γ)
    (h : (f.assemble r).value = .ok s) :
    s.remoteRepositories = r.remoteRepositories.map s.madeOf
      ∧ s.pluginRepositories = r.pluginRepositories.map s.madeOf
      ∧ (∀ x m, s.mirrors.mirrorFor x = some m → ∃ rule ∈ s.mirrors.rules,
        (s.madeOf x).id = rule.id ∧ (s.madeOf x).url = rule.url ∧ (s.madeOf x).mirrored = [x]
          ∧ (s.madeOf x).proxy = s.proxies.proxyFor { id := rule.id, url := rule.url }
          ∧ (s.madeOf x).authentication = s.authentication.authenticationForId rule.id)
      ∧ ∀ x, s.mirrors.mirrorFor x = none → (s.madeOf x).mirrored = x.mirrored := by
  obtain ⟨types, resolution, decrypted, -, -, -, rfl⟩ := (f.assemble_eq_ok_iff r s).1 h
  refine ⟨?_, ?_, fun x m hm => ?_, fun x hx => RepositorySession.mirrored_madeOf _ hx⟩
  · rw [SessionFactory.finish_remoteRepositories, RepositorySession.inject_eq_map]
  · rw [SessionFactory.finish_pluginRepositories, RepositorySession.inject_eq_map]
  · obtain ⟨rule, hrule, -⟩ := Option.map_eq_some_iff.1 hm
    exact ⟨rule, MirrorSelector.mem_of_find? hrule, RepositorySession.madeOf_of_find? _ hrule⟩

/-- A repository with a proxy and credentials of its own, behind a mirror that has others. -/
theorem assemble_makes_ready_behind_mirror :
    let corp : Mirror := { id := "corp", url := "https://corp.example/repo", mirrorOf := "*" }
    let central : RemoteRepository :=
      { id := "central"
        url := "https://repo.example"
        proxy := some ⟨"http", "proxy.example", 8080, none⟩
        authentication := some { username := some "guest" } }
    let f : SessionFactory :=
      { defaultManager := fun _ l => .ok ⟨"enhanced", l⟩
        tool := .current "any" "any"
        handlers := .ok [] }
    let r : BuildRequest Unit :=
      { localRepository := "/repo"
        startTime := .epoch
        mirrors := [corp]
        servers := [{ id := "corp", username := some "deployer" }]
        remoteRepositories := [central] }
    ∃ s, (f.assemble r).value = .ok s
      ∧ s.remoteRepositories = [s.madeOf central]
      ∧ (s.madeOf central).id = "corp"
      ∧ (s.madeOf central).mirrored = [central]
      ∧ (s.madeOf central).authentication = some { username := some "deployer" } := by
  intro corp central f r
  let s := (f.finish r {} (.primary ⟨"enhanced", ⟨"/repo"⟩⟩) { servers := r.servers }).value
  have hs : (f.assemble r).value = .ok s := rfl
  have hfind : s.mirrors.find? central = some corp := by decide
  have hcorp : s.mirrors.mirrorFor central = some (corp.standIn central) := by
    rw [MirrorSelector.mirrorFor, hfind, Option.map_some]
  have hauth : s.authentication.authenticationForId corp.id
      = some { username := some "deployer" } := by decide
  refine ⟨s, hs, ?_⟩
  obtain ⟨hremote, -, hmirror, -⟩ := assemble_makes_ready f r s hs
  obtain ⟨rule, hrule, hid, -, hmirrored, -, ha⟩ := hmirror central _ hcorp
  obtain rfl : rule = corp := List.mem_singleton.1 hrule
  exact ⟨hremote, hid, hmirrored, ha.trans hauth⟩

end BuildSession
