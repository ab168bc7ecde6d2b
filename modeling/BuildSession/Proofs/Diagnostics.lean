import BuildSession.Proofs.Redaction
import Mathlib.Data.List.Forall2

/-!
# Diagnostics tell nothing of secrets

Assembling a redacted request gives the redacted session and logs the same (`assemble_redacted`),
and a redacted session has the same summary (`summary_redacted`). So whatever two requests that are
the same once redacted are told apart by, it is nothing that a summary, a log or a diagnostic shows.
-/

namespace BuildSession

variable {γ : Type}

/-- The request with every password and passphrase redacted. -/
def BuildRequest.redacted (r : BuildRequest γ) : BuildRequest γ :=
  { r with
    proxies := r.proxies.map ProxySettings.redacted
    servers := r.servers.map Server.redacted
    remoteRepositories := r.remoteRepositories.map RemoteRepository.redacted
    pluginRepositories := r.pluginRepositories.map RemoteRepository.redacted }

/-- A request shows nothing of its secrets. -/
theorem BuildRequest.shown_redacted (r : BuildRequest γ) : r.redacted.shown = r.shown := by
  simp only [shown, redacted, List.map_map, Function.comp_def, ProxySettings.shown_redacted,
    Server.shown_redacted, RemoteRepository.shownAll_map_redacted]

/-- The settings with every password and passphrase redacted. -/
def DecryptedSettings.redacted (d : DecryptedSettings) : DecryptedSettings :=
  { d with
    proxies := d.proxies.map ProxySettings.redacted
    servers := d.servers.map Server.redacted }

theorem RepositorySummary.of_redacted (r : RemoteRepository) : of r.redacted = of r := by
  have hid : ∀ x : RemoteRepository, x.redacted.id = x.id := fun x => by
    rw [RemoteRepository.redacted_eq]
  have haddress : ∀ p : Proxy, p.redacted.address = p.address := fun _ => rfl
  rw [RemoteRepository.redacted_eq]
  simp only [of, List.map_map, Option.map_map, Option.isSome_map, Function.comp_def, hid, haddress]

namespace RepositorySession

variable (s : RepositorySession γ)

/-- The session with every password and passphrase redacted. -/
def redacted : RepositorySession γ :=
  { s with
    proxies := s.proxies.redacted
    authentication := s.authentication.redacted
    remoteRepositories := s.remoteRepositories.map RemoteRepository.redacted
    pluginRepositories := s.pluginRepositories.map RemoteRepository.redacted }

theorem transformerKeys_redacted : s.redacted.transformerKeys = s.transformerKeys := rfl

/-- A summary has no place for a secret. -/
theorem summary_redacted : s.redacted.summary = s.summary := by
  simp only [summary, transformerKeys_redacted]
  simp only [redacted, AuthenticationSelector.ids_redacted, List.map_map, Function.comp_def,
    RepositorySummary.of_redacted]

end RepositorySession

/-- Repositories that differ in secrets alone show the same. -/
theorem RemoteRepository.shown_of_redacted : ∀ {xs ys : List RemoteRepository},
    xs.map redacted = ys.map redacted →
      List.Forall₂ (fun x y => x.shown.text = y.shown.text) xs ys
  | [], [], _ => .nil
  | x :: xs, y :: ys, h => by
    obtain ⟨hxy, hrest⟩ := List.cons.inj h
    refine .cons ?_ (shown_of_redacted hrest)
    rw [← x.shown_redacted, hxy, y.shown_redacted]

namespace SessionFactory

theorem assembled_redacted (s : RepositorySession γ) (overrides : List PropertyOverride) :
    assembled s.redacted overrides = assembled s overrides := by
  simp only [assembled, RepositorySession.redacted, List.length_map]

variable (f : SessionFactory) (r : BuildRequest γ) (types : ArtifactTypeRegistry)
  (resolution : ManagerResolution) (d : DecryptedSettings)

theorem value_finish_redacted : (f.finish r.redacted types resolution d.redacted).value
    = (f.finish r types resolution d).value.redacted := by
  have haccess := ServerAccess.ofServers_redacted d.servers
  have hproxies := ProxySelector.ofSettings_redacted d.proxies
  simp only [finish, Recorded.value_bind, Recorded.value_pure, DecryptedSettings.redacted, haccess,
    hproxies, RepositorySession.redacted, ← Injector.inject_redacted]
  rfl

theorem configuration_redacted :
    f.configuration r.redacted d.redacted = f.configuration r d := by
  rw [configuration, DecryptedSettings.redacted, ServerAccess.ofServers_redacted]
  rfl

theorem records_finish_redacted : (f.finish r.redacted types resolution d.redacted).records
    = (f.finish r types resolution d).records := by
  rw [records_finish, records_finish, value_finish_redacted, configuration_redacted,
    assembled_redacted]

/-- Assembly with open settings commutes with redaction, as far as its outcome goes, and logs the
same. -/
theorem assemble_redacted (hplain : f.decrypter = .plaintext) :
    (f.assemble r.redacted).value = (f.assemble r).value.map RepositorySession.redacted
      ∧ (f.assemble r.redacted).records.filterMap AssemblyStep.log?
        = (f.assemble r).records.filterMap AssemblyStep.log? := by
  have hmanager : f.resolveManager r.redacted = f.resolveManager r := rfl
  have hpath : r.redacted.localRepository = r.localRepository := rfl
  have hopen : ∀ ps ss, f.decrypter.decrypt ps ss = ⟨.ok { proxies := ps, servers := ss }, []⟩ := by
    rw [hplain]
    exact fun _ _ => rfl
  have hopened : DecryptedSettings.mk r.redacted.proxies r.redacted.servers []
      = DecryptedSettings.redacted ⟨r.proxies, r.servers, []⟩ := rfl
  rw [assemble_eq, assemble_eq, hmanager, hpath]
  rcases ArtifactTypeRegistry.ofSource f.handlers with e | types
  · exact ⟨rfl, rfl⟩
  rcases (f.resolveManager r).value with e | resolution
  · exact ⟨rfl, rfl⟩
  simp only [hopen, hopened, value_finish_redacted, records_finish_redacted]
  -- What the decrypter is asked differs in its secrets, but the question is not logged.
  refine ⟨rfl, ?_⟩
  simp only [List.filterMap_cons, List.filterMap_append, AssemblyStep.log?]

end SessionFactory

/-- Two requests that differ in nothing but the text of passwords and passphrases are assembled
alike with open settings, as far as diagnostics show: with the same error or to sessions of the same
summary, with the same log, and with the same text for the requests and for the repositories that
are made ready. -/
theorem assemble_diagnoses_without_secrets (f : SessionFactory) (hplain : f.decrypter = .plaintext)
    (r r' : BuildRequest γ) (h : r.redacted = r'.redacted) :
    r.shown.text = r'.shown.text
      ∧ (f.assemble r).records.filterMap AssemblyStep.log?
        = (f.assemble r').records.filterMap AssemblyStep.log?
      ∧ ((∃ e, (f.assemble r).value = .error e ∧ (f.assemble r').value = .error e)
        ∨ ∃ s s', (f.assemble r).value = .ok s ∧ (f.assemble r').value = .ok s'
          ∧ s.summary = s'.summary
          ∧ s.summary.toJson.render = s'.summary.toJson.render
          ∧ List.Forall₂ (fun x x' => x.shown.text = x'.shown.text)
            s.remoteRepositories s'.remoteRepositories
          ∧ List.Forall₂ (fun x x' => x.shown.text = x'.shown.text)
            s.pluginRepositories s'.pluginRepositories) := by
  obtain ⟨hvalue, hlogs⟩ := f.assemble_redacted r hplain
  obtain ⟨hvalue', hlogs'⟩ := f.assemble_redacted r' hplain
  refine ⟨?_, ?_, ?_⟩
  · rw [← r.shown_redacted, h, r'.shown_redacted]
  · rw [← hlogs, h, hlogs']
  have houtcome : (f.assemble r).value.map RepositorySession.redacted
      = (f.assemble r').value.map RepositorySession.redacted := by
    rw [← hvalue, h, hvalue']
  rcases hs : (f.assemble r).value with e | s <;>
    rcases hs' : (f.assemble r').value with e' | s' <;> rw [hs, hs'] at houtcome
  · exact .inl ⟨e, rfl, congrArg Except.error (Except.error.inj houtcome).symm⟩
  · cases houtcome
  · cases houtcome
  have hsession : s.redacted = s'.redacted := Except.ok.inj houtcome
  have hsummary : s.summary = s'.summary := by
    rw [← s.summary_redacted, hsession, s'.summary_redacted]
  refine .inr ⟨s, s', rfl, rfl, hsummary, by rw [hsummary], ?_, ?_⟩
  · exact RemoteRepository.shown_of_redacted
      (congrArg RepositorySession.remoteRepositories hsession)
  · exact RemoteRepository.shown_of_redacted
      (congrArg RepositorySession.pluginRepositories hsession)

/-- A passphrase, and passwords of a proxy, of a repository's proxy and of one it stands in for. -/
theorem assemble_diagnoses_without_secrets_at_any_depth :
    let f : SessionFactory :=
      { defaultManager := fun _ l => .ok ⟨"enhanced", l⟩
        tool := .current "any" "any"
        handlers := .ok [] }
    let r (word : String) : BuildRequest Unit :=
      { localRepository := "/repo"
        startTime := .epoch
        proxies := [{ host := "proxy.example", password := some word }]
        servers := [{ id := "corp", privateKey := some "/key", passphrase := some word }]
        remoteRepositories := [
          { id := "corp"
            url := "https://corp.example"
            mirrored := [
              { id := "central"
                url := "https://repo.example"
                authentication := some { password := some word } }]
            proxy := some ⟨"http", "proxy.example", 8080, some { password := some word }⟩ }] }
    f.decrypter = .plaintext ∧ (r "one").redacted = (r "two").redacted
      ∧ (r "one").shown.text = (r "two").shown.text
      ∧ ∃ s s', (f.assemble (r "one")).value = .ok s ∧ (f.assemble (r "two")).value = .ok s'
        ∧ s.summary = s'.summary
        ∧ s.authentication.authenticationForId "corp"
          ≠ s'.authentication.authenticationForId "corp" := by
  intro f r
  have hr : (r "one").redacted = (r "two").redacted := rfl
  let made (word : String) := (f.finish (r word) {} (.primary ⟨"enhanced", ⟨"/repo"⟩⟩)
    ⟨(r word).proxies, (r word).servers, []⟩).value
  have hmade : ∀ word, (f.assemble (r word)).value = .ok (made word) := fun _ => rfl
  have hdiffer : (made "one").authentication.authenticationForId "corp"
      ≠ (made "two").authentication.authenticationForId "corp" := by decide
  obtain ⟨htext, -, ⟨e, he, -⟩ | ⟨s, s', hs, hs', hsummary, -⟩⟩ :=
    assemble_diagnoses_without_secrets f rfl (r "one") (r "two") hr
  · rw [hmade] at he
    cases he
  · obtain rfl : made "one" = s := Except.ok.inj ((hmade "one").symm.trans hs)
    obtain rfl : made "two" = s' := Except.ok.inj ((hmade "two").symm.trans hs')
    exact ⟨rfl, hr, htext, _, _, hs, hs', hsummary, hdiffer⟩

end BuildSession
