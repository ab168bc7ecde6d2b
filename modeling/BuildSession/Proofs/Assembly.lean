import BuildSession.Session.Assembly

/-!
# What a finished session is made of

An assembly goes through its steps until one fails, and records them on its way (`assemble_eq`).
A request has a session exactly if its artifact types, its manager and its decryption all come out
well, and then the session is what `finish` makes of the three (`assemble_eq_ok_iff`); otherwise the
first of them that does not is reported (`assemble_eq_error_iff`). The session's repositories are
made ready with the very choices that it publishes (`finish_remoteRepositories`,
`finish_pluginRepositories`).
-/

namespace BuildSession

variable {γ : Type}

/-- The choices that a session publishes. -/
def RepositorySession.injector (s : RepositorySession γ) : Injector where
  mirrors := s.mirrors
  proxies := s.proxies
  authentication := s.authentication

namespace SessionFactory

variable (f : SessionFactory) (r : BuildRequest γ)

/-- An assembly ends with the first part that fails, and with what was recorded up to there. -/
theorem assemble_eq : f.assemble r =
    match ArtifactTypeRegistry.ofSource f.handlers with
    | .error e => ⟨.error (.artifactTypes e), [.askedHandlers]⟩
    | .ok types =>
      match (f.resolveManager r).value with
      | .error e =>
        ⟨.error (.localManager r.localRepository e),
          .askedHandlers :: (f.resolveManager r).records⟩
      | .ok resolution =>
        match (f.decrypter.decrypt r.proxies r.servers).value with
        | .error e =>
          ⟨.error (.decryption e),
            .askedHandlers :: ((f.resolveManager r).records
              ++ .askedDecrypter r.proxies r.servers ::
                (f.decrypter.decrypt r.proxies r.servers).records.map .log)⟩
        | .ok decrypted =>
          ⟨.ok (f.finish r types resolution decrypted).value,
            .askedHandlers :: ((f.resolveManager r).records
              ++ .askedDecrypter r.proxies r.servers ::
                ((f.decrypter.decrypt r.proxies r.servers).records
                  ++ (f.finish r types resolution decrypted).records).map .log)⟩ := by
  unfold assemble
  rcases ArtifactTypeRegistry.ofSource f.handlers with e | types
  · rfl
  rcases f.resolveManager r with ⟨e | resolution, steps⟩
  · simp [bind, pure, Recorded.note]
  rcases f.decrypter.decrypt r.proxies r.servers with ⟨e | decrypted, logs⟩
  · simp [bind, pure, Recorded.note, Recorded.mapRecords]
  · simp [bind, pure, Recorded.note, Recorded.mapRecords]

/-- There is a session exactly if none of the three parts that can fail does. -/
theorem assemble_eq_ok_iff (s : RepositorySession γ) : (f.assemble r).value = .ok s ↔
    ∃ types resolution decrypted,
      ArtifactTypeRegistry.ofSource f.handlers = .ok types
      ∧ (f.resolveManager r).value = .ok resolution
      ∧ (f.decrypter.decrypt r.proxies r.servers).value = .ok decrypted
      ∧ s = (f.finish r types resolution decrypted).value := by
  rw [assemble_eq]
  rcases ArtifactTypeRegistry.ofSource f.handlers with e | types
  · simp
  rcases (f.resolveManager r).value with e | resolution
  · simp
  rcases (f.decrypter.decrypt r.proxies r.servers).value with e | decrypted
  · simp
  · simp [eq_comm]

theorem assemble_eq_error_iff (e : SessionError) : (f.assemble r).value = .error e ↔
    (∃ c, ArtifactTypeRegistry.ofSource f.handlers = .error c ∧ e = .artifactTypes c)
    ∨ (∃ types c, ArtifactTypeRegistry.ofSource f.handlers = .ok types
      ∧ (f.resolveManager r).value = .error c ∧ e = .localManager r.localRepository c)
    ∨ ∃ types resolution c, ArtifactTypeRegistry.ofSource f.handlers = .ok types
      ∧ (f.resolveManager r).value = .ok resolution
      ∧ (f.decrypter.decrypt r.proxies r.servers).value = .error c ∧ e = .decryption c := by
  rw [assemble_eq]
  rcases ArtifactTypeRegistry.ofSource f.handlers with c | types
  · simp [eq_comm]
  rcases (f.resolveManager r).value with c | resolution
  · simp [eq_comm]
  rcases (f.decrypter.decrypt r.proxies r.servers).value with c | decrypted
  · simp [eq_comm]
  · simp

variable (types : ArtifactTypeRegistry) (resolution : ManagerResolution)
  (decrypted : DecryptedSettings)

theorem finish_remoteRepositories :
    (f.finish r types resolution decrypted).value.remoteRepositories
      = (f.finish r types resolution decrypted).value.injector.inject r.remoteRepositories := rfl

theorem finish_pluginRepositories :
    (f.finish r types resolution decrypted).value.pluginRepositories
      = (f.finish r types resolution decrypted).value.injector.inject r.pluginRepositories := rfl

/-- The merge that a session's configuration comes from. -/
def configuration : Recorded LogRecord ConfigMerge :=
  ConfigMerge.ofLayers (f.layers r (ServerAccess.ofServers decrypted.servers).connector)

theorem finish_config : (f.finish r types resolution decrypted).value.config
    = (f.configuration r decrypted).value.properties := rfl

/-- Of a session without failures, overrides are logged first, then the transformers that are in
use, and last that it is there. -/
theorem records_finish : (f.finish r types resolution decrypted).records =
    (f.configuration r decrypted).records
      ++ ((Transformer.compose .install f.installTransformers).records
        ++ ((Transformer.compose .deploy f.deployTransformers).records
          ++ [assembled (f.finish r types resolution decrypted).value
            (f.configuration r decrypted).value.overrides])) := rfl

end SessionFactory

end BuildSession
