import BuildSession.Repository.Pattern
import BuildSession.Settings.Mirror

/-!
# The choice of a mirror

Of the rules that accept a repository's layout, the first that names its id outright is taken, and
only if there is none the first whose pattern matches it. The mirror keeps the policies of the
repository it stands in for, but neither its proxy nor its credentials.
-/

namespace BuildSession

namespace Mirror

/-- Whether the rule names exactly this repository and accepts its layout. -/
def namesExactly (m : Mirror) (r : RemoteRepository) : Bool :=
  m.mirrorOf == r.id && matchesLayout r.layout m.mirrorOfLayouts

/-- Whether the rule's patterns match the repository and its layout. -/
def covers (m : Mirror) (r : RemoteRepository) : Bool :=
  r.matchesPattern m.mirrorOf && matchesLayout r.layout m.mirrorOfLayouts

/-- The repository that the rule puts in place of another. -/
def standIn (m : Mirror) (r : RemoteRepository) : RemoteRepository where
  id := m.id
  url := m.url
  layout := if m.layout.isEmpty then r.layout else m.layout
  releases := r.releases
  snapshots := r.snapshots
  blocked := m.blocked
  mirrored := [r]

end Mirror

structure MirrorSelector where
  rules : List Mirror := []

namespace MirrorSelector

def add (s : MirrorSelector) (rule : Mirror) : MirrorSelector :=
  ⟨s.rules ++ [rule]⟩

def find? (s : MirrorSelector) (r : RemoteRepository) : Option Mirror :=
  if r.id.isEmpty then none
  else (s.rules.find? (·.namesExactly r)).or (s.rules.find? (·.covers r))

def mirrorIdFor (s : MirrorSelector) (r : RemoteRepository) : Option String :=
  (s.find? r).map (·.id)

def mirrorFor (s : MirrorSelector) (r : RemoteRepository) : Option RemoteRepository :=
  (s.find? r).map (·.standIn r)

end MirrorSelector

end BuildSession
