import LiveModels.Compiled.Module
import LiveModels.Registry.Basic
import LiveModels.Snapshot.Basic

/-!
# Generations

A generation is a complete set of models, which is built before it is published and never changes
afterwards.
-/

namespace LiveModels

/-- A set of models. -/
structure Generation where
  version : UInt64
  fingerprint : Option String
  snapshot : Option Snapshot
  /-- The bundle from which the module was compiled. -/
  source : String
  module : Option Module
  registry : Registry
  createdAt : String
  /-- Why there are no models, in a generation that stands in for a first build that failed. -/
  error : Option String
  deriving Inhabited

namespace Generation

/-- The generation without models that stands in for a first build that failed. -/
def degraded (version : UInt64) (createdAt error : String) : Generation :=
  ⟨version, none, none, "", none, .empty, createdAt, some error⟩

/-- Whether a generation stands in for a first build that failed. -/
def isDegraded (g : Generation) : Bool :=
  g.error.isSome

end Generation

end LiveModels
