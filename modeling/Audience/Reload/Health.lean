import Audience.Reload.Cache

namespace Audience

/-! How well readers are served. -/

inductive HealthState where
  | healthy
  | degraded
  | unhealthy
deriving Repr, DecidableEq

namespace HealthState

def name : HealthState → String
  | healthy => "healthy"
  | degraded => "degraded"
  | unhealthy => "unhealthy"

/-- Without content a service is unhealthy; with content that failed to be renewed, degraded. -/
def judge (hasContent : Bool) (failures : Nat) : HealthState :=
  if !hasContent then unhealthy else if failures = 0 then healthy else degraded

end HealthState

structure Health where
  state : HealthState
  status : LoadStatus
  versions : List String
deriving Repr, DecidableEq

def Cache.health (cache : Cache) : Health :=
  ⟨.judge cache.current.isSome cache.status.failures, cache.status, cache.versions⟩

end Audience
