import Audience.Content.Tree

namespace Audience

/-! The content that readers are answered from, and the record of the loads that brought it. -/

inductive LoadState where
  | uninitialized
  | loading
  | ready
deriving Repr, DecidableEq

def LoadState.name : LoadState → String
  | uninitialized => "uninitialized"
  | loading => "loading"
  | ready => "ready"

/-- The content of all data versions as one load found it.  Later loads have higher generations. -/
structure Snapshot where
  generation : Nat
  catalog : Catalog
deriving Repr

/-- What became of the loads so far. -/
structure LoadStatus where
  state : LoadState
  /-- The generation of the last published content, zero before the first. -/
  generation : Nat
  everSucceeded : Bool
  /-- The last failure since content was last published. -/
  lastError : Option String
  /-- The number of failures since content was last published. -/
  failures : Nat
deriving Repr, DecidableEq

def LoadStatus.initial : LoadStatus := ⟨.uninitialized, 0, false, none, 0⟩

structure Cache where
  current : Option Snapshot
  status : LoadStatus
deriving Repr

namespace Cache

def empty : Cache := ⟨none, .initial⟩

def beginLoad (cache : Cache) : Cache :=
  { cache with status := { cache.status with state := .loading } }

/-- Content found by a load takes the place of what was there. -/
def publish (cache : Cache) (catalog : Catalog) : Cache :=
  let generation := cache.status.generation + 1
  ⟨some ⟨generation, catalog⟩, ⟨.ready, generation, true, none, 0⟩⟩

/-- A failed load leaves the content as it is. -/
def recordFailure (cache : Cache) (message : String) : Cache :=
  { cache with
    status := { cache.status with
      state := .loading, lastError := some message, failures := cache.status.failures + 1 } }

def isReady (cache : Cache) : Bool :=
  cache.status.state == .ready

/-- The data versions that readers can ask for. -/
def versions (cache : Cache) : List String :=
  cache.current.elim [] fun snapshot => snapshot.catalog.keys

@[simp] theorem current_beginLoad (cache : Cache) : cache.beginLoad.current = cache.current := rfl

@[simp] theorem current_publish (cache : Cache) (catalog : Catalog) :
    (cache.publish catalog).current = some ⟨cache.status.generation + 1, catalog⟩ := rfl

@[simp] theorem current_recordFailure (cache : Cache) (message : String) :
    (cache.recordFailure message).current = cache.current := rfl

end Cache

end Audience
