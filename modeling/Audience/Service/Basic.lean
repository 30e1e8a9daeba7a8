import Audience.Reload.Reloader

namespace Audience

/-! A content service: a reloader, those who wait for content, and a poller that looks after the
content file. -/

/-- When a file was written, counted in writes; nothing while there is no file. -/
abbrev Modified := Option Nat

structure Poller where
  /-- What it knows of the file; nothing before its first look. -/
  seen : Option Modified
  /-- What it has just found out and not yet compared with what it knew. -/
  found : Option Modified
deriving Repr, DecidableEq

structure Service where
  reloader : Reloader
  modified : Modified
  /-- The number of writes to the file. -/
  writes : Nat
  poller : Option Poller
  /-- Those who wait for content, by their tickets. -/
  waiting : List Nat
  /-- The number of loads outside the reloader. -/
  checks : Nat

namespace Service

def ofSource (source : Source) : Service :=
  { reloader := .ofSource source
    modified := match source with
      | .file _ (.file _) | .file _ .directory => some 0
      | _ => none
    writes := 0, poller := none, waiting := [], checks := 0 }

inductive Step where
  /-- A step of the reloader that leaves the file alone. -/
  | reload (step : Reloader.Step)
  | writeFile (bytes : ByteArray)
  | deleteFile
  /-- Sets up a poller in place of any other. -/
  | watch
  | unwatch
  /-- The first look of the poller at the file. -/
  | firstLook
  /-- A later look of the poller at the file. -/
  | look
  /-- The poller compares what it found with what it knew, and tells of a difference. -/
  | compare
  /-- Somebody asks for content. -/
  | ask (ticket : Nat)
  /-- Somebody who asked gets the present content. -/
  | answer (ticket : Nat)
  /-- Somebody who asked goes away without content. -/
  | giveUp (ticket : Nat)
  /-- Somebody begins to load content for themselves. -/
  | check

/-- Changes the file. -/
def setDisk (service : Service) (disk : Disk) (modified : Modified) : Option Service :=
  (service.reloader.step (.setDisk disk)).map fun reloader =>
    { service with reloader, modified }

/-- The service after a step; nothing when the step is not possible. -/
def step (service : Service) : Step → Option Service
  | .reload (.setDisk _) => none
  | .reload inner => (service.reloader.step inner).map fun reloader => { service with reloader }
  | .writeFile bytes =>
      let writes := service.writes + 1
      { service with writes }.setDisk (.file bytes) (some writes)
  | .deleteFile => service.setDisk .missing none
  | .watch => some { service with poller := some ⟨none, none⟩ }
  | .unwatch => some { service with poller := none }
  | .firstLook =>
      match service.poller with
      | some ⟨none, none⟩ => some { service with poller := some ⟨some service.modified, none⟩ }
      | _ => none
  | .look =>
      match service.poller with
      | some ⟨some known, none⟩ =>
          some { service with poller := some ⟨some known, some service.modified⟩ }
      | _ => none
  | .compare =>
      match service.poller with
      | some ⟨some known, some found⟩ =>
          let informed := { service with poller := some ⟨some found, none⟩ }
          if found = known then some informed
          else some { informed with reloader := service.reloader.announce }
      | _ => none
  | .ask ticket => some { service with waiting := service.waiting ++ [ticket] }
  | .answer ticket =>
      if ticket ∈ service.waiting ∧ service.reloader.cache.current.isSome then
        some { service with waiting := service.waiting.erase ticket }
      else none
  | .giveUp ticket =>
      if ticket ∈ service.waiting ∧ service.reloader.cache.current.isNone then
        some { service with waiting := service.waiting.erase ticket }
      else none
  | .check => some { service with checks := service.checks + 1 }

def current (service : Service) : Option Snapshot := service.reloader.cache.current

def source (service : Service) : Source := service.reloader.source

/-- The number of loads from the source. -/
def loads (service : Service) : Nat := service.reloader.loads + service.checks

end Service

end Audience
