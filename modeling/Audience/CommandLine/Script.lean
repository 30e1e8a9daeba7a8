import Audience.Content.Source

namespace Audience

/-! What a program does between its start and its end: it looks at files and reads its input. -/

inductive Script (α : Type) where
  | finished (result : α)
  | looking (path : String) (resume : Disk → Script α)
  | reading (resume : ByteArray → Script α)

namespace Script

def bind {α β : Type} (next : α → Script β) : Script α → Script β
  | finished result => next result
  | looking path resume => looking path fun disk => bind next (resume disk)
  | reading resume => reading fun input => bind next (resume input)

instance : Monad Script where
  pure := finished
  bind script next := bind next script

/-- What stands under a path. -/
def look (path : String) : Script Disk := looking path finished

/-- The whole standard input. -/
def input : Script ByteArray := reading finished

/-- The result among given files and with a given input. -/
def result {α : Type} (disk : String → Disk) (input : ByteArray) : Script α → α
  | finished result => result
  | looking path resume => (resume (disk path)).result disk input
  | reading resume => (resume input).result disk input

end Script

end Audience
