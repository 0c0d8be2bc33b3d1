import YangCheck.Log.Event

namespace YangCheck.Log

structure FileContext where
  path : String
  id : Nat
deriving DecidableEq, Repr

/-- The file takes the place of a file that the event names itself. -/
def FileContext.mark (file : FileContext) (event : Event) : Event :=
  (event.add "file" file.path).add "file_id" (toString file.id)

/-- The file that events are marked with for the time being. -/
structure Marking where
  file? : Option FileContext := none
deriving DecidableEq, Repr

namespace Marking

def set (_ : Marking) (file : FileContext) : Marking :=
  ⟨some file⟩

def clear (_ : Marking) : Marking :=
  ⟨none⟩

def mark (marking : Marking) (event : Event) : Event :=
  marking.file?.elim event (·.mark event)

/-- Marks with a file while `work` is done. Nothing is marked behind it, whatever was before. -/
def during {α : Type} (marking : Marking) (file : FileContext) (work : Marking → α) :
    α × Marking :=
  let inside := marking.set file
  (work inside, inside.clear)

end Marking

end YangCheck.Log
