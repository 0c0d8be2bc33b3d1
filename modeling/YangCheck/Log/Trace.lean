import YangCheck.Log.Marking

namespace YangCheck.Log

/-- Something that a run lets be seen while it goes on. -/
inductive Note where
  | event (event : Event)
  /-- The one who writes the event adds how long the work took. -/
  | timed (event : Event)
  | output (text : String)
  | diagnostic (text : String)
deriving DecidableEq, Repr

def Note.inFile (file : FileContext) : Note → Note
  | .event e => .event (file.mark e)
  | .timed e => .timed (file.mark e)
  | note => note

/-- A value and the notes made on the way to it, oldest first. -/
structure Traced (α : Type) where
  value : α
  notes : List Note := []

namespace Traced

instance : Monad Traced where
  pure a := ⟨a, []⟩
  bind x f :=
    let y := f x.value
    ⟨y.value, x.notes ++ y.notes⟩

@[simp] theorem value_pure {α : Type} (a : α) : (pure a : Traced α).value = a := rfl

@[simp] theorem value_bind {α β : Type} (x : Traced α) (f : α → Traced β) :
    (x >>= f).value = (f x.value).value := rfl

@[simp] theorem notes_pure {α : Type} (a : α) : (pure a : Traced α).notes = [] := rfl

@[simp] theorem notes_bind {α β : Type} (x : Traced α) (f : α → Traced β) :
    (x >>= f).notes = x.notes ++ (f x.value).notes := rfl

def note (n : Note) : Traced Unit :=
  ⟨(), [n]⟩

def noteAll (ns : List Note) : Traced Unit :=
  ⟨(), ns⟩

def event (e : Event) : Traced Unit :=
  note (.event e)

def timed (e : Event) : Traced Unit :=
  note (.timed e)

def events (es : List Event) : Traced Unit :=
  noteAll (es.map .event)

def output (text : String) : Traced Unit :=
  note (.output text)

def diagnostic (text : String) : Traced Unit :=
  note (.diagnostic text)

/-- Marks the events made on the way with the file that they are about. -/
def inFile {α : Type} (file : FileContext) (x : Traced α) : Traced α :=
  ⟨x.value, x.notes.map (Note.inFile file)⟩

@[simp] theorem value_note (n : Note) : (note n).value = () := rfl

@[simp] theorem value_inFile {α : Type} (file : FileContext) (x : Traced α) :
    (inFile file x).value = x.value := rfl

end Traced

end YangCheck.Log
