import BinaryDiff.Log.Event

/-! # Bound fields

While some work goes on, a field may be bound to a value that every event of the work then has,
unless it has a field of that name by itself. Fields are bound by the library that writes the log.
What is relied on is that it binds the field that it is told to bind, and afterwards binds that to
what it was bound to before (`Binder.Restores`). -/

namespace BinaryDiff

/-- The values that fields are bound to at a time. -/
abbrev Bindings := String → Option LogValue

namespace Bindings

/-- The bindings with another value for a field, or none. -/
def set (bindings : Bindings) (key : String) (value : Option LogValue) : Bindings :=
  fun other => if other = key then value else bindings other

/-- An event with the value that a field is bound to. -/
def mark (bindings : Bindings) (key : String) (event : LogEvent) : LogEvent :=
  match bindings key with
  | some value => event.bind key value
  | none => event

end Bindings

/-- What binds fields for a time. -/
structure Binder where
  /-- What is kept while a field is bound. -/
  Saved : Type
  /-- Binds a field to a value. -/
  enter : String → LogValue → Bindings → Saved × Bindings
  /-- Gives the field back. -/
  leave : Saved → Bindings → Bindings

namespace Binder

/-- Whether a binder does what it is there for: it binds the field and no other, and gives it back
with what it was bound to before, whatever has become of the bindings since. -/
structure Restores (binder : Binder) : Prop where
  binds (key : String) (value : LogValue) (bindings : Bindings) :
    (binder.enter key value bindings).2 = bindings.set key (some value)
  restores (key : String) (value : LogValue) (bindings left : Bindings) :
    binder.leave (binder.enter key value bindings).1 left = left.set key (bindings key)

/-- Does some work while a field is bound. The field is given back however the work ends. -/
def during {α : Type} (binder : Binder) (key : String) (value : LogValue) (bindings : Bindings)
    (work : Bindings → α × Bindings) : α × Bindings :=
  let (saved, inner) := binder.enter key value bindings
  let (result, left) := work inner
  (result, binder.leave saved left)

end Binder
end BinaryDiff
