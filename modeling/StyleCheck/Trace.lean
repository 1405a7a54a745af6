/-
# Traces

What a check leaves behind besides its result: notes for the log, and the calls
of the external analyzer, in the order in which they happened. A note that would
show a number of too many digits cannot be written: the log goes on without it,
and whoever keeps the notes as they come stops there.

Key definitions: `Level`, `Component`, `Event`, `Traced`, `Traced.keptFrom`.
Key theorems: `Traced.value_bind`, `Traced.events_bind`.
-/
import StyleCheck.Analyzer.Call
import StyleCheck.Value

namespace StyleCheck

/-- How important a note is. -/
inductive Level where
  | debug
  | info
  | warning
  | error
  deriving DecidableEq, Repr, Inhabited

namespace Level

/-- The levels, least important first. -/
def all : List Level := [debug, info, warning, error]

/-- The place in the order: higher is more important. -/
def rank : Level → Nat
  | debug => 0
  | info => 1
  | warning => 2
  | error => 3

/-- The word for a level in log lines. -/
def label : Level → String
  | debug => "DEBUG"
  | info => "INFO"
  | warning => "WARNING"
  | error => "ERROR"

/-- The word for a level on the command line. -/
def name : Level → String
  | debug => "debug"
  | info => "info"
  | warning => "warning"
  | error => "error"

end Level

/-- The part of the checker that writes a note. -/
inductive Component where
  | settings
  | functionLength
  | synthesis
  | analyzer
  | service
  deriving DecidableEq, Repr, Inhabited

/-- The name of a component in log lines. -/
def Component.label : Component → String
  | settings => "cubtek_checker.rules.config"
  | functionLength => "cubtek_checker.rules.function_length"
  | synthesis => "cubtek_checker.diagnostics.synthesizer"
  | analyzer => "cubtek_checker.adapters.clang_tidy"
  | service => "cubtek_checker.service"

/-- A note for the log. -/
structure Note where
  level : Level
  component : Component
  message : String
  deriving DecidableEq, Repr, Inhabited

/-- The line that a note makes in the log. -/
def Note.line (note : Note) : String :=
  note.level.label ++ " " ++ note.component.label ++ ": " ++ note.message

/-- Something that happened on the way to a result. -/
inductive Event where
  | note (note : Note)
  /-- A note that cannot be written. -/
  | unwritable (level : Level)
  | call (call : Call)
  deriving Repr, Inhabited

/-- The notes among some events that are at least as important as `level`. -/
def notesFrom (level : Level) (events : List Event) : List Note :=
  events.filterMap fun
    | .note note => if level.rank ≤ note.level.rank then some note else none
    | _ => none

/-- The analyzer's calls among some events. -/
def callsOf (events : List Event) : List Call :=
  events.filterMap fun
    | .call call => some call
    | _ => none

/-- A note at least as important as `level` that cannot be written. -/
def Event.isUnwritableFrom (level : Level) : Event → Bool
  | .unwritable own => level.rank ≤ own.rank
  | _ => false

/-- A result with the events on the way to it. -/
structure Traced (α : Type) where
  value : α
  events : List Event
  deriving Inhabited

namespace Traced

/-- A result without events. -/
protected def pure {α : Type} (a : α) : Traced α := ⟨a, []⟩

/-- One step after another. -/
protected def bind {α β : Type} (x : Traced α) (f : α → Traced β) : Traced β :=
  let y := f x.value
  ⟨y.value, x.events ++ y.events⟩

instance : Monad Traced where
  pure := Traced.pure
  bind := Traced.bind

/-- Leaves a note. -/
def note (level : Level) (component : Component) (message : String) : Traced Unit :=
  ⟨(), [.note ⟨level, component, message⟩]⟩

/-- Leaves a note that ends by showing a value. -/
def noteOf (level : Level) (component : Component) (message : String) (value : Value) :
    Traced Unit :=
  if value.isWritable then note level component (message ++ String.ofList value.shown)
  else ⟨(), [.unwritable level]⟩

/-- The result for someone who keeps the notes from a level on as they come: the
first of them that cannot be written ends everything, and there is no result. -/
def keptFrom {α : Type} (level : Level) (x : Traced α) : Traced (Except NumberError α) :=
  if x.events.any (Event.isUnwritableFrom level) then
    ⟨.error .tooLong, x.events.takeWhile fun event => !event.isUnwritableFrom level⟩
  else ⟨.ok x.value, x.events⟩

/-- Records a call of the analyzer. -/
def call (c : Call) : Traced Unit :=
  ⟨(), [.call c]⟩

@[simp] theorem value_pure {α : Type} (a : α) : (pure a : Traced α).value = a := rfl

@[simp] theorem events_pure {α : Type} (a : α) : (pure a : Traced α).events = [] := rfl

@[simp] theorem value_bind {α β : Type} (x : Traced α) (f : α → Traced β) :
    (x >>= f).value = (f x.value).value := rfl

@[simp] theorem events_bind {α β : Type} (x : Traced α) (f : α → Traced β) :
    (x >>= f).events = x.events ++ (f x.value).events := rfl

end Traced

end StyleCheck
