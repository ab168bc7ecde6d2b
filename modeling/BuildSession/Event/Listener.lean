import BuildSession.Event.Log
import BuildSession.Event.Stream

/-!
# Listeners and spies

A listener is told every event. A dispatcher puts a listener and its spies together to a listener
that tells the former first and then the spies in order of registration; without spies it gives
the listener back as it is. `Listener.deliveries` lists who is told, in order, and
`Delivery.effect` what comes of it.
-/

namespace BuildSession

/-- A listener that is not put together from others. -/
inductive SingleListener where
  | noop
  | logging
  /-- Passes events on to whoever has this name. -/
  | named (name : String)
  deriving DecidableEq

/-- Someone who is told events besides the listener. -/
inductive Spy where
  /-- Writes events to a stream, those that can be written. -/
  | stream
  /-- Passes events on to whoever has this name. -/
  | named (name : String)
  deriving DecidableEq

inductive Recipient where
  | listener (listener : SingleListener)
  | spy (spy : Spy)
  deriving DecidableEq

/-- An event on its way to one recipient. -/
structure Delivery where
  recipient : Recipient
  event : RepositoryEvent
  deriving DecidableEq

inductive DeliveryEffect where
  | nothing
  | logged (record : LogRecord)
  | written (line : String)
  | toldListener (name : String) (event : RepositoryEvent)
  | toldSpy (name : String) (event : RepositoryEvent)
  deriving DecidableEq

def Delivery.effect (d : Delivery) : DeliveryEffect :=
  match d.recipient with
  | .listener .noop => .nothing
  | .listener .logging => .logged d.event.log
  | .listener (.named name) => .toldListener name d.event
  | .spy .stream =>
    match d.event.textual? with
    | some e => .written (EventStream.line e)
    | none => .logged EventStream.unwritable
  | .spy (.named name) => .toldSpy name d.event

/-- A listener: a single one, or one that has spies told after it. -/
inductive Listener where
  | single (listener : SingleListener)
  | chained (listener : Listener) (spies : List Spy)
  deriving DecidableEq

namespace Listener

def recipients : Listener → List Recipient
  | single listener => [.listener listener]
  | chained listener spies => listener.recipients ++ spies.map .spy

def deliveries (l : Listener) (e : RepositoryEvent) : List Delivery :=
  l.recipients.map fun r => ⟨r, e⟩

end Listener

/-- The spies to be told of events, in order of registration. -/
structure EventDispatcher where
  spies : List Spy := []

namespace EventDispatcher

def withSpy (d : EventDispatcher) (spy : Spy) : EventDispatcher :=
  ⟨d.spies ++ [spy]⟩

/-- The listener that also tells the spies. -/
def chainListener (d : EventDispatcher) (l : Listener) : Listener :=
  if d.spies.isEmpty then l else .chained l d.spies

end EventDispatcher

end BuildSession
