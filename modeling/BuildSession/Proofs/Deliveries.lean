import BuildSession.Proofs.Assembly
import Mathlib.Data.List.Basic

/-!
# Who is told what

Dispatchers chain their spies behind a listener one after the other, and whatever the listener is
put together from, the spies of each come behind those of the ones before it
(`recipients_chainedBy`). A dispatcher without spies could as well be left out
(`chainedBy_filter`). A listener sends each event to its recipients in order, before the next event
(`told_chainedBy`), so everyone receives the events that were sent, in their order and as often as
they are registered (`received_told`).
-/

namespace BuildSession

namespace EventDispatcher

/-- The dispatcher that spies have registered with, one after the other. -/
def registering (spies : List Spy) : EventDispatcher :=
  spies.foldl withSpy {}

theorem spies_foldl_withSpy : ∀ (spies : List Spy) (d : EventDispatcher),
    (spies.foldl withSpy d).spies = d.spies ++ spies
  | [], d => (List.append_nil d.spies).symm
  | spy :: spies, d => by
    rw [List.foldl_cons, spies_foldl_withSpy spies, withSpy, List.append_assoc,
      List.singleton_append]

theorem spies_registering (spies : List Spy) : (registering spies).spies = spies := by
  rw [registering, spies_foldl_withSpy, List.nil_append]

theorem registering_spies (d : EventDispatcher) : registering d.spies = d := by
  have hspies := spies_registering d.spies
  rcases d with ⟨spies⟩
  exact congrArg EventDispatcher.mk hspies

theorem chainListener_of_nil {d : EventDispatcher} (h : d.spies = []) (l : Listener) :
    d.chainListener l = l := by
  rw [chainListener, h]
  rfl

theorem recipients_chainListener (d : EventDispatcher) (l : Listener) :
    (d.chainListener l).recipients = l.recipients ++ d.spies.map .spy := by
  unfold chainListener
  split
  · next h => rw [List.isEmpty_iff.1 h, List.map_nil, List.append_nil]
  · rfl

end EventDispatcher

namespace Listener

/-- The listener with the spies of one dispatcher after the other chained behind it. -/
def chainedBy (l : Listener) (ds : List EventDispatcher) : Listener :=
  ds.foldl (fun l d => d.chainListener l) l

theorem chainedBy_cons (l : Listener) (d : EventDispatcher) (ds : List EventDispatcher) :
    l.chainedBy (d :: ds) = (d.chainListener l).chainedBy ds := rfl

/-- The spies of a dispatcher are told after everyone who was there before it. -/
theorem recipients_chainedBy : ∀ (ds : List EventDispatcher) (l : Listener),
    (l.chainedBy ds).recipients = l.recipients ++ (ds.flatMap (·.spies)).map .spy
  | [], l => (List.append_nil l.recipients).symm
  | d :: ds, l => by
    rw [chainedBy_cons, recipients_chainedBy ds, d.recipients_chainListener, List.flatMap_cons,
      List.map_append, List.append_assoc]

/-- A dispatcher without spies could as well be left out. -/
theorem chainedBy_filter : ∀ (ds : List EventDispatcher) (l : Listener),
    l.chainedBy (ds.filter fun d => !d.spies.isEmpty) = l.chainedBy ds
  | [], _ => rfl
  | d :: ds, l => by
    rw [List.filter_cons, chainedBy_cons]
    by_cases h : d.spies = []
    · rw [EventDispatcher.chainListener_of_nil h, h]
      exact chainedBy_filter ds l
    · rw [if_pos (by simpa using h), chainedBy_cons]
      exact chainedBy_filter ds _

/-- The deliveries of some events, sent one after the other. -/
def told (l : Listener) (es : List RepositoryEvent) : List Delivery :=
  es.flatMap l.deliveries

theorem deliveries_chainedBy (ds : List EventDispatcher) (l : Listener) (e : RepositoryEvent) :
    (l.chainedBy ds).deliveries e
      = l.deliveries e ++ (ds.flatMap (·.spies)).map fun spy => ⟨.spy spy, e⟩ := by
  rw [deliveries, recipients_chainedBy, List.map_append, List.map_map]
  rfl

theorem told_chainedBy (ds : List EventDispatcher) (l : Listener) (es : List RepositoryEvent) :
    (l.chainedBy ds).told es
      = es.flatMap fun e => l.deliveries e
        ++ (ds.flatMap (·.spies)).map fun spy => ⟨.spy spy, e⟩ :=
  congrArg es.flatMap (funext (deliveries_chainedBy ds l))

end Listener

/-- The events that a recipient is told, in order. -/
def Recipient.received (r : Recipient) (deliveries : List Delivery) : List RepositoryEvent :=
  (deliveries.filter (·.recipient = r)).map (·.event)

theorem Recipient.received_deliveries (r : Recipient) (l : Listener) (e : RepositoryEvent) :
    r.received (l.deliveries e) = List.replicate (l.recipients.count r) e := by
  have hfilter : l.recipients.filter ((fun d : Delivery => decide (d.recipient = r)) ∘ (⟨·, e⟩))
      = List.replicate (l.recipients.count r) r :=
    List.filter_eq r
  rw [received, Listener.deliveries, List.filter_map, hfilter, List.map_map, List.map_replicate]
  rfl

/-- Everyone receives each event as often as they stand among the recipients, and in the order in
which the events were sent. -/
theorem Recipient.received_told (r : Recipient) (l : Listener) (es : List RepositoryEvent) :
    r.received (l.told es) = es.flatMap (List.replicate (l.recipients.count r)) := by
  rw [received, Listener.told, List.filter_flatMap, List.map_flatMap]
  exact congrArg es.flatMap (funext (r.received_deliveries l))

/-- The listener of a session tells the factory's listener, and then the spies of its dispatcher. -/
theorem SessionFactory.told_of_assemble {γ : Type} {f : SessionFactory} {r : BuildRequest γ}
    {s : RepositorySession γ} (h : (f.assemble r).value = .ok s) (es : List RepositoryEvent) :
    s.listener.told es
      = es.flatMap fun e => f.listener.deliveries e
        ++ f.dispatcher.spies.map fun spy => ⟨.spy spy, e⟩ := by
  obtain ⟨types, resolution, decrypted, -, -, -, rfl⟩ := (f.assemble_eq_ok_iff r s).1 h
  have hchained := Listener.told_chainedBy [f.dispatcher] f.listener es
  rwa [List.flatMap_singleton] at hchained

/-- Events are delivered one after the other, each to the listener and then to the spies, by
dispatcher and in order of registration. So everyone is told each event as often as they are
registered. Dispatchers without spies leave no trace. -/
theorem chained_tell_listener_then_spies (l : Listener) (ds : List EventDispatcher)
    (es : List RepositoryEvent) :
    let spies := ds.flatMap (·.spies)
    (l.chainedBy ds).told es
        = es.flatMap (fun e => l.deliveries e ++ spies.map fun spy => ⟨.spy spy, e⟩)
      ∧ (∀ listener : SingleListener, ((Listener.single listener).chainedBy ds).told es
        = es.flatMap fun e => ⟨.listener listener, e⟩ :: spies.map fun spy => ⟨.spy spy, e⟩)
      ∧ (∀ r : Recipient, r.received ((l.chainedBy ds).told es)
        = es.flatMap (List.replicate ((l.recipients ++ spies.map Recipient.spy).count r)))
      ∧ (∀ d : EventDispatcher, .registering d.spies = d)
      ∧ l.chainedBy (ds.filter fun d => !d.spies.isEmpty) = l.chainedBy ds := by
  intro spies
  have htold := Listener.told_chainedBy ds
  refine ⟨htold l es, fun listener => htold (.single listener) es, fun r => ?_,
    EventDispatcher.registering_spies, Listener.chainedBy_filter ds l⟩
  rw [Recipient.received_told, Listener.recipients_chainedBy]

end BuildSession
