/-
# Events

What the engine tells a listener while it works, and the channel on which it does.
The channel holds a limited number of events. When it is full, further events are
dropped with a warning; when nobody listens any more, they are dropped silently.
-/

namespace DnsReconcile

/-- Something that happened to a zone. -/
inductive Event where
  | zoneStarted (zone : String)
  /-- The number of corrections is known. -/
  | zonePlanned (zone : String) (corrections : Nat)
  | correctionApplied (zone message : String)
  | correctionFailed (zone message error : String)
  /-- The zone was given up before anything was changed. -/
  | zoneFailed (zone error : String)
  | zoneApplied (zone : String) (applied failed : Nat)
deriving Repr, DecidableEq

/-- The zone that an event is about. -/
def Event.zone : Event → String
  | .zoneStarted zone | .zonePlanned zone _ | .correctionApplied zone _
  | .correctionFailed zone _ _ | .zoneFailed zone _ | .zoneApplied zone _ _ => zone

/-- The way from the engine to a listener. -/
structure Channel where
  /-- How many events are held at most, at least one. -/
  capacity : Nat
  /-- Whether somebody listens. -/
  listening : Bool := true
  /-- The events that have not been received yet. -/
  held : List Event := []
deriving Repr, DecidableEq

namespace Channel

/-- An empty channel. -/
def ofCapacity (capacity : Nat) : Channel where
  capacity := max capacity 1

/-- The warning that an event is lost. -/
def fullWarning : String :=
  "Event channel full, dropping event. Consider increasing event_channel_capacity."

/-- Send an event, with the warnings this gives rise to. -/
def send (channel : Channel) (event : Event) : List String × Channel :=
  if !channel.listening then ([], channel)
  else if channel.held.length < channel.capacity then
    ([], { channel with held := channel.held ++ [event] })
  else ([fullWarning], channel)

/-- Receive everything that is held. -/
def receive (channel : Channel) : List Event × Channel :=
  (channel.held, { channel with held := [] })

/-- Stop listening. -/
def close (channel : Channel) : Channel :=
  { channel with listening := false, held := [] }

end Channel

end DnsReconcile
