import ParcelStatus.Text.Case
import ParcelStatus.Tracking.Event

/-!
# Histories

Ordering the trail of a shipment and cutting it at the first event that mentions a phrase.

* `sortEvents` — a stable sort by date, the oldest or the newest event first;
* `trimEvents` — the events from the earliest match of a phrase on, the newest first;
* `filterEvents` — the same on request: a blank phrase leaves the trail as it is.
-/

namespace ParcelStatus

open Text

/-- Events by date, the oldest first. Of two events the second one goes in front only if its date
comes before that of the first. -/
def sortOldestFirst (events : List TrackingEvent) : List TrackingEvent :=
  events.mergeSort fun a b => !b.date.isBefore a.date

/-- Events by date. With the newest event first the trail is turned round before it is sorted and
again behind that, so events that are not told apart keep their order in both directions. -/
def sortEvents (events : List TrackingEvent) (newestFirst : Bool) : List TrackingEvent :=
  if newestFirst then (sortOldestFirst events.reverse).reverse else sortOldestFirst events

/-- The event mentions the phrase, in whatever case. -/
def TrackingEvent.mentions (needle : Text) (e : TrackingEvent) : Bool :=
  occursIn needle (fold e.description) || occursIn needle (fold e.exceptionDescription)

/-- The events from the earliest one on that mentions the phrase, the newest first. -/
def trimEvents (needle : Text) (events : List TrackingEvent) : List TrackingEvent :=
  ((sortEvents events false).dropWhile fun e => !e.mentions needle).reverse

/-- The phrase that a filter looks for. -/
def needleOf (filter : Text) : Text := fold (trim filter)

/-- The trail behind a filter; a blank filter leaves it as it is. -/
def filterEvents (filter : Text) (events : List TrackingEvent) : List TrackingEvent :=
  if needleOf filter = [] then events else trimEvents (needleOf filter) events

/-- The filter of a value of a request. -/
def filterOf (v : Json) : Except Json.KindFault Text := v.textFor .trimming

end ParcelStatus
