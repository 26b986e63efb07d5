import ParcelStatus.Json.Display
import ParcelStatus.Text.Case

/-!
# Shipment states

The vocabulary that every carrier's codes and words end in, the part of it that is kept, and the two
carriers.

* `Status` — the states; `Status.text` is the written form;
* `Status.isInternal` — states that the engine alone knows; `Status.narrowed` folds them into the
  states that are kept;
* `Status.needsReview` — nothing is known about the shipment;
* `Carrier.ofJson` — a carrier by its name in any case.
-/

namespace ParcelStatus

open Text

/-- The state of a shipment. -/
inductive Status where
  | recoleccion
  | recibidoEnBodega
  | pendiente
  | enRuta
  | enTransito
  | entregado
  | noEntregado
  | desconocido
  | rechazado
  | devueltoAFedex
  | esOcurre
  | enBodega
  | retenidoPorFedex
  | estacionFedex
  | llegadoDespues
  | direccionIncorrecta
  | clienteNoDisponible
  | acargoDeFedex
  | retornoAbandonoFedex
  | cambioFechaSolicitado
deriving DecidableEq, Repr

namespace Status

/-- All states. -/
def all : List Status :=
  [recoleccion, recibidoEnBodega, pendiente, enRuta, enTransito, entregado, noEntregado,
   desconocido, rechazado, devueltoAFedex, esOcurre, enBodega, retenidoPorFedex, estacionFedex,
   llegadoDespues, direccionIncorrecta, clienteNoDisponible, acargoDeFedex,
   retornoAbandonoFedex, cambioFechaSolicitado]

/-- The written form of a state. -/
def text : Status → Text
  | recoleccion => "recoleccion".toList
  | recibidoEnBodega => "recibido_en_bodega".toList
  | pendiente => "pendiente".toList
  | enRuta => "en_ruta".toList
  | enTransito => "en_transito".toList
  | entregado => "entregado".toList
  | noEntregado => "no_entregado".toList
  | desconocido => "desconocido".toList
  | rechazado => "rechazado".toList
  | devueltoAFedex => "devuelto_a_fedex".toList
  | esOcurre => "es_ocurre".toList
  | enBodega => "en_bodega".toList
  | retenidoPorFedex => "retenido_por_fedex".toList
  | estacionFedex => "estacion_fedex".toList
  | llegadoDespues => "llegado_despues".toList
  | direccionIncorrecta => "direccion_incorrecta".toList
  | clienteNoDisponible => "cliente_no_disponible".toList
  | acargoDeFedex => "acargo_de_fedex".toList
  | retornoAbandonoFedex => "retorno_abandono_fedex".toList
  | cambioFechaSolicitado => "cambio_fecha_solicitado".toList

/-- The name of a state, its written form in capitals. -/
def name (s : Status) : Text := s.text.map Char.toUpper

/-- The state of a written form. -/
def ofText? (t : Text) : Option Status := all.find? (·.text = t)

/-- The states that the engine alone knows. -/
def isInternal : Status → Bool
  | acargoDeFedex | retornoAbandonoFedex | cambioFechaSolicitado => true
  | _ => false

/-- The states that are kept. -/
def isPersisted (s : Status) : Bool := !s.isInternal

/-- The kept state for a state of the engine. -/
def narrowed : Status → Status
  | acargoDeFedex => enRuta
  | retornoAbandonoFedex => devueltoAFedex
  | cambioFechaSolicitado => pendiente
  | s => s

/-- Nothing is known about the shipment, so a person has to look. -/
def needsReview (s : Status) : Bool := s = desconocido

theorem isInternal_narrowed (s : Status) : s.narrowed.isInternal = false := by
  cases s <;> rfl

theorem narrowed_of_not_isInternal {s : Status} (h : s.isInternal = false) : s.narrowed = s := by
  cases s <;> first | rfl | simp [isInternal] at h

end Status

/-! ## Carriers -/

inductive Carrier where
  /-- FedEx. -/
  | fedex
  | dhl
deriving DecidableEq, Repr

/-- A value that names no member of a vocabulary. -/
inductive UnknownName where
  /-- No carrier. -/
  | carrier (value : Json)
  /-- No shipment state. -/
  | status (value : Json)
  /-- No layout. -/
  | layout (value : Json)

/-- The wording when a name is unknown. -/
def UnknownName.message : UnknownName → Text
  | .carrier v => "Unsupported carrier: ".toList ++ v.shown
  | .status v => v.shown ++ " is not a valid CanonicalStatus".toList
  | .layout v => v.shown ++ " is not a valid LayoutType".toList

namespace Carrier

/-- The written form of a carrier. -/
def text : Carrier → Text
  | fedex => "fedex".toList
  | dhl => "dhl".toList

def all : List Carrier := [fedex, dhl]

/-- The carrier of a written form. -/
def ofText? (t : Text) : Option Carrier := all.find? (·.text = t)

/-- The carrier that a value names: blanks around the name and the case of its letters do not
matter. -/
def ofJson (v : Json) : Except UnknownName Carrier :=
  match ofText? (fold (trim v.textOrBlank)) with
  | some c => .ok c
  | none => .error (.carrier v)

end Carrier

/-- The state that a value names. -/
def Status.ofJson (v : Json) : Except UnknownName Status :=
  match v.text?.bind Status.ofText? with
  | some s => .ok s
  | none => .error (.status v)

end ParcelStatus
