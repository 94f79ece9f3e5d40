import Stagecraft.Ident.Fault
import Stagecraft.Json.Reader

/-!
# Identifiers as JSON

An identifier is written as a string, and read from a string in any of its forms.
-/

namespace Stagecraft.Codec

open Json

/-- What a string is expected to be where an identifier stands. -/
def identTitle : String := "a formatted UUID string"

/-- The refusal of a text that gives no identifier. -/
def identCause (fault : IdentFault) : Cause :=
  .refused s!"UUID parsing failed: {fault.message}"

/-- Reads an identifier. -/
def scanIdent (s : List Char) : Read Ident :=
  match scanText identTitle s with
  | .error fault => .error fault
  | .ok (text, s) =>
    match Ident.read text with
    | .error fault => .error (Fault.before (identCause fault) s)
    | .ok x => .ok (x, s)

/-- Reads an actor's identifier. -/
def scanActorId (_ : Nat) : Scan ActorId := fun s =>
  Read.map ActorId.mk (scanIdent s)

/-- Reads a handler's identifier. -/
def scanHandlerId (_ : Nat) : Scan HandlerId := fun s =>
  Read.map HandlerId.mk (scanIdent s)

/-- Reads a string. -/
def scanString (_ : Nat) : Scan String :=
  scanText "a string"

/-- Reads a size. -/
def scanSize (_ : Nat) : Scan Nat :=
  Json.scanSize

/-- An actor's identifier as a value. -/
def ofActorId (id : ActorId) : Value := .string id.text

/-- A handler's identifier as a value. -/
def ofHandlerId (id : HandlerId) : Value := .string id.text

end Stagecraft.Codec
