/-
  NativeBridge/Fault.lean
  =======================
  **What can go wrong on the way from a catalog to a unit on disk.**  An error is its
  cause, with the names it is about; the wording is given once, at the end.
-/
import NativeBridge.Catalog.Schema
import NativeBridge.Files.Fault

namespace NativeBridge

/-! ### Causes -/

inductive Position
  | parameter (index : Nat)
  | result
  deriving DecidableEq, Repr

inductive Mismatch
  | arity (native : Nat) (actualName : String) (actual : Nat)
  | blankSymbol
  /-- The native side names a type that is not a primitive of the boundary. -/
  | notNative (position : Position) (type : String)
  /-- The actual type is represented by another native type. -/
  | representation (position : Position) (type represented expected : String)
  | noFromNative (index : Nat) (type : String)
  | noToNative (type : String)
  deriving DecidableEq, Repr

inductive DescriptorFlaw
  | blankName
  | blankNative
  | blankDefault
  /-- Without rules a type must represent itself. -/
  | noRules (native : String)
  | blankRule
  deriving DecidableEq, Repr

inductive BridgeFlaw
  | duplicateParameter (name : String)
  | openedTwice
  | notOpen
  | neverClosed
  | noScope
  /-- Two exported symbols have the same identifier. -/
  | collision (symbol : String)
  deriving DecidableEq, Repr

inductive CatalogFlaw
  | blankSymbol (index : Nat)
  | blankName (index : Nat) (symbol : String)
  deriving DecidableEq, Repr

inductive BridgeError
  /-- The place is unknown when the registry is asked on its own. -/
  | unknownType (name : String) (place : Option (Position × String))
  | signatureMismatch (symbol : String) (mismatch : Mismatch)
  | invalidDescriptor (name : String) (flaw : DescriptorFlaw)
  | duplicateType (name : String)
  | duplicateSymbol (symbol : String)
  | malformedBridge (function : String) (flaw : BridgeFlaw)
  | invalidCatalog (flaw : CatalogFlaw)
  | document (fault : DocumentFault)
  | file (fault : FileFault)
  deriving DecidableEq, Repr

/-! ### Wording -/

def Position.text : Position → String
  | parameter i => s!"parameter p{i}"
  | result => "return type"

def Mismatch.text : Mismatch → String
  | arity native actualName actual =>
    s!"native signature has {native} parameter(s) but '{actualName}' takes {actual}"
  | blankSymbol => "exported symbol name is empty"
  | notNative position type => s!"{position.text}: '{type}' is not a native type"
  | representation position type represented expected =>
    s!"{position.text}: '{type}' is represented natively as '{represented}', not '{expected}'"
  | noFromNative i type =>
    s!"{(Position.parameter i).text}: type '{type}' has no from-native rule"
  | noToNative type => s!"{Position.result.text} '{type}' has no to-native rule"

def DescriptorFlaw.text : DescriptorFlaw → String
  | blankName => "type name is empty"
  | blankNative => "native representation is empty"
  | blankDefault => "default value is empty"
  | noRules native =>
    s!"no conversion rules, so it must be its own native representation (found '{native}')"
  | blankRule => "conversion rule path is empty"

def BridgeFlaw.text : BridgeFlaw → String
  | duplicateParameter name => s!"duplicate parameter '{name}'"
  | openedTwice => "containment scope opened twice"
  | notOpen => "no containment scope is open"
  | neverClosed => "containment scope was never closed"
  | noScope => "missing containment scope"
  | collision symbol => s!"identifier derived from '{symbol}' collides with an earlier bridge"

def CatalogFlaw.text : CatalogFlaw → String
  | blankSymbol i => s!"functions[{i}]: jni-signature is empty"
  | blankName i symbol => s!"functions[{i}] ('{symbol}'): actual.name is empty"

def BridgeError.message : BridgeError → String
  | unknownType name none => s!"unknown type '{name}'"
  | unknownType name (some (position, symbol)) =>
    s!"unknown type '{name}' (in {position.text} of '{symbol}')"
  | signatureMismatch symbol mismatch => s!"signature mismatch for '{symbol}': {mismatch.text}"
  | invalidDescriptor name flaw => s!"invalid descriptor for type '{name}': {flaw.text}"
  | duplicateType name => s!"type '{name}' is already registered"
  | duplicateSymbol symbol =>
    s!"native symbol '{symbol}' is exported by more than one function pair"
  | malformedBridge function flaw => s!"malformed bridge '{function}': {flaw.text}"
  | invalidCatalog flaw => s!"invalid catalog: {flaw.text}"
  | document fault => s!"TOML parse error: {fault.message}"
  | file fault => s!"I/O error: {fault.message}"

end NativeBridge
