/-
  NativeBridge/Boundary/Conversion.lean
  =====================================
  **The standard conversions.**  Any truth value of the native side but zero is true.
  A native string is read up to its first NUL and must be UTF-8; a text can be handed
  over unless it holds a NUL, which would end it early on the other side.
-/
import NativeBridge.Boundary.Handle
import NativeBridge.Boundary.Outcome
import NativeBridge.Text.Utf8

namespace NativeBridge

inductive ConversionFault
  | nullString
  | notUtf8 (fault : Text.Utf8.Fault)
  /-- The offset, in bytes, of the first NUL of a text. -/
  | interiorNul (offset : Nat)
  deriving DecidableEq, Repr

namespace ConversionFault

def message : ConversionFault → String
  | nullString => "null string passed across the native boundary"
  | notUtf8 fault => s!"native string is not valid UTF-8: {fault.message}"
  | interiorNul offset => s!"string contains an interior NUL byte at offset {offset}"

def chain : ConversionFault → List String
  | notUtf8 fault => [message (notUtf8 fault), fault.message]
  | e => [message e]

end ConversionFault

/-! ### Truth values -/

def nativeFalse : UInt8 := 0

def nativeTrue : UInt8 := 1

def truthOfNative (value : UInt8) : Bool := value != nativeFalse

def nativeOfTruth (value : Bool) : UInt8 := if value then nativeTrue else nativeFalse

theorem truthOfNative_nativeOfTruth (b : Bool) : truthOfNative (nativeOfTruth b) = b := by
  cases b <;> rfl

/-! ### Texts -/

/-- The bytes of a native string: those in front of the first NUL. -/
def beforeNul (memory : List UInt8) : List UInt8 := memory.takeWhile (· != 0)

def textOfNative : NativeString → Except ConversionFault String
  | none => .error .nullString
  | some memory =>
    match Text.Utf8.decode (beforeNul memory) with
    | .ok cs => .ok (String.ofList cs)
    | .error fault => .error (.notUtf8 fault)

/-- The bytes of a text, to which the native side adds the NUL. -/
def nativeOfText (s : String) : Except ConversionFault (List UInt8) :=
  let bs := Text.bytes s
  if bs.contains 0 then .error (.interiorNul (beforeNul bs).length) else .ok bs

/-- A conversion as a step of a run. -/
def Run.ofConversion {τ α : Type} : Except ConversionFault α → Run τ α
  | .ok a => .ofOutcome (.done a)
  | .error e => .ofOutcome (.failed e.chain)

end NativeBridge
