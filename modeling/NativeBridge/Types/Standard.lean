/-
  NativeBridge/Types/Standard.lean
  ================================
  **The types every catalog starts from.**  The numbers of the boundary, its string
  and pointer handles and the unit type are primitives; truth values and texts are
  converted in both directions.
-/
import NativeBridge.Bridge.Basic
import NativeBridge.Types.Registry

namespace NativeBridge.TypeRegistry

def standardPrimitives : List TypeDescriptor :=
  ["jboolean", "jbyte", "jchar", "jshort", "jint", "jlong"].map (TypeDescriptor.primitive · "0") ++
  ["jfloat", "jdouble"].map (TypeDescriptor.primitive · "0.0") ++
  [.primitive "NativeString" "NativeString::NULL",
   .primitive "NativePointer" "NativePointer::NULL",
   .primitive unitType "()"]

def standardConverted : List TypeDescriptor :=
  [⟨"bool", "jboolean", "0", some "convert::bool_from_native", some "convert::bool_to_native"⟩,
   ⟨"String", "NativeString", "NativeString::NULL", some "convert::string_from_native",
    some "convert::string_to_native"⟩]

def standard : TypeRegistry :=
  ⟨(standardPrimitives ++ standardConverted).foldl (fun slots d => insert d.name d slots) []⟩

end NativeBridge.TypeRegistry
