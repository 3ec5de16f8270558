/-
  NativeBridge/Demo/Catalog.lean
  ==============================
  **The catalog of the demo.**  Two types of its own, four functions, and an
  implementation below one path.  The catalog is given as a text and as a value.
-/
import NativeBridge.Catalog.Basic

namespace NativeBridge.Demo

/-! ### Text -/

def catalogLines : List String :=
  ["# Bridges for a small SQLite binding. Regenerate with:",
   "#   jnibridge generate --catalog demos/sqlite/bridges.toml",
   "",
   "[output]",
   "path = \"src/generated_jni.rs\"",
   "implementation = \"SqliteApi\"",
   "imports = [\"crate::api::\x7bDbRef, SqliteApi, StatusCode\x7d\"]",
   "",
   "[[types]]",
   "name = \"DbRef\"",
   "native = \"NativePointer\"",
   "from-native = \"DbRef::from_native\"",
   "to-native = \"DbRef::to_native\"",
   "default = \"NativePointer::NULL\"",
   "",
   "[[types]]",
   "name = \"StatusCode\"",
   "native = \"jint\"",
   "to-native = \"StatusCode::to_native\"",
   "default = \"-1\"",
   "",
   "[[functions]]",
   "jni-signature = \"Java_com_example_SqliteApi_openDatabase\"",
   "native = \x7b name = \"openDatabase\", params = [\"NativeString\"], " ++
     "returns = \"NativePointer\" \x7d",
   "actual = \x7b name = \"openDatabase\", params = [\"String\"], returns = \"DbRef\" \x7d",
   "",
   "[[functions]]",
   "jni-signature = \"Java_com_example_SqliteApi_prepareStmt\"",
   "native = \x7b name = \"prepareStmt\", params = [\"NativePointer\", \"NativeString\"], " ++
     "returns = \"jint\" \x7d",
   "actual = \x7b name = \"prepareStmt\", params = [\"DbRef\", \"String\"], " ++
     "returns = \"StatusCode\" \x7d",
   "",
   "[[functions]]",
   "jni-signature = \"Java_com_example_SqliteApi_close\"",
   "native = \x7b name = \"close\", params = [\"NativePointer\"] \x7d",
   "actual = \x7b name = \"close\", params = [\"DbRef\"] \x7d",
   "",
   "[[functions]]",
   "jni-signature = \"Java_com_example_SqliteApi_libVersion\"",
   "fallible = false",
   "native = \x7b name = \"libVersion\", returns = \"NativeString\" \x7d",
   "actual = \x7b name = \"libVersion\", returns = \"String\" \x7d"]

/-- The text of the catalog: its lines, each with a line end. -/
def catalogText : String := String.ofList (catalogLines.flatMap fun l => l.toList ++ ['\n'])

/-! ### Types -/

def dbType : TypeDescriptor :=
  ⟨"DbRef", "NativePointer", "NativePointer::NULL", some "DbRef::from_native",
    some "DbRef::to_native"⟩

def statusType : TypeDescriptor :=
  ⟨"StatusCode", "jint", "-1", none, some "StatusCode::to_native"⟩

/-! ### Functions -/

def openDatabasePair : FunctionPair :=
  ⟨"Java_com_example_SqliteApi_openDatabase",
    ⟨"openDatabase", ["NativeString"], "NativePointer"⟩,
    ⟨"openDatabase", ["String"], "DbRef"⟩, true⟩

def prepareStmtPair : FunctionPair :=
  ⟨"Java_com_example_SqliteApi_prepareStmt",
    ⟨"prepareStmt", ["NativePointer", "NativeString"], "jint"⟩,
    ⟨"prepareStmt", ["DbRef", "String"], "StatusCode"⟩, true⟩

def closePair : FunctionPair :=
  ⟨"Java_com_example_SqliteApi_close", ⟨"close", ["NativePointer"], unitType⟩,
    ⟨"close", ["DbRef"], unitType⟩, true⟩

def libVersionPair : FunctionPair :=
  ⟨"Java_com_example_SqliteApi_libVersion", ⟨"libVersion", [], "NativeString"⟩,
    ⟨"libVersion", [], "String"⟩, false⟩

def declared (p : FunctionPair) : FunctionDeclaration :=
  ⟨p.symbol, p.native, p.actual, p.fallible, false⟩

def catalog : Catalog :=
  ⟨⟨some "src/generated_jni.rs", "SqliteApi",
      ["crate::api::\x7bDbRef, SqliteApi, StatusCode\x7d"], standardRuntime⟩,
    [dbType, statusType],
    [openDatabasePair, prepareStmtPair, closePair, libVersionPair].map declared⟩

end NativeBridge.Demo
