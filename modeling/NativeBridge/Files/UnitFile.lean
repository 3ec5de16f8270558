/-
  NativeBridge/Files/UnitFile.lean
  ================================
  **Units on disk.**  A unit is generated completely before anything is written, so a
  catalog that cannot be generated leaves the tree alone.  A destination is current
  when it holds exactly the bytes of the unit; a missing one is not current, and one
  that cannot be read is an error.
-/
import NativeBridge.Files.Access
import NativeBridge.Unit

namespace NativeBridge

namespace FileTree

def writeText (t : FileTree) (path text : String) : FileTree × Except FileFault Unit :=
  t.replaceFile path (Text.bytes text)

/-- Whether the file at a path holds exactly a text. -/
def holdsText (t : FileTree) (path text : String) : Except FileFault Bool :=
  match t.read path with
  | .ok bytes => .ok (bytes == Text.bytes text)
  | .error .notFound => .ok false
  | .error f => .error f

def readText (t : FileTree) (path : String) : Except FileFault String :=
  match t.read path with
  | .error f => .error f
  | .ok bytes =>
    match Text.Utf8.decode bytes with
    | .ok cs => .ok (String.ofList cs)
    | .error _ => .error .notText

def readCatalog (t : FileTree) (path : String) : Except BridgeError Catalog :=
  match t.readText path with
  | .error f => .error (.file f)
  | .ok text => Catalog.parse text

end FileTree

namespace BridgeUnit

def wroteEvent (u : BridgeUnit) (path : String) : Event :=
  .wrote path u.bridges.length (Text.bytes u.text).length

def written (u : BridgeUnit) (path : String) : Except FileFault Unit → Logged Unit
  | .ok () => ⟨[u.wroteEvent path], .ok ()⟩
  | .error f => .fail (.file f)

def store (u : BridgeUnit) (t : FileTree) (path : String) : FileTree × Logged Unit :=
  let (t', r) := t.writeText path u.text
  (t', u.written path r)

def matchesFile (u : BridgeUnit) (t : FileTree) (path : String) : Except BridgeError Bool :=
  match t.holdsText path u.text with
  | .ok b => .ok b
  | .error f => .error (.file f)

end BridgeUnit

def Catalog.publish (c : Catalog) (t : FileTree) (path : String) :
    FileTree × Logged BridgeUnit :=
  match c.unit with
  | ⟨log, .error e⟩ => (t, ⟨log, .error e⟩)
  | ⟨log, .ok u⟩ =>
    let (t', w) := u.store t path
    (t', ⟨log ++ w.log, w.result.map fun _ => u⟩)

end NativeBridge
