/-
  NativeBridge/Files/Tree.lean
  ============================
  **Trees of files.**  A tree is the contents of its root, and the location of a
  working directory that stands in it.  Whatever is under a directory is stored in it,
  so nothing can be left over below a place that is missing or a file.

  A tree is looked at through `FileTree.entry`, what stands at a location.  `put` is
  the one change there is: a new entry, or another file for a file; a directory is
  never taken away.  `entry_put` says that the change is seen at its own location and
  nowhere else, `entry_put_of_directory` that directories stay.
-/
namespace NativeBridge

/-- The names on the way from the root. -/
abbrev Location := List String

inductive Entry
  | directory
  | file (bytes : List UInt8)
  deriving DecidableEq, Repr

inductive Node
  | file (bytes : List UInt8)
  | directory (nodes : List (String × Node))

abbrev Directory := List (String × Node)

def Node.ofEntry : Entry → Node
  | .directory => .directory []
  | .file bytes => .file bytes

namespace Directory

/-! ### The view -/

/-- What stands at a location below a directory. -/
def entryAt : Location → Directory → Option Entry
  | [], _ => some .directory
  | name :: l, d =>
    match d.lookup name with
    | some (.directory inner) => entryAt l inner
    | some (.file bytes) => if l = [] then some (.file bytes) else none
    | none => none

/-- The contents of the directory at a location; empty if there is none. -/
def contentsAt : Location → Directory → Directory
  | [], d => d
  | name :: l, d =>
    match d.lookup name with
    | some (.directory inner) => contentsAt l inner
    | _ => []

/-! ### Changing -/

/-- Replaces the node of a name, or adds one. -/
def setNode (name : String) (n : Node) : Directory → Directory
  | [] => [(name, n)]
  | (k, m) :: rest => if name = k then (k, n) :: rest else (k, m) :: setNode name n rest

/-- Puts a node at a location whose directory exists, unless a directory stands
    there. -/
def putAt (n : Node) : Location → Directory → Directory
  | [], d => d
  | name :: l, d =>
    match d.lookup name with
    | some (.directory inner) => setNode name (.directory (putAt n l inner)) d
    | _ => if l = [] then setNode name n d else d

theorem lookup_setNode (name k : String) (n : Node) (d : Directory) :
    (setNode name n d).lookup k = if k = name then some n else d.lookup k := by
  induction d with
  | nil =>
    by_cases h : k = name
    · simp [setNode, h]
    · simp [setNode, List.lookup_cons, h, beq_eq_false_iff_ne.2 h]
  | cons p d ih =>
    obtain ⟨j, m⟩ := p
    by_cases hj : name = j
    · subst hj
      by_cases h : k = name
      · simp [setNode, h]
      · simp [setNode, List.lookup_cons, h, beq_eq_false_iff_ne.2 h]
    · by_cases h : k = j
      · subst h
        simp [setNode, hj, Ne.symm hj]
      · simp [setNode, hj, List.lookup_cons, beq_eq_false_iff_ne.2 h, ih]

theorem entryAt_putAt_of_directory (n : Node) {k : Location} (l : Location) {d : Directory}
    (h : entryAt k d = some .directory) : entryAt k (putAt n l d) = some .directory := by
  induction l generalizing k d with
  | nil => exact h
  | cons name l ih =>
    cases k with
    | nil => rfl
    | cons other k =>
      by_cases ho : other = name
      · subst ho
        rcases hn : d.lookup other with _ | bytes | inner
        · simp [entryAt, hn] at h
        · simp [entryAt, hn] at h
        · have hk : entryAt k inner = some .directory := by simpa [entryAt, hn] using h
          simp [entryAt, putAt, hn, lookup_setNode, ih hk]
      · have same : (putAt n (name :: l) d).lookup other = d.lookup other := by
          rw [putAt]
          split
          · simp [lookup_setNode, ho]
          · split <;> simp [lookup_setNode, ho]
        simpa [entryAt, same] using h

theorem entryAt_putAt (e : Entry) (k : Location) {l : Location} {d : Directory}
    (above : entryAt l.dropLast d = some .directory) (free : entryAt l d ≠ some .directory) :
    entryAt k (putAt (.ofEntry e) l d) = if k = l then some e else entryAt k d := by
  induction l generalizing k d with
  | nil => exact absurd rfl free
  | cons name l ih =>
    cases k with
    | nil => simp [entryAt]
    | cons other k =>
      by_cases ho : other = name
      · subst ho
        rcases hn : d.lookup other with _ | bytes | inner
        · cases l with
          | nil => cases e <;> cases k <;> simp [entryAt, putAt, hn, lookup_setNode, Node.ofEntry]
          | cons m l => simp [entryAt, hn] at above
        · cases l with
          | nil => cases e <;> cases k <;> simp [entryAt, putAt, hn, lookup_setNode, Node.ofEntry]
          | cons m l => simp [entryAt, hn] at above
        · cases l with
          | nil => simp [entryAt, hn] at free
          | cons m l =>
            have ha : entryAt (m :: l).dropLast inner = some .directory := by
              simpa [entryAt, hn] using above
            have hf : entryAt (m :: l) inner ≠ some .directory := by
              simpa [entryAt, hn] using free
            have := ih k ha hf
            simp [entryAt, putAt, hn, lookup_setNode] at this ⊢
            exact this
      · have same : (putAt (.ofEntry e) (name :: l) d).lookup other = d.lookup other := by
          rw [putAt]
          split
          · simp [lookup_setNode, ho]
          · split <;> simp [lookup_setNode, ho]
        simp [entryAt, same, ho]

/-! ### Nothing but a way -/

/-- A directory with one way down and nothing else. -/
def way : Location → Directory
  | [] => []
  | name :: l => [(name, .directory (way l))]

theorem entryAt_way (l : Location) : entryAt l (way l) = some .directory := by
  induction l with
  | nil => rfl
  | cons name l ih => simp [entryAt, way, ih]

end Directory

structure FileTree where
  root : Directory
  working : Location
  stands : root.entryAt working = some .directory

namespace FileTree

def empty (working : Location) : FileTree := ⟨.way working, working, Directory.entryAt_way working⟩

def entry (t : FileTree) (l : Location) : Option Entry := t.root.entryAt l

/-- Puts a file, or a directory with nothing in it, where neither is a directory. -/
def put (t : FileTree) (l : Location) (e : Entry) : FileTree where
  root := t.root.putAt (.ofEntry e) l
  working := t.working
  stands := Directory.entryAt_putAt_of_directory (.ofEntry e) l t.stands

theorem entry_put (t : FileTree) (k : Location) (e : Entry) {l : Location}
    (above : t.entry l.dropLast = some .directory) (free : t.entry l ≠ some .directory) :
    (t.put l e).entry k = if k = l then some e else t.entry k :=
  Directory.entryAt_putAt e k above free

theorem entry_put_of_directory (t : FileTree) (l : Location) (e : Entry) {k : Location}
    (h : t.entry k = some .directory) : (t.put l e).entry k = some .directory :=
  Directory.entryAt_putAt_of_directory (.ofEntry e) l h

/-! ### Listing -/

mutual

/-- The path of a node and all paths below it; directories end in a slash. -/
def nodePaths (path : String) : Node → List String
  | .file _ => [path]
  | .directory nodes => (path ++ "/") :: pathsIn (path ++ "/") nodes

/-- The paths of what is in a directory, behind a common start. -/
def pathsIn (start : String) : List (String × Node) → List String
  | [] => []
  | (name, n) :: rest => nodePaths (start ++ name) n ++ pathsIn start rest

end

/-- Everything below the working directory as relative paths, in their order. -/
def paths (t : FileTree) : List String :=
  (pathsIn "" (t.root.contentsAt t.working)).mergeSort fun a b => decide (a ≤ b)

def workingPath (t : FileTree) : String := "/" ++ "/".intercalate t.working

end FileTree

end NativeBridge
