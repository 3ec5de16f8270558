/-
  NativeBridge/Proofs/Ways.lean
  =============================
  **Ways through a tree.**  `Reaches` says that steps lead from directory to directory.
  Where they lead is then known without the tree (`follow`), because nothing in it
  stands for something else.  Walking to a directory finds exactly such ways
  (`walkToDirectory_ok_iff`).

  Making directories changes a tree in one manner only, `Grown`: whatever was there
  stays as it is, and what is new is a directory on the way.  If it succeeds the way
  can be walked afterwards (`makeDirectories_reaches`); if the way could be walked
  before, it changes nothing (`makeDirectories_of_reaches`).
-/
import NativeBridge.Proofs.Paths

namespace NativeBridge

/-! ### Places -/

/-- Where a step leads, whatever is there. -/
def stepFrom (l : Location) : Step → Location
  | .down name => l ++ [name]
  | .up => l.dropLast

def follow (l : Location) (steps : List Step) : Location := steps.foldl stepFrom l

/-- The places that steps come through, from the first step to the last. -/
def OnWay (l : Location) (steps : List Step) (k : Location) : Prop :=
  ∃ before after, steps = before ++ after ∧ k = follow l before

theorem OnWay.cons {l k : Location} {steps : List Step} (s : Step)
    (h : OnWay (stepFrom l s) steps k) : OnWay l (s :: steps) k := by
  obtain ⟨before, after, rfl, rfl⟩ := h
  exact ⟨s :: before, after, rfl, rfl⟩

theorem OnWay.append {l k : Location} {steps : List Step} (h : OnWay l steps k)
    (more : List Step) : OnWay l (steps ++ more) k := by
  obtain ⟨before, after, rfl, rfl⟩ := h
  exact ⟨before, after ++ more, List.append_assoc .., rfl⟩

/-! ### What stands above -/

theorem Directory.entryAt_dropLast {l : Location} {d : Directory} {e : Entry}
    (h : entryAt l d = some e) : entryAt l.dropLast d = some .directory := by
  induction l generalizing d with
  | nil => rfl
  | cons name l ih =>
    cases l with
    | nil => rfl
    | cons next l =>
      rcases hn : d.lookup name with _ | bytes | inner
      · simp [entryAt, hn] at h
      · simp [entryAt, hn] at h
      · have hinner : entryAt (next :: l) inner = some e := by simpa [entryAt, hn] using h
        simpa [entryAt, hn] using ih hinner

namespace FileTree

/-- What stands somewhere stands in a directory. -/
theorem entry_dropLast {t : FileTree} {l : Location} {e : Entry} (h : t.entry l = some e) :
    t.entry l.dropLast = some .directory := Directory.entryAt_dropLast h

theorem entry_start (t : FileTree) (r : Route) : t.entry (t.start r) = some .directory := by
  rw [start]
  split
  · rfl
  · exact t.stands

theorem working_put (t : FileTree) (l : Location) (e : Entry) :
    (t.put l e).working = t.working := rfl

/-! ### Walking -/

/-- The steps lead from directory to directory, and to one. -/
inductive Reaches (t : FileTree) : Location → List Step → Prop
  | here {l : Location} (stands : t.entry l = some .directory) : Reaches t l []
  | down {l : Location} {name : String} {steps : List Step}
      (stands : t.entry l = some .directory) (short : (Text.bytes name).length ≤ nameLimit)
      (next : Reaches t (l ++ [name]) steps) : Reaches t l (.down name :: steps)
  | up {l : Location} {steps : List Step} (stands : t.entry l = some .directory)
      (next : Reaches t l.dropLast steps) : Reaches t l (.up :: steps)

section

variable {t t' : FileTree} {l k : Location} {steps : List Step}

theorem Reaches.starts (h : t.Reaches l steps) : t.entry l = some .directory := by
  cases h <;> assumption

theorem Reaches.ends (h : t.Reaches l steps) : t.entry (follow l steps) = some .directory := by
  induction h with
  | here stands => exact stands
  | down _ _ _ ih => exact ih
  | up _ _ ih => exact ih

theorem Reaches.mono (h : t.Reaches l steps)
    (stay : ∀ k, t.entry k = some .directory → t'.entry k = some .directory) :
    t'.Reaches l steps := by
  induction h with
  | here stands => exact .here (stay _ stands)
  | down stands short _ ih => exact .down (stay _ stands) short ih
  | up stands _ ih => exact .up (stay _ stands) ih

theorem child_ok_iff {name : String} {e : Option Entry} :
    t.child l name = .ok (k, e) ↔
      t.entry l = some .directory ∧ (Text.bytes name).length ≤ nameLimit ∧
        k = l ++ [name] ∧ e = t.entry (l ++ [name]) := by
  rw [child]
  rcases t.entry l with _ | _ | bytes
  · simp
  · by_cases hshort : nameLimit < (Text.bytes name).length
    · simp [hshort, Nat.not_le.2 hshort]
    · have hshort' := Nat.not_lt.1 hshort
      simp [hshort, hshort', eq_comm]
  · simp

theorem walk_of_reaches (h : t.Reaches l steps) : t.walk l steps = .ok (follow l steps) := by
  induction h with
  | here => rfl
  | @down l name steps stands short next ih =>
    have hchild := child_ok_iff.2 ⟨stands, short, rfl, rfl⟩
    rw [walk, hchild, next.starts]
    exact ih
  | up stands _ ih =>
    rw [walk, stands]
    exact ih

theorem reaches_of_walk (h : t.walk l steps = .ok k) (hk : t.entry k = some .directory) :
    t.Reaches l steps := by
  induction steps generalizing l with
  | nil =>
    cases h
    exact .here hk
  | cons s steps ih =>
    cases s with
    | down name =>
      rw [walk] at h
      rcases hchild : t.child l name with f | ⟨k', e⟩
      · rw [hchild] at h
        cases h
      · obtain ⟨stands, short, rfl, -⟩ := child_ok_iff.1 hchild
        rw [hchild] at h
        cases e with
        | none => cases h
        | some e => exact .down stands short (ih h)
    | up =>
      rw [walk] at h
      rcases hl : t.entry l with _ | _ | bytes
      · rw [hl] at h
        cases h
      · rw [hl] at h
        exact .up hl (ih h)
      · rw [hl] at h
        cases h

theorem walkToDirectory_ok_iff {r : Route} :
    t.walkToDirectory r steps = .ok k ↔
      t.Reaches (t.start r) steps ∧ k = follow (t.start r) steps := by
  rw [walkToDirectory]
  constructor
  · intro h
    rcases hwalk : t.walk (t.start r) steps with f | k'
    · rw [hwalk] at h
      cases h
    · rw [hwalk] at h
      rcases hk : t.entry k' with _ | _ | bytes
      · simp [hk] at h
      · simp only [hk] at h
        cases h
        have hreaches := reaches_of_walk hwalk hk
        exact ⟨hreaches, Except.ok.inj (hwalk.symm.trans (walk_of_reaches hreaches))⟩
      · simp [hk] at h
  · rintro ⟨hreaches, rfl⟩
    rw [walk_of_reaches hreaches]
    simp only [hreaches.ends]

end

/-! ### Growing -/

/-- A tree with more directories on a way: nothing else is new, and what was there is
    as it was. -/
structure Grown (t t' : FileTree) (l : Location) (steps : List Step) : Prop where
  working : t'.working = t.working
  kept : ∀ k e, t.entry k = some e → t'.entry k = some e
  added : ∀ k e, t.entry k = none → t'.entry k = some e → e = .directory ∧ OnWay l steps k

namespace Grown

variable {t t' t'' : FileTree} {l : Location} {steps : List Step}

theorem refl (t : FileTree) (l : Location) (steps : List Step) : Grown t t l steps where
  working := rfl
  kept _ _ h := h
  added k e hnone hsome := by
    rw [hnone] at hsome
    cases hsome

theorem trans (h : Grown t t' l steps) (h' : Grown t' t'' l steps) : Grown t t'' l steps where
  working := h'.working.trans h.working
  kept k e hk := h'.kept k e (h.kept k e hk)
  added k e hnone hsome := by
    cases hbetween : t'.entry k with
    | none => exact h'.added k e hbetween hsome
    | some e' =>
      obtain ⟨rfl, hway⟩ := h.added k e' hnone hbetween
      have hstays := h'.kept k _ hbetween
      rw [hsome] at hstays
      exact ⟨Option.some.inj hstays, hway⟩

theorem weaken {l' : Location} {steps' : List Step} (h : Grown t t' l steps)
    (hway : ∀ k, OnWay l steps k → OnWay l' steps' k) : Grown t t' l' steps' where
  working := h.working
  kept := h.kept
  added k e hnone hsome := (h.added k e hnone hsome).imp id (hway k)

theorem cons {s : Step} (h : Grown t t' (stepFrom l s) steps) : Grown t t' l (s :: steps) :=
  h.weaken fun _ => OnWay.cons s

theorem stays (h : Grown t t' l steps) (k : Location) (hk : t.entry k = some .directory) :
    t'.entry k = some .directory := h.kept k _ hk

theorem start (h : Grown t t' l steps) (r : Route) : t'.start r = t.start r := by
  rw [FileTree.start, FileTree.start, h.working]

end Grown

theorem entry_put_below {t : FileTree} {l : Location} {name : String}
    (stands : t.entry l = some .directory) (free : t.entry (l ++ [name]) = none) (k : Location) :
    (t.put (l ++ [name]) .directory).entry k =
      if k = l ++ [name] then some .directory else t.entry k := by
  apply entry_put
  · rwa [List.dropLast_concat]
  · simp [free]

/-- A new directory where nothing stands. -/
theorem grown_put {t : FileTree} {l : Location} {name : String} (steps : List Step)
    (stands : t.entry l = some .directory) (free : t.entry (l ++ [name]) = none) :
    Grown t (t.put (l ++ [name]) .directory) l (.down name :: steps) := by
  refine ⟨rfl, ?_, ?_⟩
  · intro k e hk
    have hother : k ≠ l ++ [name] := by
      rintro rfl
      rw [free] at hk
      cases hk
    rw [entry_put_below stands free, if_neg hother, hk]
  · intro k e hnone hsome
    by_cases hk : k = l ++ [name]
    · rw [entry_put_below stands free, if_pos hk] at hsome
      exact ⟨(Option.some.inj hsome).symm, [.down name], steps, rfl, hk⟩
    · rw [entry_put_below stands free, if_neg hk, hnone] at hsome
      cases hsome

/-! ### Making directories -/

section

variable {t t' : FileTree} {l : Location} {steps : List Step} {missed : Bool}

theorem makeDirectories_grown (missed : Bool) (steps : List Step)
    (hl : t.entry l = some .directory) :
    Grown t (t.makeDirectories missed l steps).1 l steps := by
  induction steps generalizing t l missed with
  | nil => exact .refl t l []
  | cons s steps ih =>
    cases s with
    | up =>
      rw [makeDirectories]
      exact (ih missed (entry_dropLast hl)).cons
    | down name =>
      rw [makeDirectories]
      rcases hchild : t.child l name with f | ⟨k, e⟩
      · exact .refl t l _
      · obtain ⟨stands, short, rfl, he⟩ := child_ok_iff.1 hchild
        rcases e with _ | _ | bytes
        · have hput := grown_put steps stands he.symm
          have hnew := (entry_put_below stands he.symm _).trans (if_pos rfl)
          exact hput.trans (ih true hnew).cons
        · exact (ih missed he.symm).cons
        · exact .refl t l _

/-- What was made can be walked. -/
theorem makeDirectories_reaches (hl : t.entry l = some .directory)
    (h : (t.makeDirectories missed l steps).2 = .ok ()) :
    (t.makeDirectories missed l steps).1.Reaches l steps := by
  induction steps generalizing t l missed with
  | nil => exact .here hl
  | cons s steps ih =>
    cases s with
    | up =>
      rw [makeDirectories] at h ⊢
      have hgrown := makeDirectories_grown missed steps (entry_dropLast hl)
      exact .up (hgrown.stays l hl) (ih (entry_dropLast hl) h)
    | down name =>
      rw [makeDirectories] at h ⊢
      rcases hchild : t.child l name with f | ⟨k, e⟩
      · rw [hchild] at h
        cases h
      · obtain ⟨stands, short, rfl, he⟩ := child_ok_iff.1 hchild
        rw [hchild] at h
        rcases e with _ | _ | bytes
        · have hnew := (entry_put_below stands he.symm _).trans (if_pos rfl)
          have hgrown := makeDirectories_grown true steps hnew
          exact .down (hgrown.stays l ((grown_put steps stands he.symm).stays l hl)) short
            (ih hnew h)
        · have hgrown := makeDirectories_grown missed steps he.symm
          exact .down (hgrown.stays l hl) short (ih he.symm h)
        · cases h

/-- Where all is there nothing is made. -/
theorem makeDirectories_of_reaches (h : t.Reaches l steps) :
    t.makeDirectories missed l steps = (t, .ok ()) := by
  induction h with
  | here => rfl
  | down stands short next ih =>
    have hchild := child_ok_iff.2 ⟨stands, short, rfl, rfl⟩
    rw [makeDirectories, hchild, next.starts]
    exact ih
  | up _ _ ih =>
    rw [makeDirectories]
    exact ih

end

/-! ### Making the directory of a path -/

section

variable {t : FileTree} {r : Route} {path : String}

theorem makeRoute_grown : Grown t (t.makeRoute r).1 (t.start r) r.steps := by
  have hway : Grown t (t.makeDirectories false (t.start r) r.steps.dropLast).1 (t.start r)
      r.steps := by
    refine (makeDirectories_grown false _ (t.entry_start r)).weaken fun k hk => ?_
    obtain ⟨last, hlast⟩ := List.dropLast_prefix r.steps
    exact hlast ▸ hk.append last
  rw [makeRoute]
  split
  · rcases hwalk : t.walkToDirectory r r.steps with f | k
    · cases f
      case notFound =>
        rcases hmade : t.makeDirectories false (t.start r) r.steps.dropLast with ⟨t', f | _⟩ <;>
          rw [hmade] at hway <;> exact hway
      all_goals exact .refl t _ _
    · exact .refl t _ _
  · exact makeDirectories_grown false _ (t.entry_start r)

theorem makeRoute_reaches (h : (t.makeRoute r).2 = .ok ()) :
    (t.makeRoute r).1.Reaches (t.start r) r.steps := by
  have hgrown : Grown t (t.makeRoute r).1 (t.start r) r.steps := makeRoute_grown
  rw [makeRoute] at h hgrown ⊢
  split at h
  · rename_i hdot
    rw [if_pos hdot] at hgrown ⊢
    rcases hwalk : t.walkToDirectory r r.steps with f | k
    · rw [hwalk] at h
      cases f
      case notFound =>
        rw [hwalk] at hgrown
        rcases hmade : t.makeDirectories false (t.start r) r.steps.dropLast with ⟨t', f | _⟩
        · rw [hmade] at h
          cases h
        · rw [hmade] at h hgrown
          simp only at h hgrown ⊢
          rcases hagain : t'.walkToDirectory r r.steps with f | k
          · rw [hagain] at h
            cases h
          · rw [← hgrown.start r]
            exact (walkToDirectory_ok_iff.1 hagain).1
      all_goals cases h
    · exact (walkToDirectory_ok_iff.1 hwalk).1
  · rename_i hdot
    rw [if_neg hdot]
    exact makeDirectories_reaches (t.entry_start r) h

theorem makeRoute_of_reaches (h : t.Reaches (t.start r) r.steps) :
    t.makeRoute r = (t, .ok ()) := by
  rw [makeRoute]
  split
  · rw [walkToDirectory_ok_iff.2 ⟨h, rfl⟩]
  · exact makeDirectories_of_reaches h

theorem ensureDirectory_grown (t : FileTree) (path : String) :
    Grown t (t.ensureDirectory path).1 (t.start (.ofPath path)) (Route.ofPath path).steps := by
  rw [ensureDirectory]
  split
  · exact .refl t _ _
  · cases pathFault path with
    | some f => exact .refl t _ _
    | none => exact makeRoute_grown

theorem ensureDirectory_reaches (hpath : path ≠ "") (h : (t.ensureDirectory path).2 = .ok ()) :
    (t.ensureDirectory path).1.Reaches (t.start (.ofPath path)) (Route.ofPath path).steps := by
  rw [ensureDirectory, if_neg hpath] at h ⊢
  cases hfault : pathFault path with
  | some f =>
    rw [hfault] at h
    cases h
  | none =>
    rw [hfault] at h
    exact makeRoute_reaches h

theorem ensureDirectory_of_reaches (hpath : pathFault path = none)
    (h : t.Reaches (t.start (.ofPath path)) (Route.ofPath path).steps) :
    t.ensureDirectory path = (t, .ok ()) := by
  rw [ensureDirectory, if_neg (pathFault_eq_none_iff.1 hpath).2.1, hpath]
  exact makeRoute_of_reaches h

end

end FileTree

end NativeBridge
