/-
  NativeBridge/Proofs/Footprint.lean
  ==================================
  **What a run of the command line may touch.**  Only a request to generate that does
  not check writes at all, and only once it is prepared.  What it does then is one
  write of the text of the unit: whole if the run succeeds, and without a trace in any
  file if it does not.
-/
import NativeBridge.Proofs.Requests

namespace NativeBridge.Command

section

variable {t : FileTree} {o : GenerateOptions} {c : Catalog} {p : Plan} {e : CommandError}

theorem generate_checked (h : o.check = true) : (generate t o).1 = t := by
  rcases refused_or_prepared t o with ⟨e, hrefused⟩ | ⟨c, p, hprepared⟩
  · obtain ⟨log, hrun⟩ := generate_refused hrefused
    rw [hrun]
  · obtain ⟨log, hrun⟩ := generate_prepared hprepared
    rw [hrun, if_pos h]

/-- A prepared request that does not check ends as its write does. -/
theorem generate_written (h : Prepared t o c p) (hcheck : o.check = false) :
    ∃ log, generate t o = ((t.writeText p.destination p.unit.text).1,
      p.written log (t.writeText p.destination p.unit.text).2) := by
  obtain ⟨log, hrun⟩ := generate_prepared h
  rw [hcheck] at hrun
  exact ⟨log, hrun⟩

theorem generate_interrupted (h : Prepared t o c p) (hcode : (generate t o).2.code ≠ 0) :
    t.HolderGrown p.destination (generate t o).1 := by
  cases hcheck : o.check with
  | true =>
    rw [generate_checked hcheck]
    exact .refl t _ _
  | false =>
    obtain ⟨log, hrun⟩ := generate_written h hcheck
    have hall := t.writeText_allOrNothing p.destination p.unit.text
    rw [hrun] at hcode ⊢
    rcases hwrite : t.writeText p.destination p.unit.text with ⟨t', f | _⟩
    · rw [hwrite] at hall
      exact hall
    · rw [hwrite] at hcode
      exact absurd (written_code_iff.2 rfl) hcode

theorem generate_finished (h : Prepared t o c p) (hcheck : o.check = false)
    (hcode : (generate t o).2.code = 0) :
    t.Written p.destination p.unit.text (generate t o).1 := by
  obtain ⟨log, hrun⟩ := generate_written h hcheck
  have hall := t.writeText_allOrNothing p.destination p.unit.text
  rw [hrun] at hcode ⊢
  have hdone := written_code_iff.1 hcode
  rcases hwrite : t.writeText p.destination p.unit.text with ⟨t', ended⟩
  rw [hwrite] at hall hdone
  cases hdone
  exact hall

end

/-! ### Whole runs -/

/-- What a request to generate may do to a tree.  It leaves it alone if it checks, or
    if it is refused.  Once prepared, it may fail, and then at most there are more
    directories on the way to the destination, and no file is lost, changed or new; or
    it succeeds, and then the text of the unit is written at the destination. -/
structure GenerateOptions.Footprint (t : FileTree) (o : GenerateOptions) (t' : FileTree)
    (r : Response) : Prop where
  decided : (∃ e, Refused t o e) ∨ ∃ c p, Prepared t o c p
  checked : o.check = true → t' = t
  refused : ∀ e, Refused t o e → t' = t ∧ r.code = 1
  interrupted : ∀ c p, Prepared t o c p → r.code ≠ 0 → t.HolderGrown p.destination t'
  finished : ∀ c p, Prepared t o c p → o.check = false → r.code = 0 →
    t.Written p.destination p.unit.text t'

/-- Whatever does not generate leaves the tree as it is. -/
def Invocation.Footprint (t : FileTree) (after : FileTree × Response) : Invocation → Prop
  | .run _ (.generate o) => o.Footprint t after.1 after.2
  | _ => after.1 = t

theorem generate_footprint (t : FileTree) (o : GenerateOptions) :
    o.Footprint t (generate t o).1 (generate t o).2 where
  decided := refused_or_prepared t o
  checked := generate_checked
  refused e h := by
    obtain ⟨log, hrun⟩ := generate_refused h
    rw [hrun]
    exact ⟨rfl, rfl⟩
  interrupted _ _ := generate_interrupted
  finished _ _ := generate_finished

/-- **Every run keeps to its footprint**, for every tree and all arguments. -/
theorem run_keeps_footprint (t : FileTree) (args : List String) :
    (Invocation.ofArguments args).Footprint t (run t args) := by
  rw [run]
  cases Invocation.ofArguments args with
  | run verbosity request =>
    cases request with
    | generate o => exact generate_footprint t o
    | check o => rfl
  | version => rfl
  | help topic => rfl
  | misuse => rfl

end NativeBridge.Command
