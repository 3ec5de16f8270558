/-
  NativeBridge/Proofs/Interleaving.lean
  =====================================
  **Attachment on many threads.**  Threads take steps in any order: one attaches itself,
  asks whether it is attached, enters a bridge of the demo, or goes on with the call that
  it is within, one event at a time, until the call returns.  A thread may do all of this
  within a call as well, which is what the implementation does then.

  A step depends on the thread that takes it (`step_congr`) and is not noticed by any
  other (`step_other`), so a thread sees what it would see alone (`seen_alone`).  Whether a
  thread is attached is known from the schedule (`isAttached_after`), and its log starts
  with its attachment, which does not come again (`log_of_not_attached`).  Taken as one
  step of its thread, a call is `Threads.enter` (`log_enter`).
-/
import NativeBridge.Demo.Meaning
import NativeBridge.Demo.Sample

namespace NativeBridge

/-! ### Runs that attach nothing -/

namespace Run

variable {τ α β : Type}

/-- No attachment is logged in the run. -/
def Quiet (r : Run τ α) : Prop := .attached ∉ r.log

theorem quiet_ofOutcome (o : Outcome α) : (ofOutcome o : Run τ α).Quiet := List.not_mem_nil

theorem Quiet.map {r : Run τ α} (h : r.Quiet) (f : α → β) : (r.map f).Quiet := h

theorem Quiet.andThen {r : Run τ α} {f : α → Run τ β} (h : r.Quiet) (hf : ∀ a, (f a).Quiet) :
    (r.andThen f).Quiet := by
  obtain ⟨calls, log, o⟩ := r
  cases o with
  | done a => exact List.not_mem_append h (hf a)
  | failed chain => exact h
  | panicked p => exact h

theorem Quiet.unfailing {r : Run τ α} (h : r.Quiet) : r.unfailing.Quiet := by
  obtain ⟨calls, log, o⟩ := r
  cases o <;> exact h

theorem Quiet.contained {r : Run τ α} (h : r.Quiet) (env : EnvHandle) (default : α) :
    (r.contained env default).Quiet := by
  rw [Quiet, contained_log]
  refine List.not_mem_append h ?_
  split <;> simp

end Run

theorem Threads.attach_log (ts : Threads) (t : Nat) :
    (ts.attach t).2 = if ts.isAttached t then [] else [.attached] := by
  rw [attach]
  split <;> rfl

namespace Demo

variable {τ Db Status : Type}

/-- An implementation leaves it to the bridges to attach threads. -/
structure Implementation.Quiet (api : Implementation τ Db Status) : Prop where
  dbFromNative : ∀ env p, (api.dbFromNative env p).Quiet
  dbToNative : ∀ env d, (api.dbToNative env d).Quiet
  statusToNative : ∀ env s, (api.statusToNative env s).Quiet
  openDatabase : ∀ path, (api.openDatabase path).Quiet
  prepareStmt : ∀ d sql, (api.prepareStmt d sql).Quiet
  close : ∀ d, (api.close d).Quiet
  libVersion : api.libVersion.Quiet

theorem Entry.run_quiet {api : Implementation τ Db Status} (h : api.Quiet) (env : EnvHandle)
    (entry : Entry) : (entry.run api env).Quiet := by
  have htextFrom : ∀ s, (api.textFromNative env s).Quiet := fun _ => List.not_mem_nil
  have htextTo : ∀ s, (api.textToNative env s).Quiet := fun _ => List.not_mem_nil
  cases entry with
  | openDatabase p0 =>
    refine (Run.Quiet.contained ?_ env _).map _
    exact (htextFrom p0).andThen fun path => (h.openDatabase path).andThen fun d =>
      h.dbToNative env d
  | prepareStmt p0 p1 =>
    refine (Run.Quiet.contained ?_ env _).map _
    exact (h.dbFromNative env p0).andThen fun d => (htextFrom p1).andThen fun sql =>
      (h.prepareStmt d sql).andThen fun s => h.statusToNative env s
  | close p0 =>
    refine (Run.Quiet.contained ?_ env _).map _
    exact (h.dbFromNative env p0).andThen fun d => h.close d
  | libVersion =>
    refine (Run.Quiet.contained ?_ env _).map _
    exact h.libVersion.unfailing.andThen fun s => (htextTo s).andThen fun bs =>
      Run.quiet_ofOutcome _

/-! ### Steps of threads -/

/-- A call of a bridge, with the environment and the implementation that it gets. -/
structure BridgeCall (τ Db Status : Type) where
  api : Implementation τ Db Status
  env : EnvHandle
  entry : Entry
  quiet : api.Quiet

/-- What the call does once the thread is attached. -/
def BridgeCall.run (call : BridgeCall τ Db Status) : Run τ (Value Db Status) :=
  call.entry.run call.api call.env

/-- A call under way: what it has logged, and what is still to come. -/
structure Frame (τ Db Status : Type) where
  call : BridgeCall τ Db Status
  logged : List Event
  pending : List Event
  complete : logged ++ pending = call.run.log

structure System (τ Db Status : Type) where
  threads : Threads
  /-- The calls that a thread is within, the innermost first. -/
  frames : Nat → List (Frame τ Db Status)

inductive Action (τ Db Status : Type)
  | init
  | query
  | enter (call : BridgeCall τ Db Status)
  /-- Goes on with the innermost call. -/
  | proceed

/-- Actions that attach the thread. -/
inductive Action.Starts : Action τ Db Status → Prop
  | init : Action.init.Starts
  | enter (call : BridgeCall τ Db Status) : (Action.enter call).Starts

/-- What a thread sees of its own action. -/
inductive Sight (τ Db Status : Type)
  | logged (events : List Event)
  | answered (attached : Bool)
  /-- The call ends; `events` is what it has logged. -/
  | returned (call : BridgeCall τ Db Status) (events : List Event)
      (outcome : Outcome (Value Db Status))
  /-- There is no call to go on with. -/
  | nothing

/-- What is logged when the sight is seen. -/
def Sight.log : Sight τ Db Status → List Event
  | logged events => events
  | _ => []

namespace System

def initial : System τ Db Status := ⟨.initial, fun _ => []⟩

def withFrames (s : System τ Db Status) (t : Nat) (frames : List (Frame τ Db Status)) :
    System τ Db Status :=
  ⟨s.threads, fun u => if u = t then frames else s.frames u⟩

def attach (s : System τ Db Status) (t : Nat) : System τ Db Status :=
  ⟨(s.threads.attach t).1, s.frames⟩

def step (s : System τ Db Status) (t : Nat) :
    Action τ Db Status → System τ Db Status × Sight τ Db Status
  | .init => (s.attach t, .logged (s.threads.attach t).2)
  | .query => (s, .answered (s.threads.isAttached t))
  | .enter call =>
    ((s.attach t).withFrames t (⟨call, [], call.run.log, rfl⟩ :: s.frames t),
      .logged (s.threads.attach t).2)
  | .proceed =>
    match s.frames t with
    | [] => (s, .nothing)
    | ⟨call, logged, [], _⟩ :: outer =>
      (s.withFrames t outer, .returned call logged call.run.outcome)
    | ⟨call, logged, e :: pending, h⟩ :: outer =>
      (s.withFrames t (⟨call, logged ++ [e], pending, by simpa using h⟩ :: outer), .logged [e])

end System

/-- Which thread does what, one action after the other. -/
abbrev Schedule (τ Db Status : Type) := List (Nat × Action τ Db Status)

namespace System

def after (s : System τ Db Status) : Schedule τ Db Status → System τ Db Status
  | [] => s
  | (t, a) :: σ => (s.step t a).1.after σ

/-- What a thread sees in the course of a schedule. -/
def seen (s : System τ Db Status) (t : Nat) : Schedule τ Db Status → List (Sight τ Db Status)
  | [] => []
  | (u, a) :: σ =>
    if u = t then (s.step u a).2 :: (s.step u a).1.seen t σ else (s.step u a).1.seen t σ

/-- What is logged on a thread in the course of a schedule. -/
def log (s : System τ Db Status) (t : Nat) (σ : Schedule τ Db Status) : List Event :=
  (s.seen t σ).flatMap Sight.log

end System

/-- The actions of one thread in a schedule. -/
def Schedule.only (t : Nat) (σ : Schedule τ Db Status) : Schedule τ Db Status :=
  σ.filter fun (u, _) => u = t

/-- A thread takes an action that attaches it. -/
def Started (t : Nat) (σ : Schedule τ Db Status) : Prop := ∃ a, (t, a) ∈ σ ∧ a.Starts

namespace System

variable {s s' : System τ Db Status} {t u : Nat} {a : Action τ Db Status}
  {call : BridgeCall τ Db Status} {σ σ' : Schedule τ Db Status}

/-! ### A thread by itself -/

/-- Two states are the same for a thread. -/
structure AgreeOn (t : Nat) (s s' : System τ Db Status) : Prop where
  attached : s.threads.isAttached t = s'.threads.isAttached t
  frames : s.frames t = s'.frames t

/-- Nobody notices the steps of another thread. -/
theorem step_other (hother : u ≠ t) (a : Action τ Db Status) :
    AgreeOn t (s.step u a).1 s := by
  have hattach : (s.threads.attach u).1.isAttached t = s.threads.isAttached t := by
    simp [Threads.isAttached_attach, hother]
  cases a with
  | init => exact ⟨hattach, rfl⟩
  | query => exact ⟨rfl, rfl⟩
  | enter call => exact ⟨hattach, if_neg hother.symm⟩
  | proceed =>
    rw [step]
    split
    · exact ⟨rfl, rfl⟩
    · exact ⟨rfl, if_neg hother.symm⟩
    · exact ⟨rfl, if_neg hother.symm⟩

/-- A step goes by what the thread knows. -/
theorem step_congr (h : AgreeOn t s s') (a : Action τ Db Status) :
    (s.step t a).2 = (s'.step t a).2 ∧ AgreeOn t (s.step t a).1 (s'.step t a).1 := by
  have hlog : (s.threads.attach t).2 = (s'.threads.attach t).2 := by
    rw [Threads.attach_log, Threads.attach_log, h.attached]
  have hattach : (s.threads.attach t).1.isAttached t =
      (s'.threads.attach t).1.isAttached t := by
    simp [Threads.isAttached_attach]
  cases a with
  | init => exact ⟨congrArg Sight.logged hlog, hattach, h.frames⟩
  | query => exact ⟨congrArg Sight.answered h.attached, h⟩
  | enter call =>
    refine ⟨congrArg Sight.logged hlog, hattach, ?_⟩
    simp [step, withFrames, h.frames]
  | proceed =>
    simp only [step, h.frames]
    split
    · exact ⟨rfl, h⟩
    · exact ⟨rfl, h.attached, by simp [withFrames]⟩
    · exact ⟨rfl, h.attached, by simp [withFrames]⟩

/-- A thread sees what it would see if no other took a step. -/
theorem seen_alone (h : AgreeOn t s s') (σ : Schedule τ Db Status) :
    s.seen t σ = s'.seen t (σ.only t) := by
  induction σ generalizing s s' with
  | nil => rfl
  | cons first σ ih =>
    obtain ⟨u, a⟩ := first
    by_cases hsame : u = t
    · subst hsame
      obtain ⟨hsight, hagree⟩ := step_congr h a
      simp [seen, Schedule.only, hsight, ih hagree]
    · have hagree : AgreeOn t (s.step u a).1 s' := by
        obtain ⟨hattached, hframes⟩ := step_other (s := s) hsame a
        exact ⟨hattached.trans h.attached, hframes.trans h.frames⟩
      simp [seen, Schedule.only, hsame, ih hagree]

theorem seen_append (s : System τ Db Status) (t : Nat) (σ σ' : Schedule τ Db Status) :
    s.seen t (σ ++ σ') = s.seen t σ ++ (s.after σ).seen t σ' := by
  induction σ generalizing s with
  | nil => rfl
  | cons first σ ih =>
    obtain ⟨u, a⟩ := first
    simp only [List.cons_append, seen, after, ih]
    split <;> rfl

/-! ### Calls -/

/-- A call that is gone on with until it returns. -/
theorem seen_proceed {logged pending : List Event} {h : logged ++ pending = call.run.log}
    {outer : List (Frame τ Db Status)}
    (hframes : s.frames t = ⟨call, logged, pending, h⟩ :: outer) :
    s.seen t (List.replicate (pending.length + 1) (t, .proceed)) =
      pending.map (fun e => .logged [e]) ++ [.returned call call.run.log call.run.outcome] := by
  induction pending generalizing s logged with
  | nil =>
    obtain rfl : logged = call.run.log := by simpa using h
    simp [seen, step, hframes]
  | cons e pending ih =>
    have hsight : (s.step t .proceed).2 = .logged [e] := by
      simp only [step, hframes]
    have hnext : (s.step t .proceed).1.frames t =
        ⟨call, logged ++ [e], pending, by simpa using h⟩ :: outer := by
      simp [step, hframes, withFrames]
    rw [List.length_cons, List.replicate_succ, seen, if_pos rfl, hsight, ih hnext]
    rfl

/-- A call from its start to its end: the thread is attached, and the rest is the run of
    the call. -/
theorem seen_enter (s : System τ Db Status) (t : Nat) (call : BridgeCall τ Db Status) :
    s.seen t ((t, .enter call) :: List.replicate (call.run.log.length + 1) (t, .proceed)) =
      .logged (s.threads.attach t).2 :: (call.run.log.map fun e => .logged [e]) ++
        [.returned call call.run.log call.run.outcome] := by
  have hframes : (s.step t (.enter call)).1.frames t =
      ⟨call, [], call.run.log, rfl⟩ :: s.frames t := by
    simp [step, withFrames]
  rw [seen, if_pos rfl, seen_proceed hframes]
  rfl

/-- Gone through from start to end, a call logs what it logs as one step of its thread. -/
theorem log_enter (s : System τ Db Status) (t : Nat) (call : BridgeCall τ Db Status) :
    s.log t ((t, .enter call) :: List.replicate (call.run.log.length + 1) (t, .proceed)) =
      (s.threads.enter t call.run).2.log := by
  have hevents : ∀ events : List Event,
      (events.map fun e => (.logged [e] : Sight τ Db Status)).flatMap Sight.log = events := by
    intro events
    induction events with
    | nil => rfl
    | cons e events ih => exact congrArg (e :: ·) ih
  simp [log, seen_enter, hevents, Sight.log, Threads.enter]

/-- After a step a thread is within calls that it was within before, or enters. -/
theorem mem_frames_step {f : Frame τ Db Status} (h : f ∈ (s.step u a).1.frames t) :
    (∃ g ∈ s.frames t, g.call = f.call) ∨ u = t ∧ a = .enter f.call := by
  by_cases hsame : u = t
  · subst hsame
    cases a with
    | init => exact .inl ⟨f, h, rfl⟩
    | query => exact .inl ⟨f, h, rfl⟩
    | enter call =>
      simp only [step, withFrames, if_true, List.mem_cons] at h
      rcases h with rfl | h
      · exact .inr ⟨rfl, rfl⟩
      · exact .inl ⟨f, h, rfl⟩
    | proceed =>
      rw [step] at h
      split at h
      · exact .inl ⟨f, h, rfl⟩
      · rename_i hframes
        simp only [withFrames, if_true] at h
        exact .inl ⟨f, by simp [hframes, h], rfl⟩
      · rename_i call logged e pending hcomplete outer hframes
        simp only [withFrames, if_true, List.mem_cons] at h
        rcases h with rfl | h
        · exact .inl ⟨⟨call, logged, e :: pending, hcomplete⟩, by simp [hframes], rfl⟩
        · exact .inl ⟨f, by simp [hframes, h], rfl⟩
  · rw [(step_other hsame a).frames] at h
    exact .inl ⟨f, h, rfl⟩

/-- Only a call that the thread is within returns, with all events of its run. -/
theorem frame_of_returned {events : List Event} {outcome : Outcome (Value Db Status)}
    (h : (s.step t .proceed).2 = .returned call events outcome) :
    ∃ f ∈ s.frames t, f.call = call ∧ events = call.run.log ∧ outcome = call.run.outcome := by
  rw [step] at h
  split at h
  · cases h
  · rename_i hcomplete outer hframes
    cases h
    exact ⟨_, hframes ▸ List.mem_cons_self, rfl, by simpa using hcomplete, rfl⟩
  · cases h

/-- The calls that a thread is within have been entered on it. -/
theorem entered_after {f : Frame τ Db Status} (h : f ∈ (s.after σ).frames t) :
    (∃ g ∈ s.frames t, g.call = f.call) ∨ (t, .enter f.call) ∈ σ := by
  induction σ generalizing s with
  | nil => exact .inl ⟨f, h, rfl⟩
  | cons first σ ih =>
    obtain ⟨u, a⟩ := first
    rcases ih h with ⟨g, hg, hcall⟩ | hentered
    · rcases mem_frames_step hg with ⟨g', hg', hcall'⟩ | ⟨rfl, rfl⟩
      · exact .inl ⟨g', hg', hcall'.trans hcall⟩
      · rw [← hcall]
        exact .inr List.mem_cons_self
    · exact .inr (List.mem_cons_of_mem _ hentered)

/-! ### Attachment -/

theorem isAttached_step (s : System τ Db Status) (u : Nat) (a : Action τ Db Status) (t : Nat) :
    (s.step u a).1.threads.isAttached t = true ↔
      u = t ∧ a.Starts ∨ s.threads.isAttached t = true := by
  have hattach : (s.threads.attach u).1.isAttached t = true ↔
      u = t ∨ s.threads.isAttached t = true := by
    simp [Threads.isAttached_attach]
  have hquery : ¬ (Action.query : Action τ Db Status).Starts := by rintro ⟨⟩
  have hproceed : ¬ (Action.proceed : Action τ Db Status).Starts := by rintro ⟨⟩
  cases a with
  | init => simp [step, attach, hattach, Action.Starts.init]
  | query => simp [step, hquery]
  | enter call => simp [step, withFrames, attach, hattach, Action.Starts.enter]
  | proceed =>
    rw [step]
    split <;> simp [withFrames, hproceed]

theorem started_cons_iff :
    Started t ((u, a) :: σ) ↔ u = t ∧ a.Starts ∨ Started t σ := by
  simp only [Started, List.mem_cons, Prod.mk.injEq]
  constructor
  · rintro ⟨b, ⟨rfl, rfl⟩ | hb, hstarts⟩
    · exact .inl ⟨rfl, hstarts⟩
    · exact .inr ⟨b, hb, hstarts⟩
  · rintro (⟨rfl, hstarts⟩ | ⟨b, hb, hstarts⟩)
    · exact ⟨a, .inl ⟨rfl, rfl⟩, hstarts⟩
    · exact ⟨b, .inr hb, hstarts⟩

/-- A thread is attached if it was, or if it has taken an action that attaches it. -/
theorem isAttached_after (s : System τ Db Status) (t : Nat) (σ : Schedule τ Db Status) :
    (s.after σ).threads.isAttached t = true ↔
      Started t σ ∨ s.threads.isAttached t = true := by
  induction σ generalizing s with
  | nil => simp [after, Started]
  | cons first σ ih =>
    obtain ⟨u, a⟩ := first
    rw [after, ih, isAttached_step, started_cons_iff, or_left_comm, or_assoc]

/-- Whoever is within a call is attached. -/
def Entered (s : System τ Db Status) : Prop :=
  ∀ t, ∀ f ∈ s.frames t, s.threads.isAttached t = true

theorem Entered.step (h : s.Entered) (u : Nat) (a : Action τ Db Status) :
    (s.step u a).1.Entered := by
  intro t f hf
  rw [isAttached_step]
  rcases mem_frames_step hf with ⟨g, hg, -⟩ | ⟨rfl, rfl⟩
  · exact .inr (h t g hg)
  · exact .inl ⟨rfl, .enter _⟩

/-! ### What is logged -/

theorem sight_of_starts (s : System τ Db Status) (t : Nat) (h : a.Starts) :
    (s.step t a).2 = .logged (if s.threads.isAttached t then [] else [.attached]) := by
  rw [← Threads.attach_log]
  cases h <;> rfl

/-- Other actions log at most an event of the run of a call, and a call is needed for it. -/
theorem log_of_not_starts (s : System τ Db Status) (t : Nat) (h : ¬ a.Starts) :
    .attached ∉ (s.step t a).2.log ∧ (s.frames t = [] → (s.step t a).2.log = []) := by
  cases a with
  | init => exact absurd .init h
  | query => exact ⟨List.not_mem_nil, fun _ => rfl⟩
  | enter call => exact absurd (.enter call) h
  | proceed =>
    rw [step]
    split
    · exact ⟨List.not_mem_nil, fun _ => rfl⟩
    · exact ⟨List.not_mem_nil, fun _ => rfl⟩
    · rename_i call logged e pending hcomplete outer hframes
      have hquiet : .attached ∉ call.run.log := call.entry.run_quiet call.quiet call.env
      constructor
      · intro hattached
        obtain rfl := List.mem_singleton.1 hattached
        rw [← hcomplete] at hquiet
        exact hquiet (List.mem_append_right _ List.mem_cons_self)
      · intro hempty
        rw [hempty] at hframes
        cases hframes

theorem log_cons_same (s : System τ Db Status) (t : Nat) (a : Action τ Db Status)
    (σ : Schedule τ Db Status) :
    s.log t ((t, a) :: σ) = (s.step t a).2.log ++ (s.step t a).1.log t σ := by
  simp [log, seen]

theorem log_cons_other (s : System τ Db Status) (h : u ≠ t) (a : Action τ Db Status)
    (σ : Schedule τ Db Status) : s.log t ((u, a) :: σ) = (s.step u a).1.log t σ := by
  simp [log, seen, h]

/-- A thread that is attached is not attached again. -/
theorem attached_not_mem_log (h : s.threads.isAttached t = true) (σ : Schedule τ Db Status) :
    .attached ∉ s.log t σ := by
  induction σ generalizing s with
  | nil => exact List.not_mem_nil
  | cons first σ ih =>
    obtain ⟨u, a⟩ := first
    have hrest := ih ((isAttached_step s u a t).2 (.inr h))
    by_cases hsame : u = t
    · subst hsame
      rw [log_cons_same]
      refine List.not_mem_append ?_ hrest
      by_cases hstarts : a.Starts
      · rw [sight_of_starts s u hstarts, h]
        exact List.not_mem_nil
      · exact (log_of_not_starts s u hstarts).1
    · rwa [log_cons_other s hsame]

/-- The log of a thread that is not attached is empty until the thread attaches itself, and
    starts with that. -/
theorem log_of_not_attached (hentered : s.Entered) (h : s.threads.isAttached t = false)
    (σ : Schedule τ Db Status) :
    (Started t σ → ∃ rest, s.log t σ = .attached :: rest ∧ .attached ∉ rest) ∧
      (¬ Started t σ → s.log t σ = []) := by
  induction σ generalizing s with
  | nil => exact ⟨fun ⟨_, hmem, _⟩ => absurd hmem List.not_mem_nil, fun _ => rfl⟩
  | cons first σ ih =>
    obtain ⟨u, a⟩ := first
    rw [started_cons_iff]
    by_cases hstarts : u = t ∧ a.Starts
    · obtain ⟨rfl, hstarts⟩ := hstarts
      have hnow : (s.step u a).1.threads.isAttached u = true :=
        (isAttached_step s u a u).2 (.inl ⟨rfl, hstarts⟩)
      refine ⟨fun _ => ⟨_, ?_, attached_not_mem_log hnow σ⟩, fun hnot => ?_⟩
      · rw [log_cons_same, sight_of_starts s u hstarts, h]
        rfl
      · exact absurd (.inl ⟨rfl, hstarts⟩) hnot
    · have hstill : (s.step u a).1.threads.isAttached t = false := by
        rw [← Bool.not_eq_true, isAttached_step, h]
        simp [hstarts]
      have hlog : s.log t ((u, a) :: σ) = (s.step u a).1.log t σ := by
        by_cases hsame : u = t
        · subst hsame
          have hframes : s.frames u = [] := List.eq_nil_iff_forall_not_mem.2 fun f hf =>
            Bool.false_ne_true (h.symm.trans (hentered u f hf))
          rw [log_cons_same, (log_of_not_starts s u fun hs => hstarts ⟨rfl, hs⟩).2 hframes]
          rfl
        · exact log_cons_other s hsame a σ
      rw [hlog, or_iff_right hstarts]
      exact ih (hentered.step u a) hstill

end System

/-! ### Every interleaving -/

/-- What threads see in the course of a schedule, when no thread is attached before. -/
structure AttachesOnce (σ : Schedule τ Db Status) : Prop where
  /-- A thread is told that it is attached exactly if it has attached itself before. -/
  answers : ∀ t, ∃ attached, ((System.initial.after σ).step t .query).2 = .answered attached ∧
    (attached = true ↔ Started t σ)
  first : ∀ t a, a.Starts → ¬ Started t σ →
    ((System.initial.after σ).step t a).2 = .logged [.attached]
  later : ∀ t a, a.Starts → Started t σ →
    ((System.initial.after σ).step t a).2 = .logged []
  /-- In the log of a thread its attachment comes once, and before everything else. -/
  attached : ∀ t, Started t σ →
    ∃ rest, System.initial.log t σ = .attached :: rest ∧ .attached ∉ rest
  silent : ∀ t, ¬ Started t σ → System.initial.log t σ = []
  /-- No thread notices what others do. -/
  alone : ∀ t, System.initial.seen t σ = System.initial.seen t (σ.only t)
  /-- A call that returns was entered on its thread; events and value are those of its
      run, which goes by the environment, the arguments and the implementation. -/
  returns : ∀ t call events outcome,
    ((System.initial.after σ).step t .proceed).2 = .returned call events outcome →
      (t, .enter call) ∈ σ ∧ events = call.run.log ∧ outcome = call.run.outcome
  /-- A call that a thread goes on with returns, whatever was before and whatever others
      do in the meantime. -/
  completes : ∀ t call σ', Schedule.only t σ' =
      (t, .enter call) :: List.replicate (call.run.log.length + 1) (t, .proceed) →
    ∃ attachment, (Started t σ ∧ attachment = [] ∨ ¬ Started t σ ∧ attachment = [.attached]) ∧
      System.initial.seen t (σ ++ σ') = System.initial.seen t σ ++
        (.logged attachment :: (call.run.log.map fun e => .logged [e]) ++
          [.returned call call.run.log call.run.outcome])

/-- **Attachment is once per thread, whatever the interleaving.** -/
theorem interleaving_attachesOnce (σ : Schedule τ Db Status) : AttachesOnce σ := by
  have hattached : ∀ t, (System.initial.after σ).threads.isAttached t = true ↔ Started t σ := by
    intro t
    rw [System.isAttached_after]
    exact or_iff_left Bool.false_ne_true
  have hentered : (System.initial : System τ Db Status).Entered := by
    intro t f hf
    cases hf
  have hlog := fun t => System.log_of_not_attached (t := t) hentered rfl σ
  constructor
  case answers =>
    intro t
    exact ⟨_, rfl, hattached t⟩
  case first =>
    intro t a hstarts hnot
    rw [System.sight_of_starts _ t hstarts, if_neg (mt (hattached t).1 hnot)]
  case later =>
    intro t a hstarts hstarted
    rw [System.sight_of_starts _ t hstarts, if_pos ((hattached t).2 hstarted)]
  case attached =>
    intro t
    exact (hlog t).1
  case silent =>
    intro t
    exact (hlog t).2
  case alone =>
    intro t
    exact System.seen_alone ⟨rfl, rfl⟩ σ
  case returns =>
    intro t call events outcome hreturned
    obtain ⟨f, hf, rfl, rfl, rfl⟩ := System.frame_of_returned hreturned
    refine ⟨(System.entered_after hf).resolve_left ?_, rfl, rfl⟩
    rintro ⟨g, hg, -⟩
    cases hg
  case completes =>
    intro t call σ' honly
    rw [System.seen_append, System.seen_alone ⟨rfl, rfl⟩ σ', honly, System.seen_enter]
    refine ⟨_, ?_, rfl⟩
    rw [Threads.attach_log, ← hattached]
    cases (System.initial.after σ).threads.isAttached t <;> simp

theorem sampleImplementation_quiet {b : Behaviour} (hopen : b.openDatabase.Quiet)
    (hprepare : b.prepareStmt.Quiet) (hclose : b.close.Quiet) (hversion : b.libVersion.Quiet) :
    (sampleImplementation b).Quiet := by
  have hcall : ∀ c : SampleCall, (Run.call c).Quiet := fun _ => List.not_mem_nil
  refine ⟨fun env p => ?_, fun env d => ?_, fun env n => ?_, fun path => ?_, fun d sql => ?_,
    fun d => ?_, ?_⟩
  · refine (hcall _).andThen fun _ => ?_
    split <;> exact Run.quiet_ofOutcome _
  · exact (hcall _).andThen fun _ => Run.quiet_ofOutcome _
  · refine (hcall _).andThen fun _ => ?_
    split <;> exact Run.quiet_ofOutcome _
  · exact (hcall _).andThen fun _ => hopen
  · exact (hcall _).andThen fun _ => hprepare
  · exact (hcall _).andThen fun _ => hclose
  · exact (hcall _).andThen fun _ => hversion

/-- A `close` without a database, which fails in the conversion of its argument. -/
def failingClose : BridgeCall SampleCall NativePointer Int32 where
  api := sampleImplementation ⟨return .null, return 0, return (), return ""⟩
  env := .detached
  entry := .close .null
  quiet := sampleImplementation_quiet (Run.quiet_ofOutcome _) (Run.quiet_ofOutcome _)
    (Run.quiet_ofOutcome _) (Run.quiet_ofOutcome _)

example : System.initial.log 1 [(1, .enter failingClose), (2, .init), (1, .proceed), (2, .query),
    (1, .proceed), (1, .init)] =
      [.attached, .contained 0 "bridged call failed: null database handle"] := by
  decide

end Demo

end NativeBridge
