import InferenceService.Omni.Handlers
import Mathlib.Data.List.Basic

namespace InferenceService
namespace Omni

/-!
# Interleavings of the loader and the handlers

The process is its globals and the list of threads started so far.  At any point `lifespan`
may start another loader (it does so on every entry), a request may arrive, or any started
thread may take one atomic step.  A run is any sequence of these, so every statement about
`Reachable` states covers every interleaving of any number of loaders and handlers.

Two facts hold of every step, reachable or not: only a loader step changes the globals,
and no step takes `model` or `processor` back to `None` or `model_loaded` back to false.
Every load-state invariant in the later modules rests on them.
-/

/-- The process: the globals and every thread started so far, in the order started. -/
structure Service where
  globals : Globals
  threads : List Thread

/-- What can happen next: `lifespan` is entered and starts a thread running
`load_model_async` (lines 129-130), a request arrives and a handler thread starts serving
it, or thread `k` takes one atomic step, its library calls doing what `outcome` says. -/
inductive Act where
  | startLoader
  | request (r : Request)
  | advance (k : Nat) (outcome : Outcome)

/-- A request or a step: anything but another entry into `lifespan`. -/
def Act.afterStartup : Act -> Bool
  | .startLoader => false
  | .request _ | .advance _ _ => true

namespace Service

/-- The process right after import, before `lifespan` runs. -/
def initial (device : String) : Service := ⟨Globals.initial device, []⟩

/-- One step of the process.  Advancing a thread that was never started does nothing. -/
def exec (s : Service) : Act -> Service
  | .startLoader => { s with threads := s.threads ++ [.loader .checkLoading] }
  | .request r => { s with threads := s.threads ++ [r.thread] }
  | .advance k o =>
      match s.threads[k]? with
      | none => s
      | some t => ⟨(t.step s.globals o).1, s.threads.set k (t.step s.globals o).2⟩

/-- A run of the process. -/
def run (s : Service) (acts : List Act) : Service :=
  acts.foldl exec s

/-- The states some run from start-up reaches. -/
inductive Reachable : Service -> Prop
  | initial (device : String) : Reachable (initial device)
  | exec {s : Service} (a : Act) : Reachable s -> Reachable (s.exec a)

theorem reachable_run {s : Service} (reachable : Reachable s) (acts : List Act) :
    Reachable (s.run acts) := by
  induction acts generalizing s with
  | nil => exact reachable
  | cons a rest ih => exact ih (.exec a reachable)

@[simp] theorem run_nil (s : Service) : s.run [] = s := rfl

@[simp] theorem run_cons (s : Service) (a : Act) (rest : List Act) :
    s.run (a :: rest) = (s.exec a).run rest := rfl

theorem exec_advance_of_get {s : Service} {k : Nat} {t : Thread} (found : s.threads[k]? = some t)
    (o : Outcome) :
    s.exec (.advance k o) = ⟨(t.step s.globals o).1, s.threads.set k (t.step s.globals o).2⟩ := by
  simp [exec, found]

theorem exec_advance_of_none {s : Service} {k : Nat} (missing : s.threads[k]? = none)
    (o : Outcome) : s.exec (.advance k o) = s := by
  simp [exec, missing]

/-- Every thread after a step was there before, moved by the step, or was just started. -/
theorem mem_exec_threads {s : Service} {a : Act} {u : Thread} (member : u ∈ (s.exec a).threads) :
    u ∈ s.threads ∨ (a = .startLoader ∧ u = .loader .checkLoading) ∨
      (∃ r, a = .request r ∧ u = r.thread) ∨
      (∃ k o t, a = .advance k o ∧ s.threads[k]? = some t ∧ u = (t.step s.globals o).2) := by
  cases a with
  | startLoader => simpa [exec] using member
  | request r => simpa [exec] using member
  | advance k o =>
      cases found : s.threads[k]? with
      | none => rw [exec_advance_of_none found] at member; exact .inl member
      | some t =>
          rw [exec_advance_of_get found] at member
          rcases List.mem_or_eq_of_mem_set member with old | moved
          · exact .inl old
          · exact .inr (.inr (.inr ⟨k, o, t, rfl, found, moved⟩))

/-- What thread `k` is after a step: what it was, moved by the step, or just started. -/
theorem getElem?_exec {s : Service} {a : Act} {k : Nat} {u : Thread}
    (found : (s.exec a).threads[k]? = some u) :
    s.threads[k]? = some u ∨
      (∃ o t, a = .advance k o ∧ s.threads[k]? = some t ∧ u = (t.step s.globals o).2) ∨
      (s.threads[k]? = none ∧
        (a = .startLoader ∧ u = .loader .checkLoading ∨ ∃ r, a = .request r ∧ u = r.thread)) := by
  cases a with
  | startLoader | request r =>
      simp only [exec, List.getElem?_append] at found
      split at found
      · exact .inl found
      · rename_i beyond
        cases last : k - s.threads.length with
        | succ _ => simp [last] at found
        | zero =>
            simp only [last, List.getElem?_cons_zero, Option.some.injEq] at found
            exact .inr (.inr ⟨List.getElem?_eq_none_iff.mpr (by omega), by simp [found]⟩)
  | advance j o =>
      cases found' : s.threads[j]? with
      | none => rw [exec_advance_of_none found'] at found; exact .inl found
      | some t =>
          rw [exec_advance_of_get found'] at found
          by_cases same : j = k
          · subst same
            rw [List.getElem?_set_self (List.getElem?_eq_some_iff.mp found').1] at found
            exact .inr (.inl ⟨o, t, rfl, found', (Option.some.inj found).symm⟩)
          · rw [List.getElem?_set_ne same] at found
            exact .inl found

end Service

/-! ## What a step can do to the globals -/

/-- The globals only ever move forward: `model` and `processor` do not return to `None`,
`model_loaded` does not return to false, and `DEVICE` does not change. -/
structure Globals.Grows (g g' : Globals) : Prop where
  model : g.model ≠ none -> g'.model ≠ none
  processor : g.processor ≠ none -> g'.processor ≠ none
  modelLoaded : g.modelLoaded = true -> g'.modelLoaded = true
  device : g'.device = g.device

theorem Globals.Grows.refl (g : Globals) : g.Grows g := ⟨id, id, id, rfl⟩

/-- Everything one step of the loader can do to the globals: nothing, or one of the
assignments of lines 71, 86, 94, 108, 109, 115 and 117. -/
theorem loadModelAsync_cases (g : Globals) (o : Outcome) (pc : LoaderPc) :
    (loadModelAsync g o pc).1 = g ∨
    (loadModelAsync g o pc).1 = { g with modelLoading := true } ∨
    (∃ p, (loadModelAsync g o pc).1 = { g with processor := some p }) ∨
    (∃ m, (loadModelAsync g o pc).1 = { g with model := some m }) ∨
    (loadModelAsync g o pc).1 = { g with modelLoaded := true } ∨
    (∃ e, (loadModelAsync g o pc).1 = { g with loadingError := e }) ∨
    (loadModelAsync g o pc).1 = { g with modelLoading := false } := by
  cases pc with
  | setLoading => exact .inr (.inl rfl)
  | reportDevice => cases found : o.cudaInfo <;> simp [loadModelAsync, found]
  | loadProcessor =>
      cases found : o.processor with
      | ok p => exact .inr (.inr (.inl ⟨p, by simp [loadModelAsync, found]⟩))
      | error e => simp [loadModelAsync, found]
  | loadModel =>
      cases found : o.model with
      | ok m => exact .inr (.inr (.inr (.inl ⟨m, by simp [loadModelAsync, found]⟩)))
      | error e => simp [loadModelAsync, found]
  | reportModel =>
      cases model : g.model <;> cases found : o.parameters <;> simp [loadModelAsync, model, found]
  | setLoaded => exact .inr (.inr (.inr (.inr (.inl rfl))))
  | clearError => exact .inr (.inr (.inr (.inr (.inr (.inl ⟨none, rfl⟩)))))
  | recordError e => exact .inr (.inr (.inr (.inr (.inr (.inl ⟨some e, rfl⟩)))))
  | clearLoading => exact .inr (.inr (.inr (.inr (.inr (.inr rfl)))))
  | checkLoading | checkLoaded | returned | finished | died => exact .inl rfl

theorem loadModelAsync_grows (g : Globals) (o : Outcome) (pc : LoaderPc) :
    g.Grows (loadModelAsync g o pc).1 := by
  rcases loadModelAsync_cases g o pc with same | same | ⟨_, same⟩ | ⟨_, same⟩ | same | ⟨_, same⟩ | same <;>
    rw [same] <;> exact ⟨by simp_all, by simp_all, by simp_all, rfl⟩

theorem Thread.step_grows (g : Globals) (o : Outcome) (t : Thread) : g.Grows (t.step g o).1 := by
  cases t with
  | loader pc => exact loadModelAsync_grows g o pc
  | _ => exact .refl g

theorem Service.exec_grows (s : Service) (a : Act) : s.globals.Grows (s.exec a).globals := by
  cases a with
  | startLoader | request _ => exact .refl _
  | advance k o =>
      cases found : s.threads[k]? with
      | none => rw [Service.exec_advance_of_none found]; exact .refl _
      | some t => rw [Service.exec_advance_of_get found]; exact Thread.step_grows _ _ t

/-- A handler's step, whichever branch it takes, leaves every global as it was. -/
theorem Service.exec_globals_of_handler {s : Service} {k : Nat} {t : Thread}
    (found : s.threads[k]? = some t) (handler : t.IsHandler) (o : Outcome) :
    (s.exec (.advance k o)).globals = s.globals := by
  rw [Service.exec_advance_of_get found]
  exact Thread.step_globals_of_isHandler handler _ _

end Omni
end InferenceService
