import InferenceService.Omni.System

namespace InferenceService
namespace Omni

/-!
# The load lifecycle with one loader

The service is designed around one load state: idle, then loading, then loaded or failed
with a message, changed only by the one loader `lifespan` starts.  `LoadState` is that
design as a machine, and `Globals.loadState` reads the flags as its state.  Started as the
server starts it, with the loader in place before any request, the process of `System`
refines the machine: each step leaves the state as it was or takes one of its transitions,
so a loaded or failed service stays so (`loadState_lifecycle`).

The loader's position decides the flags (`LoaderPc.Phase`).  Once the loader has ended no
global changes again: after its `finally` clause the flags record the outcome, and if the
device report of lines 77-79, which runs before the `try`, raises, the thread ends with
`model_loading` still true and the service stays loading.
-/

/-- The load state of the design. -/
inductive LoadState where
  | idle
  | loading
  | loaded
  | failed (message : String)
  deriving DecidableEq, Repr

/-- The design's transitions: a load starts once and ends loaded or failed. -/
inductive LoadState.Step : LoadState -> LoadState -> Prop
  | start : Step .idle .loading
  | succeed : Step .loading .loaded
  | fail (message : String) : Step .loading (.failed message)

theorem LoadState.Step.source {l l' : LoadState} (step : l.Step l') : l = .idle ∨ l = .loading := by
  cases step <;> simp

/-- The flags read as a load state. -/
def Globals.loadState (g : Globals) : LoadState :=
  if g.modelLoading then .loading
  else if g.modelLoaded then .loaded
  else match g.loadingError with
    | none => .idle
    | some message => .failed message

/-- The flags once a load has ended: loaded with no error, or not loaded with one. -/
def Globals.Concluded (g : Globals) : Prop :=
  g.modelLoaded = true ∧ g.loadingError = none ∨ g.modelLoaded = false ∧ g.loadingError ≠ none

/-- What the position of the one loader says of the flags. -/
def LoaderPc.Phase (g : Globals) : LoaderPc -> Prop
  | .checkLoading | .checkLoaded | .setLoading =>
      g.modelLoading = false ∧ g.modelLoaded = false ∧ g.loadingError = none
  | .reportDevice | .loadProcessor | .loadModel | .reportModel | .setLoaded | .recordError _
  | .died => g.modelLoading = true ∧ g.modelLoaded = false ∧ g.loadingError = none
  | .clearError => g.modelLoading = true ∧ g.modelLoaded = true
  | .clearLoading => g.modelLoading = true ∧ g.Concluded
  | .finished => g.modelLoading = false ∧ g.Concluded
  | .returned => False

/-- A loader that has returned at the guard, left its `finally` clause, or died before its
`try`. -/
def LoaderPc.Ended : LoaderPc -> Prop
  | .returned | .finished | .died => True
  | _ => False

theorem loadModelAsync_of_ended (g : Globals) (o : Outcome) {pc : LoaderPc} (ended : pc.Ended) :
    loadModelAsync g o pc = (g, pc) := by
  cases pc <;> first | rfl | exact ended.elim

/-- Each step of the one loader keeps its phase. -/
theorem loadModelAsync_phase {g : Globals} (o : Outcome) {pc : LoaderPc} (phase : pc.Phase g) :
    (loadModelAsync g o pc).2.Phase (loadModelAsync g o pc).1 := by
  cases pc with
  | reportDevice => cases found : o.cudaInfo <;> simp_all [loadModelAsync, LoaderPc.Phase]
  | loadProcessor => cases found : o.processor <;> simp_all [loadModelAsync, LoaderPc.Phase]
  | loadModel => cases found : o.model <;> simp_all [loadModelAsync, LoaderPc.Phase]
  | reportModel =>
      cases model : g.model <;> cases found : o.parameters <;>
        simp_all [loadModelAsync, LoaderPc.Phase]
  | _ => simp_all [loadModelAsync, LoaderPc.Phase, Globals.Concluded]

/-- Each step of the one loader leaves the load state or takes one transition: line 71
starts the load and the `finally` clause ends it. -/
theorem loadModelAsync_refines {g : Globals} (o : Outcome) {pc : LoaderPc} (phase : pc.Phase g) :
    (loadModelAsync g o pc).1.loadState = g.loadState ∨
      LoadState.Step g.loadState (loadModelAsync g o pc).1.loadState := by
  cases pc with
  | setLoading =>
      obtain ⟨idle, unloaded, clean⟩ := phase
      exact .inr (by simpa [loadModelAsync, Globals.loadState, idle, unloaded, clean] using .start)
  | clearLoading =>
      obtain ⟨loading, ⟨loaded, -⟩ | ⟨unloaded, failed⟩⟩ := phase
      · exact .inr (by simpa [loadModelAsync, Globals.loadState, loading, loaded] using .succeed)
      · obtain ⟨message, error⟩ := Option.ne_none_iff_exists'.mp failed
        exact .inr (by
          simpa [loadModelAsync, Globals.loadState, loading, unloaded, error] using .fail message)
  | reportDevice => cases found : o.cudaInfo <;> simp [loadModelAsync, found]
  | loadProcessor => cases found : o.processor <;> simp [loadModelAsync, found, Globals.loadState]
  | loadModel => cases found : o.model <;> simp [loadModelAsync, found, Globals.loadState]
  | reportModel =>
      cases model : g.model <;> cases found : o.parameters <;> simp [loadModelAsync, model, found]
  | _ => simp_all [loadModelAsync, LoaderPc.Phase, Globals.loadState]

namespace Service

/-- The process as the server runs it: `lifespan` starts the one loader, then requests
arrive and threads step. -/
inductive Served : Service -> Prop
  | started (device : String) : Served ((initial device).exec .startLoader)
  | exec {s : Service} (a : Act) : a.afterStartup = true -> Served s -> Served (s.exec a)

/-- Thread 0 is the one loader and every other thread serves a request; the loader's
position decides the flags. -/
def OneLoader (s : Service) : Prop :=
  ∃ pc rest, s.threads = .loader pc :: rest ∧ (∀ t ∈ rest, t.IsHandler) ∧ pc.Phase s.globals

/-- One step after start-up: a request or a handler's step leaves the loader and the globals
alone, and advancing thread 0 is one step of the loader. -/
theorem exec_of_oneLoader {s : Service} {pc : LoaderPc} {rest : List Thread}
    (threads : s.threads = .loader pc :: rest) (handlers : ∀ t ∈ rest, t.IsHandler) {a : Act}
    (serving : a.afterStartup = true) :
    (∃ rest', (s.exec a).threads = .loader pc :: rest' ∧ (∀ t ∈ rest', t.IsHandler) ∧
        (s.exec a).globals = s.globals) ∨
      ∃ o, (s.exec a).threads = .loader (loadModelAsync s.globals o pc).2 :: rest ∧
        (s.exec a).globals = (loadModelAsync s.globals o pc).1 := by
  cases a with
  | startLoader => simp [Act.afterStartup] at serving
  | request r =>
      refine .inl ⟨rest ++ [r.thread], by simp [exec, threads], fun t member => ?_, rfl⟩
      rcases List.mem_append.mp member with old | fresh
      · exact handlers t old
      · rw [List.mem_singleton.mp fresh]
        cases r <;> trivial
  | advance k o =>
      cases k with
      | zero => exact .inr ⟨o, by simp [exec, threads, Thread.step]⟩
      | succ j =>
          cases found : rest[j]? with
          | none =>
              exact .inl ⟨rest, by simp [exec, threads, found], handlers, by simp [exec, threads, found]⟩
          | some t =>
              have handler := handlers t (List.getElem?_mem found)
              rw [exec_advance_of_get (by simp [threads, found] : s.threads[j + 1]? = some t)]
              refine .inl ⟨rest.set j (t.step s.globals o).2, by simp [threads], fun u member => ?_,
                Thread.step_globals_of_isHandler handler _ _⟩
              rcases List.mem_or_eq_of_mem_set member with old | moved
              · exact handlers u old
              · cases t <;> first | exact handler.elim | (subst moved; trivial)

theorem OneLoader.exec {s : Service} (one : s.OneLoader) {a : Act} (serving : a.afterStartup = true) :
    (s.exec a).OneLoader := by
  obtain ⟨pc, rest, threads, handlers, phase⟩ := one
  rcases exec_of_oneLoader threads handlers serving with ⟨rest', threads', handlers', same⟩ | ⟨o, threads', moved⟩
  · exact ⟨pc, rest', threads', handlers', same ▸ phase⟩
  · exact ⟨_, rest, threads', handlers, moved ▸ loadModelAsync_phase o phase⟩

theorem Served.oneLoader {s : Service} (served : s.Served) : s.OneLoader := by
  induction served with
  | started device => exact ⟨.checkLoading, [], rfl, by simp, rfl, rfl, rfl⟩
  | exec a serving _ one => exact one.exec serving

/-- With one loader, a step raises `model_loading` only at line 71, with `model_loaded` false. -/
theorem OneLoader.raise {s : Service} (one : s.OneLoader) (a : Act) (serving : a.afterStartup = true)
    (idle : s.globals.modelLoading = false) (raised : (s.exec a).globals.modelLoading = true) :
    (s.exec a).globals.modelLoaded = false := by
  obtain ⟨pc, rest, threads, handlers, phase⟩ := one
  rcases exec_of_oneLoader threads handlers serving with ⟨-, -, -, same⟩ | ⟨o, -, moved⟩
  · rw [same] at raised ⊢
    simp [idle] at raised
  · rw [moved] at raised ⊢
    cases pc <;> first
      | exact phase.2.1
      | simp_all [loadModelAsync, LoaderPc.Phase]

theorem exec_of_ended {s : Service} {pc : LoaderPc} {rest : List Thread}
    (threads : s.threads = .loader pc :: rest) (handlers : ∀ t ∈ rest, t.IsHandler)
    (ended : pc.Ended) {a : Act} (serving : a.afterStartup = true) :
    ∃ rest', (s.exec a).threads = .loader pc :: rest' ∧ (∀ t ∈ rest', t.IsHandler) ∧
      (s.exec a).globals = s.globals := by
  rcases exec_of_oneLoader threads handlers serving with stays | ⟨o, threads', moved⟩
  · exact stays
  · rw [loadModelAsync_of_ended _ _ ended] at threads' moved
    exact ⟨rest, threads', handlers, moved⟩

theorem run_of_ended {s : Service} {pc : LoaderPc} {rest : List Thread}
    (threads : s.threads = .loader pc :: rest) (handlers : ∀ t ∈ rest, t.IsHandler)
    (ended : pc.Ended) {acts : List Act} (serving : ∀ a ∈ acts, a.afterStartup = true) :
    (s.run acts).globals = s.globals := by
  induction acts generalizing s rest with
  | nil => rfl
  | cons a more ih =>
      obtain ⟨rest', threads', handlers', same⟩ :=
        exec_of_ended threads handlers ended (serving a (List.mem_cons_self _ _))
      rw [run_cons, ih threads' handlers' fun b member => serving b (List.mem_cons_of_mem _ member),
        same]

/-- Each step after start-up leaves the load state or takes one transition of the design. -/
theorem Served.refines {s : Service} (served : s.Served) {a : Act} (serving : a.afterStartup = true) :
    (s.exec a).globals.loadState = s.globals.loadState ∨
      LoadState.Step s.globals.loadState (s.exec a).globals.loadState := by
  obtain ⟨pc, rest, threads, handlers, phase⟩ := served.oneLoader
  rcases exec_of_oneLoader threads handlers serving with ⟨-, -, -, same⟩ | ⟨o, -, moved⟩
  · exact .inl (by rw [same])
  · rw [moved]
    exact loadModelAsync_refines o phase

end Service

/-- Started as the server starts it, the flags read as idle; each later step leaves the
load state as it was or takes one transition of the design, so a loaded or failed service
stays so.  Once the loader has ended no global changes again: after the `finally` clause the
flags record the load's outcome, and if the device report before the `try` raised,
`model_loading` stays true. -/
theorem loadState_lifecycle :
    (∀ device, ((Service.initial device).exec .startLoader).globals.loadState = .idle) ∧
    (∀ (s : Service) (a : Act), s.Served -> a.afterStartup = true ->
      (s.exec a).globals.loadState = s.globals.loadState ∨
        LoadState.Step s.globals.loadState (s.exec a).globals.loadState) ∧
    (∀ (s : Service) (a : Act), s.Served -> a.afterStartup = true ->
      (s.globals.loadState = .loaded ∨ ∃ message, s.globals.loadState = .failed message) ->
      (s.exec a).globals.loadState = s.globals.loadState) ∧
    (∀ s : Service, s.Served -> ∀ pc rest, s.threads = .loader pc :: rest -> pc.Ended ->
      (pc = .finished -> s.globals.modelLoading = false ∧ s.globals.Concluded) ∧
      (pc = .died -> s.globals.modelLoading = true ∧ s.globals.modelLoaded = false) ∧
      ∀ acts : List Act, (∀ a ∈ acts, a.afterStartup = true) -> (s.run acts).globals = s.globals) := by
  refine ⟨fun _ => rfl, fun _ _ served serving => served.refines serving,
    fun s a served serving settled => ?_, fun s served pc rest threads ended => ?_⟩
  · rcases served.refines serving with same | step
    · exact same
    · rcases step.source with source | source <;> rcases settled with settled | ⟨_, settled⟩ <;>
        simp [source] at settled
  · obtain ⟨pc', rest', threads', handlers, phase⟩ := served.oneLoader
    rw [threads, List.cons.injEq, Thread.loader.injEq] at threads'
    obtain ⟨rfl, rfl⟩ := threads'
    refine ⟨fun finished => ?_, fun died => ?_, fun _ serving =>
      Service.run_of_ended threads handlers ended serving⟩
    · subst finished
      exact phase
    · subst died
      exact ⟨phase.1, phase.2.1⟩

end Omni
end InferenceService
