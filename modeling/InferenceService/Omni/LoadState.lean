import InferenceService.Omni.System

namespace InferenceService
namespace Omni

/-!
# The load state under every interleaving

Whatever the number of loaders and requests and however their steps interleave,
`model_loaded = True` implies that `model` and `processor` are set, and an inference handler
that has passed its gate finds both set at each of its library calls.

The invariant is per thread.  A loader between line 86 and line 108 has itself assigned
`processor`, and after line 94 also `model`; an inference handler past its gate read
`model_loaded = True`, when both were set.  Neither global ever returns to `None`
(`Globals.Grows`), so what a thread has established survives the steps of all the others.
-/

/-- Lines 108 and 177 (253) need this of the globals. -/
def LoadedSet (g : Globals) : Prop :=
  g.processor ≠ none ∧ g.model ≠ none

/-- An inference handler inside its `try`, past the gate. -/
def InferencePc.PastGate : InferencePc -> Prop
  | .applyTemplate | .encode _ | .toDevice _ | .generate _ | .decode _ _ => True
  | .checkLoaded | .checkLoading | .responded _ => False

/-- What a thread has established about `processor` and `model`, and what `health` and
`status` have answered. -/
def ThreadSees (g : Globals) : Thread -> Prop
  | .loader .loadModel => g.processor ≠ none
  | .loader .reportModel | .loader .setLoaded => LoadedSet g
  | .inference _ pc => pc.PastGate -> LoadedSet g
  | .health (.readDevice _) | .status (.readDevice _ _ _) => g.model ≠ none
  | .health (.responded r) => ∃ body, r = .health body
  | .status (.responded r) => ∃ body, r = .status body
  | _ => True

/-- The invariant: the implication of the section header, and each thread's view. -/
def LoadInvariant (s : Service) : Prop :=
  (s.globals.modelLoaded = true -> LoadedSet s.globals) ∧ ∀ t ∈ s.threads, ThreadSees s.globals t

theorem LoadedSet.grow {g g' : Globals} (grows : g.Grows g') (set : LoadedSet g) : LoadedSet g' :=
  ⟨grows.processor set.1, grows.model set.2⟩

theorem ThreadSees.grow {g g' : Globals} (grows : g.Grows g') {t : Thread} (sees : ThreadSees g t) :
    ThreadSees g' t := by
  cases t with
  | loader pc =>
      cases pc <;> first
        | exact trivial
        | exact grows.processor sees
        | exact LoadedSet.grow grows sees
  | inference _ pc => exact fun past => LoadedSet.grow grows (sees past)
  | health pc => cases pc <;> first | exact trivial | exact grows.model sees | exact sees
  | status pc => cases pc <;> first | exact trivial | exact grows.model sees | exact sees
  | listModels _ => exact trivial

/-- One loader step keeps the invariant's two parts for that loader. -/
theorem loadModelAsync_sees {g : Globals} (o : Outcome) {pc : LoaderPc}
    (loaded : g.modelLoaded = true -> LoadedSet g) (sees : ThreadSees g (.loader pc)) :
    ((loadModelAsync g o pc).1.modelLoaded = true -> LoadedSet (loadModelAsync g o pc).1) ∧
      ThreadSees (loadModelAsync g o pc).1 (.loader (loadModelAsync g o pc).2) := by
  cases pc with
  | loadProcessor =>
      cases found : o.processor <;> simp_all [loadModelAsync, ThreadSees, LoadedSet]
  | loadModel =>
      cases found : o.model <;> simp_all [loadModelAsync, ThreadSees, LoadedSet]
  | reportModel =>
      cases model : g.model <;> cases found : o.parameters <;>
        simp_all [loadModelAsync, ThreadSees, LoadedSet]
  | setLoaded => simp_all [loadModelAsync, ThreadSees, LoadedSet]
  | reportDevice => cases found : o.cudaInfo <;> simp_all [loadModelAsync, ThreadSees, LoadedSet]
  | checkLoading | checkLoaded =>
      constructor
      · exact loaded
      · simp only [loadModelAsync]; split <;> exact trivial
  | setLoading | clearError | recordError _ | clearLoading | returned | finished | died =>
      simp_all [loadModelAsync, ThreadSees, LoadedSet]

theorem inference_sees {g : Globals} (endpoint : Endpoint) (lib : Library) {pc : InferencePc}
    (loaded : g.modelLoaded = true -> LoadedSet g) (sees : pc.PastGate -> LoadedSet g) :
    (inference endpoint g lib pc).PastGate -> LoadedSet g := by
  cases pc with
  | checkLoaded =>
      by_cases gate : g.modelLoaded = true
      · exact fun _ => loaded gate
      · simp [inference, gate, InferencePc.PastGate]
  | checkLoading | responded _ => simp [inference, InferencePc.PastGate]
  | applyTemplate | encode _ | toDevice _ | generate _ | decode _ _ =>
      exact fun _ => sees trivial

theorem health_sees {g : Globals} {pc : HealthPc} (sees : ThreadSees g (.health pc)) :
    ThreadSees g (.health (health g pc)) := by
  cases pc with
  | readModel _ =>
      cases model : g.model <;> simp [Omni.health, model, ThreadSees]
  | readDevice _ =>
      cases model : g.model with
      | none => exact absurd model sees
      | some _ => simp [Omni.health, model, ThreadSees]
  | readLoading => simp only [Omni.health]; split <;> trivial
  | readLoadingField _ _ _ => exact ⟨_, rfl⟩
  | readLoaded | readLoadedField _ _ => trivial
  | responded _ => exact sees

theorem status_sees {g : Globals} {pc : StatusPc} (sees : ThreadSees g (.status pc)) :
    ThreadSees g (.status (status g pc)) := by
  cases pc with
  | readModel _ _ _ =>
      cases model : g.model <;> simp [Omni.status, model, ThreadSees, statusBody]
  | readDevice _ _ _ =>
      cases model : g.model with
      | none => exact absurd model sees
      | some _ => simp [Omni.status, model, ThreadSees, statusBody]
  | readLoaded | readLoading _ | readError _ _ => trivial
  | responded _ => exact sees

theorem Thread.step_sees {g : Globals} (o : Outcome) {t : Thread}
    (loaded : g.modelLoaded = true -> LoadedSet g) (sees : ThreadSees g t) :
    ((t.step g o).1.modelLoaded = true -> LoadedSet (t.step g o).1) ∧
      ThreadSees (t.step g o).1 (t.step g o).2 := by
  cases t with
  | loader pc => exact loadModelAsync_sees o loaded sees
  | inference endpoint pc =>
      exact ⟨loaded, by simpa [Thread.step, ThreadSees] using inference_sees endpoint o.library loaded sees⟩
  | health pc => exact ⟨loaded, health_sees sees⟩
  | status pc => exact ⟨loaded, status_sees sees⟩
  | listModels pc => exact ⟨loaded, trivial⟩

theorem loadInvariant_initial (device : String) : LoadInvariant (Service.initial device) := by
  simp [LoadInvariant, Service.initial, Globals.initial]

theorem loadInvariant_exec {s : Service} (invariant : LoadInvariant s) (a : Act) :
    LoadInvariant (s.exec a) := by
  obtain ⟨loaded, sees⟩ := invariant
  cases a with
  | startLoader =>
      refine ⟨loaded, fun t member => ?_⟩
      rcases List.mem_append.mp member with old | fresh
      · exact sees t old
      · simp at fresh; subst fresh; exact trivial
  | request r =>
      refine ⟨loaded, fun t member => ?_⟩
      rcases List.mem_append.mp member with old | fresh
      · exact sees t old
      · simp at fresh; subst fresh; cases r <;> simp [Request.thread, ThreadSees, InferencePc.PastGate]
  | advance k o =>
      cases found : s.threads[k]? with
      | none => rw [Service.exec_advance_of_none found]; exact ⟨loaded, sees⟩
      | some t =>
          have moved := Thread.step_sees o loaded (sees t (List.getElem?_mem found))
          rw [Service.exec_advance_of_get found]
          refine ⟨moved.1, fun u member => ?_⟩
          rcases List.mem_or_eq_of_mem_set member with old | rfl
          · exact (sees u old).grow (Thread.step_grows _ _ t)
          · exact moved.2

theorem loadInvariant_of_reachable {s : Service} (reachable : s.Reachable) : LoadInvariant s := by
  induction reachable with
  | initial device => exact loadInvariant_initial device
  | exec a _ ih => exact loadInvariant_exec ih a

/-- Over every interleaving of any number of `load_model_async` runs and handler executions:
in every reachable state `model_loaded = True` implies that `model` and `processor` are not
`None`; no step takes `model_loaded` from true back to false; no step of a handler, on any
of its paths, changes any global; and every inference handler past its gate finds
`processor` and `model` set. -/
theorem loadState_safe :
    (forall s : Service, s.Reachable -> s.globals.modelLoaded = true ->
      s.globals.model ≠ none ∧ s.globals.processor ≠ none) ∧
    (forall (s : Service) (a : Act), s.globals.modelLoaded = true ->
      (s.exec a).globals.modelLoaded = true) ∧
    (forall (s : Service) (k : Nat) (o : Outcome) (t : Thread), s.threads[k]? = some t ->
      t.IsHandler -> (s.exec (.advance k o)).globals = s.globals) ∧
    (forall s : Service, s.Reachable -> forall endpoint pc, Thread.inference endpoint pc ∈ s.threads ->
      pc.PastGate -> s.globals.processor ≠ none ∧ s.globals.model ≠ none) := by
  refine ⟨fun s reachable loaded => ?_, fun s a loaded => (s.exec_grows a).modelLoaded loaded,
    fun s k o t found handler => Service.exec_globals_of_handler found handler o,
    fun s reachable endpoint pc member past =>
      (loadInvariant_of_reachable reachable).2 _ member past⟩
  exact ((loadInvariant_of_reachable reachable).1 loaded).symm

/-- Over every interleaving of any number of loaders and handlers, `GET /health` and
`GET /status` answer only with their bodies, never with an error: the second read of
`model` in `str(model.device) if model else DEVICE` follows a first read that found it set,
and `model` once set is never `None` again. -/
theorem health_status_succeed :
    ∀ s : Service, s.Reachable -> ∀ r : Response,
      (Thread.health (.responded r) ∈ s.threads -> ∃ body, r = .health body) ∧
      (Thread.status (.responded r) ∈ s.threads -> ∃ body, r = .status body) :=
  fun _ reachable _ => ⟨fun member => (loadInvariant_of_reachable reachable).2 _ member,
    fun member => (loadInvariant_of_reachable reachable).2 _ member⟩

/-- A `/health` request answered while the load is under way. -/
theorem health_status_succeed_midload :
    ((Service.initial "cpu").run [.startLoader, .advance 0 {}, .advance 0 {}, .advance 0 {},
      .request .health, .advance 1 {}, .advance 1 {}, .advance 1 {}, .advance 1 {}]).Reachable ∧
    ∀ r, Thread.health (.responded r) ∈ ((Service.initial "cpu").run [.startLoader, .advance 0 {},
      .advance 0 {}, .advance 0 {}, .request .health, .advance 1 {}, .advance 1 {}, .advance 1 {},
      .advance 1 {}]).threads -> ∃ body, r = .health body :=
  have reachable := Service.reachable_run (.initial "cpu") [.startLoader, .advance 0 {},
    .advance 0 {}, .advance 0 {}, .request .health, .advance 1 {}, .advance 1 {}, .advance 1 {},
    .advance 1 {}]
  ⟨reachable, fun r => (health_status_succeed _ reachable r).1⟩

end Omni
end InferenceService
