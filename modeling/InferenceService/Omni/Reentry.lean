import InferenceService.Omni.Progress

namespace InferenceService
namespace Omni

/-!
# The re-entry guard of `load_model_async`

Lines 68-71 read `if model_loading or model_loaded: return` and then assign
`model_loading = True`.  An invocation whose check finds either flag set returns for good.
The check and the assignment are separate steps, and the check does not look at
`loading_error`.  The guard therefore keeps every later invocation away once the model is
loaded, and once no invocation is still running the load state is frozen for good.  It does
not stop an invocation started after a failure, nor one whose check ran before another
invocation's assignment: both of these load again.
-/

/-- A loader that has got past the guard of line 68. -/
def LoaderPc.PastGuard : LoaderPc -> Prop
  | .checkLoading | .checkLoaded | .returned => False
  | _ => True

/-- A loader between line 71 and the end of its `finally` clause. -/
def LoaderPc.InFlight : LoaderPc -> Prop
  | .setLoading | .reportDevice | .loadProcessor | .loadModel | .reportModel | .setLoaded
  | .clearError | .recordError _ | .clearLoading => True
  | .checkLoading | .checkLoaded | .returned | .finished | .died => False

/-! ## The two reads of line 68 -/

/-- A loader whose guard step reads `model_loading` true, or `model_loaded` true after the
`or`, returns on line 69 and stays returned for the rest of any run. -/
theorem guard_returns {s : Service} {k : Nat} {pc : LoaderPc}
    (found : s.threads[k]? = some (.loader pc))
    (stops : pc = .checkLoading ∧ s.globals.modelLoading = true ∨
      pc = .checkLoaded ∧ s.globals.modelLoaded = true)
    (o : Outcome) (acts : List Act) :
    ((s.exec (.advance k o)).run acts).threads[k]? = some (.loader .returned) := by
  have returned : (loadModelAsync s.globals o pc).2 = .returned := by
    rcases stops with ⟨rfl, loading⟩ | ⟨rfl, loaded⟩ <;> simp [loadModelAsync, *]
  have moved := Service.getElem?_exec_self found o
  simp only [Thread.step, returned] at moved
  exact Service.run_of_answered moved rfl acts

/-! ## After the model is loaded -/

/-- With `model_loaded` true, a loader at the guard stays out of the loading code and
changes nothing. -/
theorem loadModelAsync_of_loaded {g : Globals} (loaded : g.modelLoaded = true) (o : Outcome)
    {pc : LoaderPc} (out : ¬pc.InFlight) :
    (loadModelAsync g o pc).1 = g ∧ ¬(loadModelAsync g o pc).2.InFlight ∧
      ((loadModelAsync g o pc).2.PastGuard -> pc.PastGuard) := by
  cases pc with
  | checkLoading =>
      cases loading : g.modelLoading <;>
        simp [loadModelAsync, loading, LoaderPc.InFlight, LoaderPc.PastGuard]
  | checkLoaded => simp [loadModelAsync, loaded, LoaderPc.InFlight, LoaderPc.PastGuard]
  | returned | finished | died => simp [loadModelAsync, LoaderPc.InFlight, LoaderPc.PastGuard]
  | _ => simp [LoaderPc.InFlight] at out

/-- Once `model_loaded` is true, no step lets a loader past the guard that was not past it
before. -/
theorem exec_pastGuard_of_loaded {s : Service} (loaded : s.globals.modelLoaded = true) {a : Act}
    {k : Nat} {pc : LoaderPc} (found : (s.exec a).threads[k]? = some (.loader pc))
    (past : pc.PastGuard) : ∃ pc₀, s.threads[k]? = some (.loader pc₀) ∧ pc₀.PastGuard := by
  rcases Service.getElem?_exec found with same | ⟨o, t, -, before, moved⟩ | ⟨-, fresh⟩
  · exact ⟨pc, same, past⟩
  · cases t with
    | loader pc₀ =>
        refine ⟨pc₀, before, ?_⟩
        by_cases out : pc₀.InFlight
        · cases pc₀ <;> simp_all [LoaderPc.InFlight, LoaderPc.PastGuard]
        · simp only [Thread.step, Thread.loader.injEq] at moved
          exact (loadModelAsync_of_loaded loaded o out).2.2 (moved ▸ past)
    | _ => simp [Thread.step] at moved
  · rcases fresh with ⟨-, fresh⟩ | ⟨r, -, fresh⟩
    · cases fresh; exact absurd past id
    · cases r <;> simp [Request.thread] at fresh

/-- One step from a loaded state with no loader in flight changes no global and starts no
load. -/
theorem exec_frozen {s : Service} (loaded : s.globals.modelLoaded = true)
    (idle : ∀ pc, .loader pc ∈ s.threads -> ¬pc.InFlight) (a : Act) :
    (s.exec a).globals = s.globals ∧ ∀ pc, .loader pc ∈ (s.exec a).threads -> ¬pc.InFlight := by
  have loader {k : Nat} {pc₀ : LoaderPc} (found : s.threads[k]? = some (.loader pc₀)) (o : Outcome) :=
    loadModelAsync_of_loaded loaded o (idle pc₀ (List.getElem?_mem found))
  refine ⟨?_, fun pc member => ?_⟩
  · cases a with
    | startLoader | request _ => rfl
    | advance k o =>
        cases found : s.threads[k]? with
        | none => rw [Service.exec_advance_of_none found]
        | some t =>
            rw [Service.exec_advance_of_get found]
            cases t with
            | loader pc₀ => exact (loader found o).1
            | _ => rfl
  · rcases Service.mem_exec_threads member with old | ⟨-, fresh⟩ | ⟨r, -, fresh⟩ | ⟨k, o, t, -, found, moved⟩
    · exact idle pc old
    · cases fresh; simp [LoaderPc.InFlight]
    · cases r <;> simp [Request.thread] at fresh
    · cases t with
      | loader pc₀ =>
          simp only [Thread.step, Thread.loader.injEq] at moved
          exact moved ▸ (loader found o).2.1
      | _ => simp [Thread.step] at moved

theorem run_frozen {s : Service} (loaded : s.globals.modelLoaded = true)
    (idle : ∀ pc, .loader pc ∈ s.threads -> ¬pc.InFlight) (acts : List Act) :
    (s.run acts).globals = s.globals := by
  induction acts generalizing s with
  | nil => rfl
  | cons a rest ih =>
      have step := exec_frozen loaded idle a
      rw [Service.run_cons, ih (step.1 ▸ loaded) step.2, step.1]

/-! ## What the guard lets through -/

section Guard

variable {s : Service} (idle : s.globals.modelLoading = false)
  (unloaded : s.globals.modelLoaded = false)
include idle unloaded

/-- From any state with `model_loading` and `model_loaded` both false, the failed state
included, a newly started invocation passes the guard and sets `model_loading` again. -/
theorem guard_passes (o : Outcome) :
    (s.run [.startLoader, .advance s.threads.length o, .advance s.threads.length o,
      .advance s.threads.length o]).globals.modelLoading = true := by
  simp [Service.run, Service.exec, List.getElem?_append, List.getElem_append_right, idle,
    unloaded, Thread.step, loadModelAsync]

/-- Two invocations whose checks both come before either assignment both pass the guard and
both call `AutoProcessor.from_pretrained`. -/
theorem guards_race :
    (s.run [.startLoader, .startLoader,
      .advance s.threads.length {}, .advance (s.threads.length + 1) {},
      .advance s.threads.length {}, .advance (s.threads.length + 1) {},
      .advance s.threads.length {}, .advance (s.threads.length + 1) {},
      .advance s.threads.length {}, .advance (s.threads.length + 1) {},
      .advance s.threads.length {}, .advance (s.threads.length + 1) {}]).threads.drop
        s.threads.length = [.loader .loadModel, .loader .loadModel] := by
  simp [Service.run, Service.exec, List.getElem?_append, List.getElem_append_right, idle,
    unloaded, Thread.step, loadModelAsync]

end Guard

/-! ## The guard as a whole -/

/-- Two `lifespan` entries whose loaders both check before either sets `model_loading` both
call `AutoProcessor.from_pretrained`; and after a load that raised, a new loader takes the
state back to loading. -/
theorem reentry_guard_counterexample :
    ((Service.initial "cpu").run [.startLoader, .startLoader, .advance 0 {}, .advance 1 {},
      .advance 0 {}, .advance 1 {}, .advance 0 {}, .advance 1 {}, .advance 0 {}, .advance 1 {},
      .advance 0 {}, .advance 1 {}]).threads = [.loader .loadModel, .loader .loadModel] ∧
    let failed := (Service.initial "cpu").run [.startLoader, .advance 0 {}, .advance 0 {},
      .advance 0 {}, .advance 0 {}, .advance 0 { processor := .error "no such file" },
      .advance 0 {}, .advance 0 {}]
    failed.globals.modelLoading = false ∧ failed.globals.modelLoaded = false ∧
      failed.globals.loadingError = some "no such file" ∧
      (failed.run [.startLoader, .advance 1 {}, .advance 1 {}, .advance 1 {}]).globals.modelLoading =
        true := by
  decide

/-- For any number of invocations in any interleaving: an invocation whose check reads
`model_loading` or `model_loaded` true returns and stays returned; `model_loaded`, once
true, stays true and lets no further invocation past the guard, and if at that point none
is between its guard and the end of its `finally` clause, no global ever changes again.  From any
state with `model_loading` and `model_loaded` both false, failed states included, a new
invocation passes the guard and sets `model_loading`, and two invocations whose checks both
precede either assignment both reach the loading calls. -/
theorem reentry_guard :
    (∀ (s : Service) (k : Nat) (pc : LoaderPc), s.threads[k]? = some (.loader pc) ->
      (pc = .checkLoading ∧ s.globals.modelLoading = true ∨
        pc = .checkLoaded ∧ s.globals.modelLoaded = true) ->
      ∀ (o : Outcome) (acts : List Act),
        ((s.exec (.advance k o)).run acts).threads[k]? = some (.loader .returned)) ∧
    (∀ (s : Service) (a : Act), s.globals.modelLoaded = true ->
      (s.exec a).globals.modelLoaded = true ∧
      ∀ (k : Nat) (pc : LoaderPc), (s.exec a).threads[k]? = some (.loader pc) -> pc.PastGuard ->
        ∃ pc₀ : LoaderPc, s.threads[k]? = some (.loader pc₀) ∧ pc₀.PastGuard) ∧
    (∀ s : Service, s.globals.modelLoaded = true -> (∀ pc, .loader pc ∈ s.threads -> ¬pc.InFlight) ->
      ∀ acts, (s.run acts).globals = s.globals) ∧
    (∀ s : Service, s.globals.modelLoading = false -> s.globals.modelLoaded = false ->
      ∀ o, (s.run [.startLoader, .advance s.threads.length o, .advance s.threads.length o,
        .advance s.threads.length o]).globals.modelLoading = true) ∧
    (∀ s : Service, s.globals.modelLoading = false -> s.globals.modelLoaded = false ->
      (s.run [.startLoader, .startLoader,
        .advance s.threads.length {}, .advance (s.threads.length + 1) {},
        .advance s.threads.length {}, .advance (s.threads.length + 1) {},
        .advance s.threads.length {}, .advance (s.threads.length + 1) {},
        .advance s.threads.length {}, .advance (s.threads.length + 1) {},
        .advance s.threads.length {}, .advance (s.threads.length + 1) {}]).threads.drop
          s.threads.length = [.loader .loadModel, .loader .loadModel]) :=
  ⟨fun _ _ _ found stops o acts => guard_returns found stops o acts,
    fun s a loaded => ⟨(s.exec_grows a).modelLoaded loaded,
      fun _ _ found past => exec_pastGuard_of_loaded loaded found past⟩,
    fun _ loaded idle acts => run_frozen loaded idle acts,
    fun _ idle unloaded o => guard_passes idle unloaded o,
    fun _ idle unloaded => guards_race idle unloaded⟩

end Omni
end InferenceService
