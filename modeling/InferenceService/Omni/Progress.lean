import InferenceService.Omni.System

namespace InferenceService
namespace Omni

/-!
# Every thread finishes

No handler of the service loops or waits on another thread: each reads the globals a fixed
number of times and answers, and `load_model_async` runs straight through to the `return`
of line 69, the end of its `finally` clause, or an exception before its `try`.  So however
the steps of the other threads fall, a thread that is given enough steps of its own ends,
and an ended thread stays as it is.  A request is answered within six steps of its handler
and a loader ends within ten of its own.

`remaining` is the length of the longest path a thread can still take; each of its steps
lowers it by one at least, and it is zero exactly at the end.
-/

/-- A thread that has answered its request, or a loader that has ended. -/
def Thread.answered : Thread -> Bool
  | .loader .returned | .loader .finished | .loader .died => true
  | .health (.responded _) | .listModels (.responded _) | .inference _ (.responded _)
  | .status (.responded _) => true
  | _ => false

/-- Steps left to the loader on its longest path, through line 108 and the `finally`. -/
def LoaderPc.remaining : LoaderPc -> Nat
  | .checkLoading => 10
  | .checkLoaded => 9
  | .setLoading => 8
  | .reportDevice => 7
  | .loadProcessor => 6
  | .loadModel => 5
  | .reportModel => 4
  | .setLoaded => 3
  | .clearError | .recordError _ => 2
  | .clearLoading => 1
  | .returned | .finished | .died => 0

/-- Steps left to `health`: its four reads of the globals and the one of `model.device`. -/
def HealthPc.remaining : HealthPc -> Nat
  | .readLoading => 6
  | .readLoaded => 5
  | .readModel _ => 4
  | .readDevice _ => 3
  | .readLoadedField _ _ => 2
  | .readLoadingField _ _ _ => 1
  | .responded _ => 0

/-- Steps left to an inference handler: the gate and the five library calls. -/
def InferencePc.remaining : InferencePc -> Nat
  | .checkLoaded => 6
  | .applyTemplate => 5
  | .encode _ => 4
  | .toDevice _ => 3
  | .generate _ => 2
  | .checkLoading | .decode _ _ => 1
  | .responded _ => 0

/-- Steps left to `status`. -/
def StatusPc.remaining : StatusPc -> Nat
  | .readLoaded => 5
  | .readLoading _ => 4
  | .readError _ _ => 3
  | .readModel _ _ _ => 2
  | .readDevice _ _ _ => 1
  | .responded _ => 0

/-- Steps left to a thread. -/
def Thread.remaining : Thread -> Nat
  | .loader pc => pc.remaining
  | .health pc => pc.remaining
  | .listModels .start => 1
  | .listModels (.responded _) => 0
  | .inference _ pc => pc.remaining
  | .status pc => pc.remaining

/-- A step of thread `k`. -/
def Act.advances (k : Nat) : Act -> Bool
  | .advance j _ => j == k
  | .startLoader | .request _ => false

/-! ## One step -/

theorem Thread.answered_iff_remaining (t : Thread) : t.answered = true <-> t.remaining = 0 := by
  cases t with
  | loader pc | health pc | listModels pc | status pc =>
      cases pc <;> simp [Thread.answered, Thread.remaining, LoaderPc.remaining, HealthPc.remaining,
        StatusPc.remaining]
  | inference _ pc => cases pc <;> simp [Thread.answered, Thread.remaining, InferencePc.remaining]

theorem Thread.step_of_answered {t : Thread} (done : t.answered = true) (g : Globals) (o : Outcome) :
    t.step g o = (g, t) := by
  cases t with
  | loader pc => cases pc <;> first | rfl | simp [Thread.answered] at done
  | health pc | listModels pc | status pc => cases pc <;> first | rfl | simp [Thread.answered] at done
  | inference _ pc => cases pc <;> simp_all [Thread.answered, Thread.step, Omni.inference]

theorem loadModelAsync_remaining (g : Globals) (o : Outcome) (pc : LoaderPc) :
    (loadModelAsync g o pc).2.remaining ≤ pc.remaining - 1 := by
  cases pc <;> simp only [loadModelAsync] <;> (try split) <;> simp [LoaderPc.remaining]

theorem health_remaining (g : Globals) (pc : HealthPc) :
    (health g pc).remaining ≤ pc.remaining - 1 := by
  cases pc <;> simp only [health] <;> (try split) <;> simp [HealthPc.remaining]

theorem inferenceUse_remaining {α β : Type} (global : Option α) (message : String)
    (call : Except String β) {next : β -> InferencePc} {n : Nat} (bound : ∀ v, (next v).remaining ≤ n) :
    (inferenceUse global message call next).remaining ≤ n := by
  unfold inferenceUse
  split
  · exact Nat.zero_le n
  · exact bound _
  · exact Nat.zero_le n

theorem inference_remaining (endpoint : Endpoint) (g : Globals) (lib : Library) (pc : InferencePc) :
    (inference endpoint g lib pc).remaining ≤ pc.remaining - 1 := by
  cases pc <;> simp only [inference] <;>
    first
      | exact inferenceUse_remaining _ _ _ fun _ => le_rfl
      | (try split) <;> simp [InferencePc.remaining]

theorem status_remaining (g : Globals) (pc : StatusPc) :
    (status g pc).remaining ≤ pc.remaining - 1 := by
  cases pc <;> simp only [status] <;> (try split) <;> simp [StatusPc.remaining]

theorem Thread.remaining_step (g : Globals) (o : Outcome) (t : Thread) :
    (t.step g o).2.remaining ≤ t.remaining - 1 := by
  cases t with
  | loader pc => exact loadModelAsync_remaining g o pc
  | health pc => exact health_remaining g pc
  | listModels pc => cases pc <;> rfl
  | inference endpoint pc => simpa [Thread.step] using inference_remaining endpoint g o.library pc
  | status pc => exact status_remaining g pc

/-! ## Any interleaving -/

namespace Service

theorem Act.advances_iff {a : Act} {k : Nat} : a.advances k = true <-> ∃ o, a = .advance k o := by
  cases a <;> simp [Act.advances]

theorem getElem?_exec_self {s : Service} {k : Nat} {t : Thread} (found : s.threads[k]? = some t)
    (o : Outcome) : (s.exec (.advance k o)).threads[k]? = some (t.step s.globals o).2 := by
  rw [exec_advance_of_get found, List.getElem?_set_self (List.getElem?_eq_some_iff.mp found).1]

theorem getElem?_exec_other {s : Service} {k : Nat} {t : Thread} (found : s.threads[k]? = some t)
    {a : Act} (other : a.advances k = false) : (s.exec a).threads[k]? = some t := by
  cases a with
  | startLoader | request r =>
      simpa [exec, List.getElem?_append_left (List.getElem?_eq_some_iff.mp found).1] using found
  | advance j o =>
      have moved : j ≠ k := by simpa [Act.advances] using other
      cases found' : s.threads[j]? with
      | none => rwa [exec_advance_of_none found']
      | some _ => rwa [exec_advance_of_get found', List.getElem?_set_ne moved]

/-- Over any run, thread `k` loses a step of what it has left for each step of its own. -/
theorem remaining_run {s : Service} {k : Nat} {t : Thread} (found : s.threads[k]? = some t)
    (acts : List Act) :
    ∃ u, (s.run acts).threads[k]? = some u ∧ u.remaining ≤ t.remaining - acts.countP (Act.advances k) := by
  induction acts generalizing s t with
  | nil => exact ⟨t, found, le_rfl⟩
  | cons a rest ih =>
      cases own : a.advances k with
      | false =>
          obtain ⟨u, later, bound⟩ := ih (getElem?_exec_other found own)
          exact ⟨u, later, by simpa [List.countP_cons, own] using bound⟩
      | true =>
          obtain ⟨o, rfl⟩ := Act.advances_iff.mp own
          obtain ⟨u, later, bound⟩ := ih (getElem?_exec_self found o)
          have step := Thread.remaining_step s.globals o t
          refine ⟨u, later, ?_⟩
          simp only [List.countP_cons, own, if_true]
          omega

/-- Over any run, an ended thread stays as it is. -/
theorem run_of_answered {s : Service} {k : Nat} {t : Thread} (found : s.threads[k]? = some t)
    (done : t.answered = true) (acts : List Act) : (s.run acts).threads[k]? = some t := by
  induction acts generalizing s with
  | nil => exact found
  | cons a rest ih =>
      cases own : a.advances k with
      | false => exact ih (getElem?_exec_other found own)
      | true =>
          obtain ⟨o, rfl⟩ := Act.advances_iff.mp own
          have moved := getElem?_exec_self found o
          rw [Thread.step_of_answered done] at moved
          exact ih moved

theorem answered_run {s : Service} {k : Nat} {t : Thread} (found : s.threads[k]? = some t)
    {acts : List Act} (enough : t.remaining ≤ acts.countP (Act.advances k)) :
    ∃ u, (s.run acts).threads[k]? = some u ∧ u.answered = true := by
  obtain ⟨u, later, bound⟩ := remaining_run found acts
  exact ⟨u, later, (Thread.answered_iff_remaining u).mpr (by omega)⟩

theorem getElem?_exec_request (s : Service) (r : Request) :
    (s.exec (.request r)).threads[s.threads.length]? = some r.thread := by
  simp [exec]

theorem getElem?_exec_startLoader (s : Service) :
    (s.exec .startLoader).threads[s.threads.length]? = some (.loader .checkLoading) := by
  simp [exec]

end Service

theorem Request.thread_remaining (r : Request) : r.thread.remaining ≤ 6 := by
  cases r <;> simp [Request.thread, Thread.remaining, HealthPc.remaining, InferencePc.remaining,
    StatusPc.remaining]

/-- However the arrivals of other requests, further loaders and the steps of other threads
fall, a request is answered once its handler has taken six steps, and a loader `lifespan`
starts has ended once it has taken ten; an answered request or an ended loader then stays
as it is. -/
theorem threads_finish :
    (∀ (s : Service) (r : Request) (acts : List Act),
      6 ≤ acts.countP (Act.advances s.threads.length) ->
      ∃ u, ((s.exec (.request r)).run acts).threads[s.threads.length]? = some u ∧ u.answered = true) ∧
    (∀ (s : Service) (acts : List Act), 10 ≤ acts.countP (Act.advances s.threads.length) ->
      ∃ u, ((s.exec .startLoader).run acts).threads[s.threads.length]? = some u ∧ u.answered = true) ∧
    (∀ (s : Service) (k : Nat) (t : Thread) (acts : List Act), s.threads[k]? = some t ->
      t.answered = true -> (s.run acts).threads[k]? = some t) :=
  ⟨fun s r _ enough =>
      Service.answered_run (s.getElem?_exec_request r) ((Request.thread_remaining r).trans enough),
    fun s _ enough => Service.answered_run s.getElem?_exec_startLoader enough,
    fun _ _ _ acts found done => Service.run_of_answered found done acts⟩

end Omni
end InferenceService
