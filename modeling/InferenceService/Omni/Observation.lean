import InferenceService.Omni.Lifecycle
import InferenceService.Omni.Progress

namespace InferenceService
namespace Omni

/-!
# What a request sees of the load state

The handlers read `model_loaded`, `model_loading` and `loading_error` one at a time, with no
lock, while the loader assigns them.  To say which states of the globals held while a
request was being served, each thread here carries a history variable: the states the
globals took from the moment it started until it answered.  No step reads the history, and
erasing it gives back the process of `System` step for step (`Observed.service_exec`).

Runs start once `lifespan` has started its one loader, as the server does before it accepts
a request; afterwards requests arrive and threads step in any order.
-/

/-- The process with, for each thread, the states the globals have held since it started. -/
structure Observed where
  globals : Globals
  threads : List (Thread × List Globals)

namespace Observed

/-- The process without the histories. -/
def service (o : Observed) : Service := ⟨o.globals, o.threads.map Prod.fst⟩

/-- Append the current state to the history of a thread that has not answered. -/
def record (g : Globals) (entry : Thread × List Globals) : Thread × List Globals :=
  if entry.1.answered then entry else (entry.1, entry.2 ++ [g])

/-- `Service.exec`, keeping the histories. -/
def exec (o : Observed) : Act -> Observed
  | .startLoader => ⟨o.globals, o.threads ++ [(.loader .checkLoading, [o.globals])]⟩
  | .request r => ⟨o.globals, o.threads ++ [(r.thread, [o.globals])]⟩
  | .advance k out =>
      match o.threads[k]? with
      | none => o
      | some (t, h) =>
          ⟨(t.step o.globals out).1,
            (o.threads.set k ((t.step o.globals out).2, h)).map (record (t.step o.globals out).1)⟩

/-- A run of the observed process. -/
def run (o : Observed) (acts : List Act) : Observed :=
  acts.foldl exec o

/-- The process once `lifespan` has started the loader. -/
def started (device : String) : Observed :=
  ⟨Globals.initial device, [(.loader .checkLoading, [Globals.initial device])]⟩

/-- The states reached from start-up by requests and steps. -/
inductive Reachable : Observed -> Prop
  | started (device : String) : Reachable (started device)
  | exec {o : Observed} (a : Act) : a.afterStartup = true -> Reachable o -> Reachable (o.exec a)

theorem reachable_run {o : Observed} (reachable : o.Reachable) {acts : List Act}
    (serving : ∀ a ∈ acts, a.afterStartup = true) : (o.run acts).Reachable := by
  induction acts generalizing o with
  | nil => exact reachable
  | cons a rest ih =>
      exact ih (.exec a (serving a (List.mem_cons_self _ _)) reachable) fun b member =>
        serving b (List.mem_cons_of_mem _ member)

@[simp] theorem record_fst (g : Globals) (entry : Thread × List Globals) :
    (record g entry).1 = entry.1 := by
  unfold record; split <;> rfl

@[simp] theorem fst_comp_record (g : Globals) : Prod.fst ∘ record g = Prod.fst :=
  funext (record_fst g)

theorem service_exec (o : Observed) (a : Act) : (o.exec a).service = o.service.exec a := by
  cases a with
  | startLoader | request r => simp [exec, service, Service.exec]
  | advance k out =>
      cases found : o.threads[k]? with
      | none => simp [exec, service, Service.exec, found]
      | some entry => simp [exec, found, service, Service.exec, List.map_set]

theorem reachable_served {o : Observed} (reachable : o.Reachable) : o.service.Served := by
  induction reachable with
  | started device => exact .started device
  | exec a serving _ served => rw [service_exec]; exact .exec a serving served

/-- The history of thread `k`: the states the globals held while it ran. -/
def history (o : Observed) (k : Nat) : List Globals :=
  ((o.threads[k]?).map Prod.snd).getD []

end Observed

/-! ## What a history shows -/

/-- Some state of the history `h` satisfies `p`. -/
def Seen (h : List Globals) (p : Globals -> Prop) : Prop :=
  ∃ g ∈ h, p g

theorem Seen.mono {h h' : List Globals} {p : Globals -> Prop} (seen : Seen h p) (sub : h ⊆ h') :
    Seen h' p :=
  let ⟨g, member, holds⟩ := seen
  ⟨g, sub member, holds⟩

/-- Loading and not yet loaded: the state a request told to wait should have met. -/
def StillLoading (g : Globals) : Prop :=
  g.modelLoading = true ∧ g.modelLoaded = false

/-- The `status` field of `/health` as states of `h` give it: `"loading"` from a state that
was loading, otherwise from one that was not and one whose `model_loaded` chooses between
`"healthy"` and `"unhealthy"`. -/
def HealthStatusSeen (h : List Globals) (status : String) : Prop :=
  status = "loading" ∧ Seen h (·.modelLoading = true) ∨
    Seen h (·.modelLoading = false) ∧
      Seen h fun g => status = if g.modelLoaded then "healthy" else "unhealthy"

/-- The three load-state entries of `/status`, each as some state of `h` had it. -/
def StatusFieldsSeen (h : List Globals) (loaded loading : Bool) (error : Option String) : Prop :=
  Seen h (·.modelLoaded = loaded) ∧ Seen h (·.modelLoading = loading) ∧
    Seen h (·.loadingError = error)

/-- Each load-state field of a `/health` or `/status` answer, as some state of `h` had it. -/
def Response.FieldsSeen (h : List Globals) : Response -> Prop
  | .health body => HealthStatusSeen h body.status ∧ Seen h (·.modelLoaded = body.loaded) ∧
      Seen h (·.modelLoading = body.loading)
  | .status body => StatusFieldsSeen h body.loaded body.loading body.error
  | _ => True

/-- The answer of line 179 (255) when `model_loading` was read true. -/
def stillLoadingResponse : Response :=
  .httpError 503 "Model is still loading, please wait..."

/-- The answer of line 181 (257) when `model_loading` was read false. -/
def failedToLoadResponse : Response :=
  .httpError 503 "Model failed to load"

/-- What an inference handler's answer shows of the states of `h`: a request told to wait met
a state that was loading and not loaded; one told that the model failed to load met
`model_loaded` false and `model_loading` false, not necessarily in one state; and one
answered past the gate met the model loaded. -/
def Response.GateSeen (h : List Globals) (r : Response) : Prop :=
  (r = stillLoadingResponse -> Seen h StillLoading) ∧
    (r = failedToLoadResponse -> Seen h (·.modelLoaded = false) ∧ Seen h (·.modelLoading = false)) ∧
    (r ≠ stillLoadingResponse -> r ≠ failedToLoadResponse -> Seen h (·.modelLoaded = true))

/-- What the reads of `health` so far show. -/
def HealthPc.ReadsSeen (h : List Globals) : HealthPc -> Prop
  | .readLoading => True
  | .readLoaded => Seen h (·.modelLoading = false)
  | .readModel status | .readDevice status | .readLoadedField status _ => HealthStatusSeen h status
  | .readLoadingField status _ loaded => HealthStatusSeen h status ∧ Seen h (·.modelLoaded = loaded)
  | .responded r => r.FieldsSeen h

/-- What the reads of `status` so far show. -/
def StatusPc.ReadsSeen (h : List Globals) : StatusPc -> Prop
  | .readLoaded => True
  | .readLoading loaded => Seen h (·.modelLoaded = loaded)
  | .readError loaded loading => Seen h (·.modelLoaded = loaded) ∧ Seen h (·.modelLoading = loading)
  | .readModel loaded loading error | .readDevice loaded loading error =>
      StatusFieldsSeen h loaded loading error
  | .responded r => r.FieldsSeen h

/-- What the gate of an inference handler has shown so far. -/
def InferencePc.ReadsSeen (h : List Globals) : InferencePc -> Prop
  | .checkLoaded => True
  | .checkLoading => Seen h (·.modelLoaded = false)
  | .applyTemplate | .encode _ | .toDevice _ | .generate _ | .decode _ _ => Seen h (·.modelLoaded = true)
  | .responded r => r.GateSeen h

/-- What a thread's reads so far show of its history. -/
def Thread.ReadsSeen (h : List Globals) : Thread -> Prop
  | .health pc => pc.ReadsSeen h
  | .inference _ pc => pc.ReadsSeen h
  | .status pc => pc.ReadsSeen h
  | .loader _ | .listModels _ => True

/-- An inference handler that read `model_loaded` false and is about to read
`model_loading`. -/
def Thread.AtLoadingCheck : Thread -> Prop
  | .inference _ .checkLoading => True
  | _ => False

/-- What a thread has seen, with `g` the current globals: its reads so far, and, at the
second read of the gate, that a wait answer would have a state behind it. -/
structure ThreadSeen (g : Globals) (t : Thread) (h : List Globals) : Prop where
  reads : t.ReadsSeen h
  wait : t.AtLoadingCheck -> Seen h StillLoading ∨ g.modelLoading = false

section Mono

variable {h h' : List Globals} (sub : h ⊆ h')
include sub

theorem HealthStatusSeen.mono {status : String} (seen : HealthStatusSeen h status) :
    HealthStatusSeen h' status :=
  seen.imp (And.imp_right (·.mono sub)) (And.imp (·.mono sub) (·.mono sub))

theorem StatusFieldsSeen.mono {loaded loading : Bool} {error : Option String}
    (seen : StatusFieldsSeen h loaded loading error) : StatusFieldsSeen h' loaded loading error :=
  ⟨seen.1.mono sub, seen.2.1.mono sub, seen.2.2.mono sub⟩

theorem Response.FieldsSeen.mono {r : Response} (seen : r.FieldsSeen h) : r.FieldsSeen h' := by
  cases r with
  | health _ => exact ⟨seen.1.mono sub, seen.2.1.mono sub, seen.2.2.mono sub⟩
  | status _ => exact StatusFieldsSeen.mono sub seen
  | models | chatCompletion _ _ _ _ _ | textInference _ _ _ | httpError _ _ => trivial

theorem Thread.ReadsSeen.mono {t : Thread} (seen : t.ReadsSeen h) : t.ReadsSeen h' := by
  cases t with
  | health pc =>
      cases pc with
      | readLoading => trivial
      | readLoaded => exact Seen.mono seen sub
      | readModel _ | readDevice _ | readLoadedField _ _ => exact HealthStatusSeen.mono sub seen
      | readLoadingField _ _ _ => exact ⟨HealthStatusSeen.mono sub seen.1, seen.2.mono sub⟩
      | responded _ => exact Response.FieldsSeen.mono sub seen
  | status pc =>
      cases pc with
      | readLoaded => trivial
      | readLoading _ => exact Seen.mono seen sub
      | readError _ _ => exact ⟨seen.1.mono sub, seen.2.mono sub⟩
      | readModel _ _ _ | readDevice _ _ _ => exact StatusFieldsSeen.mono sub seen
      | responded _ => exact Response.FieldsSeen.mono sub seen
  | inference _ pc =>
      cases pc with
      | checkLoaded => trivial
      | checkLoading | applyTemplate | encode _ | toDevice _ | generate _ | decode _ _ =>
          exact Seen.mono seen sub
      | responded _ =>
          exact ⟨fun wait => (seen.1 wait).mono sub,
            fun failed => ⟨(seen.2.1 failed).1.mono sub, (seen.2.1 failed).2.mono sub⟩,
            fun a b => (seen.2.2 a b).mono sub⟩
  | loader _ | listModels _ => trivial

end Mono

/-! ## One step of a handler -/

theorem Response.gateSeen_of_loaded {h : List Globals} {r : Response}
    (seen : Seen h (·.modelLoaded = true)) (notWait : r ≠ stillLoadingResponse)
    (notFailed : r ≠ failedToLoadResponse) : r.GateSeen h :=
  ⟨fun wait => absurd wait notWait, fun failed => absurd failed notFailed, fun _ _ => seen⟩

/-- A library call past the gate leads on or answers 500, having met the model loaded. -/
theorem inferenceUse_seen {α β : Type} {g : Globals} {h : List Globals} {global : Option α}
    {message : String} {call : Except String β} {next : β -> InferencePc} {endpoint : Endpoint}
    (seen : Seen h (·.modelLoaded = true))
    (onward : ∀ v, ThreadSeen g (.inference endpoint (next v)) h) :
    ThreadSeen g (.inference endpoint (inferenceUse global message call next)) h := by
  unfold inferenceUse
  split
  · exact ⟨Response.gateSeen_of_loaded seen (by simp [stillLoadingResponse])
      (by simp [failedToLoadResponse]), False.elim⟩
  · exact onward _
  · exact ⟨Response.gateSeen_of_loaded seen (by simp [stillLoadingResponse])
      (by simp [failedToLoadResponse]), False.elim⟩


section Step

variable {g : Globals} {h : List Globals} (current : g ∈ h)
include current

theorem health_readsSeen {pc : HealthPc} (seen : pc.ReadsSeen h) : (health g pc).ReadsSeen h := by
  cases pc with
  | readLoading =>
      cases loading : g.modelLoading
      · simpa [health, loading, HealthPc.ReadsSeen] using ⟨g, current, loading⟩
      · simp only [health, loading, if_true]
        exact .inl ⟨rfl, g, current, loading⟩
  | readLoaded => exact .inr ⟨seen, g, current, rfl⟩
  | readModel _ => simp only [health]; split <;> exact seen
  | readDevice _ => simp only [health]; split <;> first | exact seen | trivial
  | readLoadedField _ _ => exact ⟨seen, g, current, rfl⟩
  | readLoadingField _ _ _ => exact ⟨seen.1, seen.2, g, current, rfl⟩
  | responded _ => exact seen

theorem status_readsSeen {pc : StatusPc} (seen : pc.ReadsSeen h) : (status g pc).ReadsSeen h := by
  cases pc with
  | readLoaded => exact ⟨g, current, rfl⟩
  | readLoading _ => exact ⟨seen, g, current, rfl⟩
  | readError _ _ => exact ⟨seen.1, seen.2, g, current, rfl⟩
  | readModel _ _ _ => simp only [status]; split <;> exact seen
  | readDevice _ _ _ => simp only [status]; split <;> first | exact seen | trivial
  | responded _ => exact seen

/-- The gate's reads are of states of the history, and a wait answer comes from the second
read only when a loading, unloaded state was met. -/
theorem inference_seen {endpoint : Endpoint} {lib : Library} {pc : InferencePc}
    (seen : ThreadSeen g (.inference endpoint pc) h) :
    ThreadSeen g (.inference endpoint (inference endpoint g lib pc)) h := by
  cases pc with
  | checkLoaded =>
      cases loaded : g.modelLoaded
      · rw [show inference endpoint g lib .checkLoaded = .checkLoading by simp [inference, loaded]]
        refine ⟨⟨g, current, loaded⟩, fun _ => ?_⟩
        cases loading : g.modelLoading
        · exact .inr rfl
        · exact .inl ⟨g, current, loading, loaded⟩
      · rw [show inference endpoint g lib .checkLoaded = .applyTemplate by simp [inference, loaded]]
        exact ⟨⟨g, current, loaded⟩, False.elim⟩
  | checkLoading =>
      have differ : failedToLoadResponse ≠ stillLoadingResponse := by
        simp [failedToLoadResponse, stillLoadingResponse]
      cases loading : g.modelLoading
      · rw [show inference endpoint g lib .checkLoading = .responded failedToLoadResponse by
          simp [inference, loading, failedToLoadResponse]]
        exact ⟨⟨fun wait => absurd wait differ, fun _ => ⟨seen.reads, g, current, loading⟩,
          fun _ failed => absurd rfl failed⟩, False.elim⟩
      · rw [show inference endpoint g lib .checkLoading = .responded stillLoadingResponse by
          simp [inference, loading, stillLoadingResponse]]
        exact ⟨⟨fun _ => (seen.wait trivial).resolve_right (by simp [loading]),
          fun failed => absurd failed.symm differ, fun notWait => absurd rfl notWait⟩, False.elim⟩
  | applyTemplate | encode _ | toDevice _ | generate _ =>
      exact inferenceUse_seen seen.reads fun _ => ⟨seen.reads, False.elim⟩
  | decode _ _ =>
      refine inferenceUse_seen seen.reads fun _ =>
        ⟨Response.gateSeen_of_loaded seen.reads ?_ ?_, False.elim⟩ <;>
        cases endpoint <;> simp [Endpoint.reply, stillLoadingResponse, failedToLoadResponse]
  | responded _ => exact ⟨seen.reads, False.elim⟩

theorem Thread.step_seen {o : Outcome} {t : Thread} (seen : ThreadSeen g t h) :
    ThreadSeen g (t.step g o).2 h := by
  cases t with
  | loader _ | listModels _ => exact ⟨trivial, False.elim⟩
  | health _ => exact ⟨health_readsSeen current seen.reads, False.elim⟩
  | status _ => exact ⟨status_readsSeen current seen.reads, False.elim⟩
  | inference endpoint _ =>
      simpa only [Thread.step, Endpoint.handler_eq] using inference_seen current seen

end Step

theorem Thread.answered_of_atLoadingCheck {t : Thread} (checking : t.AtLoadingCheck) :
    t.answered = false := by
  cases t with
  | inference _ pc => cases pc <;> first | rfl | exact checking.elim
  | _ => exact checking.elim

/-- A step appends the new state `g'` to the history of each thread still running; this keeps
what a thread has seen, provided the step raises `model_loading` only with `model_loaded`
false. -/
theorem ThreadSeen.record {g g' : Globals} {t : Thread} {h : List Globals}
    (raise : g.modelLoading = false -> g'.modelLoading = true -> g'.modelLoaded = false)
    (seen : ThreadSeen g t h) :
    ThreadSeen g' (Observed.record g' (t, h)).1 (Observed.record g' (t, h)).2 := by
  unfold Observed.record
  split
  · rename_i done
    exact ⟨seen.reads, fun checking => by simp [Thread.answered_of_atLoadingCheck checking] at done⟩
  · refine ⟨seen.reads.mono (List.subset_append_left _ _), fun checking => ?_⟩
    cases now : g'.modelLoading
    · exact .inr rfl
    · rcases seen.wait checking with still | idle
      · exact .inl (still.mono (List.subset_append_left _ _))
      · exact .inl ⟨g', List.mem_append_right _ (List.mem_singleton_self _), now, raise idle now⟩

theorem Observed.mem_record (g : Globals) {entry : Thread × List Globals}
    (running : entry.1.answered = false) : g ∈ (Observed.record g entry).2 := by
  simp [Observed.record, running]

/-! ## Every run -/

namespace Observed

/-- The invariant of the observed process: one loader, a thread still running has the
current state in its history, and each thread's reads are of states of its history. -/
structure Invariant (o : Observed) : Prop where
  oneLoader : o.service.OneLoader
  current : ∀ entry ∈ o.threads, entry.1.answered = false -> o.globals ∈ entry.2
  seen : ∀ entry ∈ o.threads, ThreadSeen o.globals entry.1 entry.2

theorem invariant_started (device : String) : (started device).Invariant :=
  ⟨⟨.checkLoading, [], rfl, by simp, rfl, rfl, rfl⟩, by simp [started],
    by simpa [started] using ⟨trivial, False.elim⟩⟩

theorem Invariant.request {o : Observed} (invariant : o.Invariant) (r : Request) :
    (o.exec (.request r)).Invariant := by
  refine ⟨service_exec o _ ▸ invariant.oneLoader.exec rfl, fun entry member => ?_,
    fun entry member => ?_⟩ <;> rcases List.mem_append.mp member with old | fresh
  · exact invariant.current entry old
  · rw [List.mem_singleton.mp fresh]
    exact fun _ => List.mem_singleton_self _
  · exact invariant.seen entry old
  · rw [List.mem_singleton.mp fresh]
    cases r <;> exact ⟨trivial, False.elim⟩

theorem Invariant.advance {o : Observed} (invariant : o.Invariant) (k : Nat) (out : Outcome) :
    (o.exec (.advance k out)).Invariant := by
  cases found : o.threads[k]? with
  | none => simpa [exec, found] using invariant
  | some entry =>
      obtain ⟨t, h⟩ := entry
      have member := List.getElem?_mem found
      have raise := invariant.oneLoader.raise (.advance k out) rfl
      rw [Service.exec_advance_of_get (show o.service.threads[k]? = some t by simp [service, found])]
        at raise
      have stepped : ThreadSeen o.globals (t.step o.globals out).2 h := by
        cases running : t.answered
        · exact Thread.step_seen (invariant.current _ member running) (invariant.seen _ member)
        · rw [Thread.step_of_answered running]
          exact invariant.seen _ member
      refine ⟨service_exec o _ ▸ invariant.oneLoader.exec rfl, fun entry' member' => ?_,
        fun entry' member' => ?_⟩ <;>
        simp only [exec, found, List.mem_map] at member' ⊢ <;> obtain ⟨e, member', rfl⟩ := member'
      · exact fun running => mem_record _ (by simpa using running)
      · rcases List.mem_or_eq_of_mem_set member' with old | rfl
        · exact ThreadSeen.record raise (invariant.seen e old)
        · exact ThreadSeen.record raise stepped

theorem invariant_of_reachable {o : Observed} (reachable : o.Reachable) : o.Invariant := by
  induction reachable with
  | started device => exact invariant_started device
  | exec a serving _ invariant =>
      cases a with
      | startLoader => simp [Act.afterStartup] at serving
      | request r => exact invariant.request r
      | advance k out => exact invariant.advance k out

/-- What every answer shows of the states met while its request was served. -/
def AnswersSeen (o : Observed) : Prop :=
  ∀ t h, (t, h) ∈ o.threads ->
    (∀ r, t = .status (.responded r) ∨ t = .health (.responded r) -> r.FieldsSeen h) ∧
    (∀ endpoint r, t = .inference endpoint (.responded r) -> r.GateSeen h)

end Observed

/-- In every run of the server with the one loader `lifespan` started, each a served run of
the process of `System`: each load-state field of a `/status` or `/health` answer is the value
its global had at some instant while the request was served, not necessarily one instant
for all; the inference gate answers 503 `Model is still loading` only if `model_loading`
true and `model_loaded` false held together at such an instant, answers 503 `Model failed to
load` only if `model_loaded` was false at one such instant and `model_loading` false at one,
and lets the request through only if `model_loaded` was true at one. -/
theorem loadState_reads_seen :
    ∀ o : Observed, o.Reachable -> o.service.Served ∧ o.AnswersSeen := by
  intro o reachable
  refine ⟨Observed.reachable_served reachable, fun t h member => ?_⟩
  have seen := ((Observed.invariant_of_reachable reachable).seen _ member).reads
  exact ⟨fun r answered => by rcases answered with rfl | rfl <;> exact seen,
    fun endpoint r answered => by subst answered; exact seen⟩

/-- A `/status` request and a chat request that read `model_loaded` while the load is under
way and `model_loading` after it has finished. -/
def straddlingRun : Observed :=
  (Observed.started "cpu").run [.advance 0 {}, .advance 0 {}, .advance 0 {},
    .request .status, .request (.chatCompletion helloChat), .advance 1 {},
    .advance 2 {}, .advance 0 {}, .advance 0 {}, .advance 0 {}, .advance 0 {}, .advance 0 {},
    .advance 0 {}, .advance 0 {}, .advance 1 {}, .advance 1 {}, .advance 1 {}, .advance 1 {},
    .advance 2 {}]

theorem loadState_reads_seen_straddling :
    straddlingRun.Reachable ∧ straddlingRun.service.Served ∧ straddlingRun.AnswersSeen :=
  have reachable : straddlingRun.Reachable := Observed.reachable_run (.started "cpu") (by decide)
  ⟨reachable, loadState_reads_seen _ reachable⟩

/-- In `straddlingRun` the load succeeds, `/status` answers `loaded = false, loading = false,
error = None`, which no state during the request had, and the chat request is refused with
`Model failed to load`. -/
theorem loadState_snapshot_counterexample :
    straddlingRun.service.threads = [.loader .finished,
      .status (.responded (statusBody false false none "cuda:0")),
      .inference (.chatCompletion helloChat) (.responded failedToLoadResponse)] ∧
    (∀ g ∈ straddlingRun.history 1,
      ¬(g.modelLoaded = false ∧ g.modelLoading = false ∧ g.loadingError = none)) ∧
    (∀ g ∈ straddlingRun.history 2, g.loadingError = none) ∧
    straddlingRun.globals.modelLoaded = true ∧ straddlingRun.globals.loadingError = none := by
  decide

end Omni
end InferenceService
