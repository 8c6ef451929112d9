import InferenceService.Omni.Lifecycle
import InferenceService.Omni.Progress

namespace InferenceService
namespace Omni

/-!
# Requests served once the load is over

The handlers read the load state one global at a time, and while the loader runs a
response can mix values from different instants.  Once the loader has ended nothing writes
a global again (`Service.run_of_ended`), and then every read a handler makes finds the same
globals.  So a request that arrives after the end is answered exactly as a handler that
read everything at one instant would answer it: `/health` and `/status` report the final
flags, `loading_error` and device, and an inference request is refused as the final flags
say or passes its gate.  The step-wise handlers of `Handlers` refine these one-instant
handlers (`healthSnapshot`, `statusSnapshot`, `gateSnapshot`) under frozen globals; each
handler's part is one `Follows.step` lemma.

The statement covers how the load ended.  A load that succeeded is reported healthy and lets
inference through; one that raised inside its `try` is reported unhealthy with its error, and
every inference request is told the model failed to load.  A loader that died on lines
77-79, before its `try`, never reaches the `finally` clause that clears `model_loading`:
from then on the service reports that it is loading, and tells every inference request to
wait, for as long as it runs.
-/

/-! ## The handlers with all their reads at one instant -/

/-- `str(model.device) if model else DEVICE` with `model` read once. -/
def Globals.reportedDevice (g : Globals) : String :=
  match g.model with
  | some m => m.device
  | none => g.device

/-- The `status` of line 150 with both flags read at once. -/
def Globals.healthStatus (g : Globals) : String :=
  if g.modelLoading then "loading" else if g.modelLoaded then "healthy" else "unhealthy"

/-- `health` (lines 146-155) with every read at one instant. -/
def healthSnapshot (g : Globals) : Response :=
  .health
    { status := g.healthStatus, model := "Qwen3-Omni-30B-A3B", device := g.reportedDevice,
      loaded := g.modelLoaded, loading := g.modelLoading }

/-- `status` (lines 303-312) with every read at one instant. -/
def statusSnapshot (g : Globals) : Response :=
  statusBody g.modelLoaded g.modelLoading g.loadingError g.reportedDevice

/-- The gate of lines 177-181 (253-257) with both reads at one instant: its refusal, or
`none` to go on to the library calls. -/
def gateSnapshot (g : Globals) : Option Response :=
  if g.modelLoaded then none
  else
    some (.httpError 503
      (if g.modelLoading then "Model is still loading, please wait..." else "Model failed to load"))

/-- What an inference route may answer when its gate finds `g`: the refusal; or, past the
gate, its reply or a 500 from a library call. -/
def Endpoint.Answers (endpoint : Endpoint) (g : Globals) (answer : Response) : Prop :=
  match gateSnapshot g with
  | some refusal => answer = refusal
  | none =>
      (∃ inputTokens outputLength text, answer = endpoint.reply inputTokens outputLength text) ∨
        ∃ message, answer = .httpError 500 message

/-- What a request is answered when every read of its handler finds the globals at `g`. -/
def Request.Answers (g : Globals) : Request -> Response -> Prop
  | .health, answer => answer = healthSnapshot g
  | .listModels, answer => answer = .models
  | .status, answer => answer = statusSnapshot g
  | .chatCompletion request, answer => (Endpoint.chatCompletion request).Answers g answer
  | .textInference request, answer => (Endpoint.textInference request).Answers g answer

/-- The answer of a thread that has answered its request. -/
def Thread.response : Thread -> Option Response
  | .health (.responded r) | .listModels (.responded r) | .inference _ (.responded r)
  | .status (.responded r) => some r
  | _ => none

/-! ## Every read finding the same globals -/

/-- Where `health` can be when every read it made found `g`. -/
def HealthPc.Follows (g : Globals) : HealthPc -> Prop
  | .readLoading => True
  | .readLoaded => g.modelLoading = false
  | .readModel status => status = g.healthStatus
  | .readDevice status => status = g.healthStatus ∧ g.model.isSome
  | .readLoadedField status device => status = g.healthStatus ∧ device = g.reportedDevice
  | .readLoadingField status device loaded =>
      status = g.healthStatus ∧ device = g.reportedDevice ∧ loaded = g.modelLoaded
  | .responded answer => answer = healthSnapshot g

/-- Where `status` can be when every read it made found `g`. -/
def StatusPc.Follows (g : Globals) : StatusPc -> Prop
  | .readLoaded => True
  | .readLoading loaded => loaded = g.modelLoaded
  | .readError loaded loading => loaded = g.modelLoaded ∧ loading = g.modelLoading
  | .readModel loaded loading error =>
      loaded = g.modelLoaded ∧ loading = g.modelLoading ∧ error = g.loadingError
  | .readDevice loaded loading error =>
      (loaded = g.modelLoaded ∧ loading = g.modelLoading ∧ error = g.loadingError) ∧ g.model.isSome
  | .responded answer => answer = statusSnapshot g

/-- Where an inference handler can be when its gate found `g`. -/
def InferencePc.Follows (endpoint : Endpoint) (g : Globals) : InferencePc -> Prop
  | .checkLoaded => True
  | .checkLoading => g.modelLoaded = false
  | .applyTemplate | .encode _ | .toDevice _ | .generate _ | .decode _ _ => g.modelLoaded = true
  | .responded answer => endpoint.Answers g answer

/-- `list_models` reads nothing and answers the listing. -/
def ListModelsPc.Follows : ListModelsPc -> Prop
  | .start => True
  | .responded answer => answer = .models

/-- The thread serving `r`, where every read so far found `g`. -/
def Request.Tracks (g : Globals) : Request -> Thread -> Prop
  | .health, .health pc => pc.Follows g
  | .listModels, .listModels pc => pc.Follows
  | .status, .status pc => pc.Follows g
  | .chatCompletion request, .inference endpoint pc =>
      endpoint = .chatCompletion request ∧ pc.Follows endpoint g
  | .textInference request, .inference endpoint pc =>
      endpoint = .textInference request ∧ pc.Follows endpoint g
  | _, _ => False

theorem HealthPc.Follows.step {g : Globals} {pc : HealthPc} (follows : pc.Follows g) :
    (health g pc).Follows g := by
  cases pc with
  | readLoading =>
      cases loading : g.modelLoading <;>
        simp [health, HealthPc.Follows, Globals.healthStatus, loading]
  | readLoaded =>
      have idle : g.modelLoading = false := follows
      simp [health, HealthPc.Follows, Globals.healthStatus, idle]
  | readModel status =>
      have read : status = g.healthStatus := follows
      cases model : g.model <;> simp [health, HealthPc.Follows, Globals.reportedDevice, model, read]
  | readDevice status =>
      cases model : g.model with
      | none => simpa [model] using follows.2
      | some m => simp [health, HealthPc.Follows, Globals.reportedDevice, model, follows.1]
  | readLoadedField status device => exact ⟨follows.1, follows.2, rfl⟩
  | readLoadingField status device loaded =>
      obtain ⟨rfl, rfl, rfl⟩ := follows
      rfl
  | responded _ => exact follows

theorem StatusPc.Follows.step {g : Globals} {pc : StatusPc} (follows : pc.Follows g) :
    (status g pc).Follows g := by
  cases pc with
  | readLoaded => exact rfl
  | readLoading _ => exact ⟨follows, rfl⟩
  | readError _ _ => exact ⟨follows.1, follows.2, rfl⟩
  | readModel _ _ _ =>
      obtain ⟨rfl, rfl, rfl⟩ := follows
      cases model : g.model <;>
        simp [status, StatusPc.Follows, statusSnapshot, Globals.reportedDevice, model]
  | readDevice _ _ _ =>
      obtain ⟨⟨rfl, rfl, rfl⟩, present⟩ := follows
      cases model : g.model with
      | none => simp [model] at present
      | some m => simp [status, StatusPc.Follows, statusSnapshot, Globals.reportedDevice, model]
  | responded _ => exact follows

theorem inferenceUse_follows {α β : Type} {endpoint : Endpoint} {g : Globals} {global : Option α}
    {message : String} {call : Except String β} {next : β -> InferencePc}
    (loaded : g.modelLoaded = true) (onward : ∀ v, (next v).Follows endpoint g) :
    (inferenceUse global message call next).Follows endpoint g := by
  have past : gateSnapshot g = none := by simp [gateSnapshot, loaded]
  unfold inferenceUse
  split
  · simp only [InferencePc.Follows, Endpoint.Answers, past]
    exact .inr ⟨_, rfl⟩
  · exact onward _
  · simp only [InferencePc.Follows, Endpoint.Answers, past]
    exact .inr ⟨_, rfl⟩

theorem InferencePc.Follows.step {endpoint : Endpoint} {g : Globals} {pc : InferencePc}
    (follows : pc.Follows endpoint g) (lib : Library) : (inference endpoint g lib pc).Follows endpoint g := by
  cases pc with
  | checkLoaded => cases loaded : g.modelLoaded <;> simp [inference, InferencePc.Follows, loaded]
  | checkLoading =>
      have unloaded : g.modelLoaded = false := follows
      simp [inference, InferencePc.Follows, Endpoint.Answers, gateSnapshot, unloaded]
  | applyTemplate | encode _ | toDevice _ | generate _ =>
      exact inferenceUse_follows follows fun _ => follows
  | decode _ _ =>
      have loaded : g.modelLoaded = true := follows
      refine inferenceUse_follows loaded fun _ => ?_
      simp only [InferencePc.Follows, Endpoint.Answers, gateSnapshot, loaded, if_true]
      exact .inl ⟨_, _, _, rfl⟩
  | responded _ => exact follows

theorem Request.Tracks.step {g : Globals} {r : Request} {t : Thread} (tracks : r.Tracks g t)
    (o : Outcome) : r.Tracks g (t.step g o).2 := by
  cases r <;> cases t <;> simp only [Request.Tracks, Thread.step, Endpoint.handler_eq] at tracks ⊢
  · exact tracks.step
  · cases ‹ListModelsPc› <;> first | exact rfl | exact tracks
  · exact ⟨tracks.1, tracks.2.step o.library⟩
  · exact ⟨tracks.1, tracks.2.step o.library⟩
  · exact tracks.step

theorem Request.tracks_thread (g : Globals) (r : Request) : r.Tracks g r.thread := by
  cases r <;> trivial

/-- A thread on the path that reads `g` that has answered gave the one-instant answer. -/
theorem Request.Tracks.answers {g : Globals} {r : Request} {t : Thread} (tracks : r.Tracks g t)
    (done : t.answered = true) : ∃ answer, t.response = some answer ∧ r.Answers g answer := by
  cases r <;> cases t <;> simp only [Request.Tracks] at tracks
  all_goals
    rename_i pc
    cases pc <;> simp only [Thread.answered, Bool.false_eq_true] at done
  · exact ⟨_, rfl, tracks⟩
  · exact ⟨_, rfl, tracks⟩
  · obtain ⟨rfl, follows⟩ := tracks
    exact ⟨_, rfl, follows⟩
  · obtain ⟨rfl, follows⟩ := tracks
    exact ⟨_, rfl, follows⟩
  · exact ⟨_, rfl, tracks⟩

/-! ## Any interleaving after the loader has ended -/

namespace Service

theorem Served.run {s : Service} (served : s.Served) {acts : List Act}
    (serving : ∀ a ∈ acts, a.afterStartup = true) : (s.run acts).Served := by
  induction acts generalizing s with
  | nil => exact served
  | cons a more ih =>
      exact ih (.exec a (serving a (List.mem_cons_self _ _)) served) fun b member =>
        serving b (List.mem_cons_of_mem _ member)

/-- After the loader has ended, thread `k` moves only by its own steps, each taken at the
frozen globals, so it stays on the path that reads them. -/
theorem run_tracks_of_ended {s : Service} {pc : LoaderPc} {rest : List Thread}
    (threads : s.threads = .loader pc :: rest) (handlers : ∀ t ∈ rest, t.IsHandler)
    (ended : pc.Ended) {r : Request} {k : Nat} {t : Thread} (found : s.threads[k]? = some t)
    (tracks : r.Tracks s.globals t) {acts : List Act} (serving : ∀ a ∈ acts, a.afterStartup = true) :
    ∃ u, (s.run acts).threads[k]? = some u ∧ r.Tracks s.globals u := by
  induction acts generalizing s rest t with
  | nil => exact ⟨t, found, tracks⟩
  | cons a more ih =>
      obtain ⟨rest', threads', handlers', same⟩ :=
        exec_of_ended threads handlers ended (serving a (List.mem_cons_self _ _))
      have next : ∃ t', (s.exec a).threads[k]? = some t' ∧ r.Tracks s.globals t' := by
        cases own : a.advances k with
        | false => exact ⟨t, getElem?_exec_other found own, tracks⟩
        | true =>
            obtain ⟨o, rfl⟩ := Act.advances_iff.mp own
            exact ⟨_, getElem?_exec_self found o, tracks.step o⟩
      obtain ⟨t', found', tracks'⟩ := next
      rw [← same] at tracks'
      simpa only [run_cons, same] using
        ih threads' handlers' found' tracks' fun b member => serving b (List.mem_cons_of_mem _ member)

/-- A request that arrives after the loader has ended and whose handler takes six steps,
however the other threads' steps fall, is answered as the one-instant handler answers from
the final globals. -/
theorem answers_of_ended {s : Service} (served : s.Served) {pc : LoaderPc} {rest : List Thread}
    (threads : s.threads = .loader pc :: rest) (ended : pc.Ended) (r : Request) {acts : List Act}
    (serving : ∀ a ∈ acts, a.afterStartup = true) (enough : 6 ≤ acts.countP (Act.advances s.threads.length)) :
    ∃ t answer, ((s.exec (.request r)).run acts).threads[s.threads.length]? = some t ∧
      t.response = some answer ∧ r.Answers s.globals answer := by
  obtain ⟨pc', rest', threads', handlers, -⟩ := served.oneLoader
  rw [threads, List.cons.injEq, Thread.loader.injEq] at threads'
  obtain ⟨rfl, rfl⟩ := threads'
  obtain ⟨rest'', arrived, handlers', same⟩ := exec_of_ended threads handlers ended (a := .request r) rfl
  have found := s.getElem?_exec_request r
  obtain ⟨t, later, tracks⟩ := run_tracks_of_ended arrived handlers' ended found
    (same ▸ r.tracks_thread s.globals) serving
  obtain ⟨u, later', done⟩ := answered_run found ((Request.thread_remaining r).trans enough)
  obtain rfl : t = u := Option.some.inj (later.symm.trans later')
  obtain ⟨answer, response, answers⟩ := tracks.answers done
  exact ⟨t, answer, later, response, same ▸ answers⟩

end Service

/-- Once the loader has ended, a request that arrives and whose handler then takes six steps,
however the steps of the other threads fall, is answered exactly as a handler that made all
its reads at one instant answers from the final globals: `/health` and `/status` report the
final flags, `loading_error` and device, and an inference request gets the gate's refusal
for those flags, or, when the model is loaded, its reply or a 500 from a library call. -/
theorem settled_answers :
    ∀ s : Service, s.Served -> ∀ pc rest, s.threads = .loader pc :: rest -> pc.Ended ->
      ∀ (r : Request) (acts : List Act), (∀ a ∈ acts, a.afterStartup = true) ->
        6 ≤ acts.countP (Act.advances s.threads.length) ->
        ∃ t answer, ((s.exec (.request r)).run acts).threads[s.threads.length]? = some t ∧
          t.response = some answer ∧ r.Answers s.globals answer :=
  fun _ served _ _ threads ended r _ serving enough =>
    Service.answers_of_ended served threads ended r serving enough

/-- The server after a load with every library call succeeding. -/
def loadedService : Service :=
  ((Service.initial "cpu").exec .startLoader).run (List.replicate 10 (.advance 0 {}))

/-- A `/health` request after a successful load, its handler stepped six times. -/
theorem settled_answers_loaded :
    ∃ t answer, ((loadedService.exec (.request .health)).run (List.replicate 6 (.advance 1 {}))).threads[
        loadedService.threads.length]? = some t ∧
      t.response = some answer ∧ Request.health.Answers loadedService.globals answer :=
  settled_answers loadedService (Service.Served.run (.started "cpu") (by decide)) .finished []
    (by decide) trivial .health _ (by decide) (by decide)

/-- A loader that raised on lines 77-79, before its `try`, leaves `model_loading` set for
good: from then on `/health` reports `loading`, `/status` reports loading, not loaded and no
error, and every inference request is told to wait, however long the service runs. -/
theorem died_loader_stalls :
    ∀ s : Service, s.Served -> ∀ rest, s.threads = .loader .died :: rest ->
      ∀ (r : Request) (acts : List Act), (∀ a ∈ acts, a.afterStartup = true) ->
        6 ≤ acts.countP (Act.advances s.threads.length) ->
        ∃ t answer, ((s.exec (.request r)).run acts).threads[s.threads.length]? = some t ∧
          t.response = some answer ∧
          (r = .health -> ∃ body, answer = .health body ∧ body.status = "loading" ∧
            body.loading = true ∧ body.loaded = false) ∧
          (r = .status -> ∃ body, answer = .status body ∧ body.loading = true ∧
            body.loaded = false ∧ body.error = none) ∧
          (∀ endpoint, r.thread = .inference endpoint .checkLoaded ->
            answer = .httpError 503 "Model is still loading, please wait...") := by
  intro s served rest threads r acts serving enough
  obtain ⟨pc, rest', threads', -, phase⟩ := served.oneLoader
  rw [threads, List.cons.injEq, Thread.loader.injEq] at threads'
  obtain ⟨rfl, rfl⟩ := threads'
  obtain ⟨loading, unloaded, clean⟩ := phase
  obtain ⟨t, answer, later, response, answers⟩ :=
    Service.answers_of_ended served threads trivial r serving enough
  refine ⟨t, answer, later, response, fun health => ?_, fun status => ?_, fun endpoint inference => ?_⟩
  · subst health
    exact ⟨_, answers, by simp [Globals.healthStatus, loading], loading, unloaded⟩
  · subst status
    exact ⟨_, answers, loading, unloaded, clean⟩
  · have refused : gateSnapshot s.globals = some (.httpError 503 "Model is still loading, please wait...") := by
      simp [gateSnapshot, loading, unloaded]
    cases r <;> simp only [Request.thread, Thread.inference.injEq, reduceCtorEq, false_and] at inference
    all_goals simpa only [Request.Answers, Endpoint.Answers, refused] using answers

/-- The server after its loader raised on the CUDA report. -/
def stalledService : Service :=
  ((Service.initial "cuda").exec .startLoader).run
    [.advance 0 {}, .advance 0 {}, .advance 0 {}, .advance 0 { cudaInfo := .error "CUDA error: unknown error" }]

/-- A chat request to the stalled server, its handler stepped six times. -/
theorem died_loader_stalls_chat :
    ∃ t answer, ((stalledService.exec (.request (.chatCompletion helloChat))).run
        (List.replicate 6 (.advance 1 {}))).threads[stalledService.threads.length]? = some t ∧
      t.response = some answer ∧
      (Request.chatCompletion helloChat = .health -> ∃ body, answer = .health body ∧
        body.status = "loading" ∧ body.loading = true ∧ body.loaded = false) ∧
      (Request.chatCompletion helloChat = .status -> ∃ body, answer = .status body ∧
        body.loading = true ∧ body.loaded = false ∧ body.error = none) ∧
      (∀ endpoint, (Request.chatCompletion helloChat).thread = .inference endpoint .checkLoaded ->
        answer = .httpError 503 "Model is still loading, please wait...") :=
  died_loader_stalls stalledService (Service.Served.run (.started "cuda") (by decide)) []
    (by decide) _ _ (by decide) (by decide)

end Omni
end InferenceService
