import InferenceService.Omni.LoadState
import InferenceService.Omni.Settled

namespace InferenceService
namespace Omni

/-!
# The inference handlers against their `try` blocks

Each step of an inference handler in `Handlers` makes one library call on what the calls
before it returned, and other threads may run between any two of them.  Read as sequential
code, the `try` block of `chat_completion` (lines 183-241) hands the messages'
`{"role", "content"}` pairs to `apply_chat_template`, the prompt to the processor with
`padding=True`, moves the inputs to the device, calls `model.generate` with the input ids,
`max_tokens`, `temperature` and `do_sample=request.temperature > 0`, decodes the output row
after the input, and answers with the counts `input_len`, `len(outputs[0]) - input_len` and
`len(outputs[0])`; its `except` clause answers 500 with the message of the first call that
raised.  `text_inference` (lines 259-294) does the same with one user message, without
padding, and answers with its own body.

Once `model_loaded` is true, a request that arrives and whose handler takes six steps, each
answered by one `Library`, is answered exactly as that sequential code answers with that
library, however the steps of any number of loaders and other requests fall between them
(`adapter_refinement`).  Past the gate a handler reads of the globals only that `processor`
and `model` are set, and the other threads never unset them.  This covers a body whose
`temperature` is `null`, which the request model accepts: `None > 0` raises `TypeError` among
the arguments of `generate`, after the prompt was built, encoded and moved to the device, and
the request is answered 500.
-/

/-- The `try` block of `chat_completion` (lines 183-241): both branches of the loop on lines
186-190 build the same pair. -/
def chatCompletionTry (lib : Library) (request : ChatRequest) : Except String Response := do
  let conversation := request.messages.map fun msg => (msg.role, msg.content)
  let text ← lib.applyChatTemplate conversation
  let inputIds ← lib.encode text true
  lib.toDevice
  let doSample ← temperaturePositive request.temperature
  let outputs ← lib.generate ⟨inputIds, request.maxTokens, request.temperature, doSample⟩
  let responseText ← lib.batchDecode (outputs.drop inputIds.length)
  pure (.chatCompletion request.model responseText inputIds.length
    ((outputs.length : Int) - inputIds.length) outputs.length)

/-- The `try` block of `text_inference` (lines 259-294). -/
def textInferenceTry (lib : Library) (request : TextRequest) : Except String Response := do
  let text ← lib.applyChatTemplate [("user", .text request.text)]
  let inputIds ← lib.encode text false
  lib.toDevice
  let doSample ← temperaturePositive request.temperature
  let outputs ← lib.generate ⟨inputIds, request.maxTokens, request.temperature, doSample⟩
  let response ← lib.batchDecode (outputs.drop inputIds.length)
  pure (.textInference response inputIds.length ((outputs.length : Int) - inputIds.length))

/-- The `except` clauses of lines 243-247 and 296-300: `HTTPException(500, str(e))`. -/
def answerOf : Except String Response -> Response
  | .ok response => response
  | .error e => .httpError 500 e

example : answerOf (chatCompletionTry
    { encode := fun _ _ => .ok [1, 2], generate := fun call => .ok (call.inputIds ++ [3]) }
    helloChat) = .chatCompletion "/models" "" 2 1 3 := by
  decide

/-- The `try` block an endpoint runs. -/
def Endpoint.tryBlock (lib : Library) : Endpoint -> Except String Response
  | .chatCompletion request => chatCompletionTry lib request
  | .textInference request => textInferenceTry lib request

/-- Both `try` blocks at once, over the fields `Handlers` reads of an endpoint. -/
theorem Endpoint.tryBlock_eq (lib : Library) (endpoint : Endpoint) :
    endpoint.tryBlock lib = (do
      let text ← lib.applyChatTemplate endpoint.conversation
      let inputIds ← lib.encode text endpoint.padding
      lib.toDevice
      let doSample ← temperaturePositive endpoint.temperature
      let outputs ← lib.generate ⟨inputIds, endpoint.maxTokens, endpoint.temperature, doSample⟩
      let reply ← lib.batchDecode (outputs.drop inputIds.length)
      pure (endpoint.reply inputIds.length outputs.length reply)) := by
  cases endpoint <;> rfl

/-! ## The handler's own steps -/

/-- `model_loaded` true, with `processor` and `model` set. -/
def Ready (g : Globals) : Prop :=
  g.modelLoaded = true ∧ LoadedSet g

theorem Ready.grow {g g' : Globals} (grows : g.Grows g') (ready : Ready g) : Ready g' :=
  ⟨grows.modelLoaded ready.1, ready.2.grow grows⟩

theorem inferenceUse_of_some {α β : Type} (a : α) (message : String) (call : Except String β)
    (next : β -> InferencePc) :
    inferenceUse (some a) message call next =
      match call with
      | .ok v => next v
      | .error e => .responded (.httpError 500 e) := by
  cases call <;> rfl

/-- Except at the read of `model_loading`, an inference step reads of ready globals nothing
that differs between them. -/
theorem inference_congr {g g' : Globals} (ready : Ready g) (ready' : Ready g')
    (endpoint : Endpoint) (lib : Library) {pc : InferencePc} (gate : pc ≠ .checkLoading) :
    inference endpoint g lib pc = inference endpoint g' lib pc := by
  obtain ⟨p, hp⟩ := Option.ne_none_iff_exists'.mp ready.2.1
  obtain ⟨m, hm⟩ := Option.ne_none_iff_exists'.mp ready.2.2
  obtain ⟨p', hp'⟩ := Option.ne_none_iff_exists'.mp ready'.2.1
  obtain ⟨m', hm'⟩ := Option.ne_none_iff_exists'.mp ready'.2.2
  cases pc with
  | checkLoaded => simp only [inference, ready.1, ready'.1, if_true]
  | checkLoading => exact absurd rfl gate
  | responded _ => rfl
  | _ => simp only [inference, hp, hm, hp', hm', inferenceUse_of_some]

theorem inferenceUse_ne_checkLoading {α β : Type} {global : Option α} {message : String}
    {call : Except String β} {next : β -> InferencePc} (onward : ∀ v, next v ≠ .checkLoading) :
    inferenceUse global message call next ≠ .checkLoading := by
  unfold inferenceUse
  split
  · exact InferencePc.noConfusion
  · exact onward _
  · exact InferencePc.noConfusion

theorem iterate_ne_checkLoading (endpoint : Endpoint) {g : Globals} (loaded : g.modelLoaded = true)
    (lib : Library) (i : Nat) : (inference endpoint g lib)^[i] .checkLoaded ≠ .checkLoading := by
  induction i with
  | zero => exact InferencePc.noConfusion
  | succ i ih =>
      rw [Function.iterate_succ_apply']
      generalize (inference endpoint g lib)^[i] .checkLoaded = pc at ih
      cases pc <;> first
        | exact absurd rfl ih
        | simp only [inference, loaded, if_true]; exact InferencePc.noConfusion
        | exact inferenceUse_ne_checkLoading fun _ => InferencePc.noConfusion

/-- At ready globals the handler answers in six steps what its `try` block computes. -/
theorem iterate_six (lib : Library) (endpoint : Endpoint) {g : Globals} (ready : Ready g) :
    (inference endpoint g lib)^[6] .checkLoaded = .responded (answerOf (endpoint.tryBlock lib)) := by
  obtain ⟨loaded, set⟩ := ready
  obtain ⟨p, hp⟩ := Option.ne_none_iff_exists'.mp set.1
  obtain ⟨m, hm⟩ := Option.ne_none_iff_exists'.mp set.2
  simp only [Function.iterate_succ, Function.iterate_zero, Function.comp_apply, id,
    Endpoint.tryBlock_eq, bind, Except.bind, Functor.map, Except.map, pure, Except.pure, inference,
    loaded, if_true, hp, hm, inferenceUse_of_some]
  cases templated : lib.applyChatTemplate endpoint.conversation with
  | error e => simp [*, answerOf]
  | ok prompt =>
  cases encoded : lib.encode prompt endpoint.padding with
  | error e => simp [*, answerOf]
  | ok ids =>
  cases moved : lib.toDevice with
  | error e => simp [*, answerOf]
  | ok _ =>
  cases compared : temperaturePositive endpoint.temperature with
  | error e => simp [*, answerOf]
  | ok doSample =>
  cases generated : lib.generate ⟨ids, endpoint.maxTokens, endpoint.temperature, doSample⟩ with
  | error e => simp [*, answerOf]
  | ok outputs => cases decoded : lib.batchDecode (outputs.drop ids.length) <;> simp [*, answerOf]

/-! ## Any interleaving -/

namespace Service

/-- While thread `k` serves an inference request whose steps are each answered by `lib`, it
is where `n` steps at one ready reference state would have taken it, `n` counting its own
steps: the other threads only ever add to the globals. -/
theorem run_inference_of_ready {s : Service} (ready : Ready s.globals) {g₀ : Globals}
    (ready₀ : Ready g₀) {k i : Nat} {endpoint : Endpoint} {lib : Library}
    (found : s.threads[k]? = some (.inference endpoint ((inference endpoint g₀ lib)^[i] .checkLoaded)))
    {acts : List Act}
    (own : ∀ a ∈ acts, a.advances k = true -> ∃ o, a = .advance k o ∧ o.library = lib) :
    (s.run acts).threads[k]? = some (.inference endpoint
      ((inference endpoint g₀ lib)^[i + acts.countP (Act.advances k)] .checkLoaded)) := by
  induction acts generalizing s i with
  | nil => exact found
  | cons a more ih =>
      have ready' := Ready.grow (s.exec_grows a) ready
      have own' := fun b member => own b (List.mem_cons_of_mem a member)
      cases step : a.advances k with
      | false =>
          simpa [List.countP_cons, step] using ih ready' (getElem?_exec_other found step) own'
      | true =>
          obtain ⟨o, rfl, rfl⟩ := own a (List.mem_cons_self _ _) step
          have moved := getElem?_exec_self found o
          simp only [Thread.step, Endpoint.handler_eq,
            inference_congr ready ready₀ endpoint _ (iterate_ne_checkLoading endpoint ready₀.1 _ i),
            ← Function.iterate_succ_apply' (inference endpoint g₀ o.library)] at moved
          have count : i + (Act.advance k o :: more).countP (Act.advances k) =
              i.succ + more.countP (Act.advances k) := by
            simp only [List.countP_cons, step, if_true]
            omega
          rw [run_cons, count]
          exact ih ready' moved own'

/-- A handler that starts at its gate with the globals ready, given six steps of its own
each answered by `lib`, has answered what its `try` block computes with `lib`. -/
theorem run_inference_answers {s : Service} (ready : Ready s.globals) {k : Nat}
    {endpoint : Endpoint} (found : s.threads[k]? = some (.inference endpoint .checkLoaded))
    {lib : Library} {acts : List Act}
    (own : ∀ a ∈ acts, a.advances k = true -> ∃ o, a = .advance k o ∧ o.library = lib)
    (enough : 6 ≤ acts.countP (Act.advances k)) :
    (s.run acts).threads[k]? =
      some (.inference endpoint (.responded (answerOf (endpoint.tryBlock lib)))) := by
  rw [run_inference_of_ready ready ready (i := 0) found own, Nat.zero_add,
    ← Nat.sub_add_cancel enough, Function.iterate_add_apply, iterate_six lib endpoint ready]
  exact congrArg _ (congrArg _ (Function.iterate_fixed rfl _))

end Service

/-- Under every interleaving of any number of loaders and requests, once `model_loaded` is
true: a `chat_completion` or `text_inference` request that arrives, and whose handler takes six
steps each answered by one processor and model, is answered exactly as the `try` block of lines
183-241 (259-294) and its `except` clause compute with them, from the request's own body: the
reply with its counts, or 500 with the message of the first call that raised, `None > 0`
among them. -/
theorem adapter_refinement :
    ∀ s : Service, s.Reachable -> s.globals.modelLoaded = true ->
      ∀ (lib : Library) (acts : List Act),
        (∀ a ∈ acts, a.advances s.threads.length = true ->
          ∃ o, a = .advance s.threads.length o ∧ o.library = lib) ->
        6 ≤ acts.countP (Act.advances s.threads.length) ->
        (∀ request : ChatRequest,
          ((s.exec (.request (.chatCompletion request))).run acts).threads[s.threads.length]? =
            some (.inference (.chatCompletion request)
              (.responded (answerOf (chatCompletionTry lib request))))) ∧
        (∀ request : TextRequest,
          ((s.exec (.request (.textInference request))).run acts).threads[s.threads.length]? =
            some (.inference (.textInference request)
              (.responded (answerOf (textInferenceTry lib request))))) := by
  intro s reachable loaded lib acts own enough
  have ready : Ready s.globals := ⟨loaded, (loadInvariant_of_reachable reachable).1 loaded⟩
  exact ⟨fun request => Service.run_inference_answers (s := s.exec (.request (.chatCompletion request)))
      ready (s.getElem?_exec_request _) own enough,
    fun request => Service.run_inference_answers (s := s.exec (.request (.textInference request)))
      ready (s.getElem?_exec_request _) own enough⟩

/-- A processor and model that answer every call. -/
def echoLibrary : Library where
  applyChatTemplate _ := .ok "<|im_start|>user\nHello<|im_end|>"
  encode _ _ := .ok [151644, 872, 9707]
  generate call := .ok (call.inputIds ++ [9707, 151645])
  batchDecode _ := .ok "Hello"

/-- A chat body sent with `"temperature": null`. -/
def nullTemperatureChat : ChatRequest where
  messages := [⟨"user", .text "Hello"⟩]
  temperature := none

/-- That body sent to the loaded server, its handler stepped six times, is answered 500 with
the `TypeError` of `None > 0`. -/
theorem adapter_refinement_null_temperature :
    ((loadedService.exec (.request (.chatCompletion nullTemperatureChat))).run
        (List.replicate 6 (.advance loadedService.threads.length { library := echoLibrary }))).threads[
          loadedService.threads.length]? =
      some (.inference (.chatCompletion nullTemperatureChat)
        (.responded (answerOf (chatCompletionTry echoLibrary nullTemperatureChat)))) ∧
    answerOf (chatCompletionTry echoLibrary nullTemperatureChat) =
      .httpError 500 "'>' not supported between instances of 'NoneType' and 'int'" :=
  ⟨(adapter_refinement loadedService
      (Service.reachable_run (.exec .startLoader (.initial "cpu")) _) (by decide) echoLibrary _
      (fun _ member _ => ⟨_, List.eq_of_mem_replicate member, rfl⟩) (by decide)).1 nullTemperatureChat,
    rfl⟩

end Omni
end InferenceService
