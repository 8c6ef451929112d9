import InferenceService.Omni.Loader

namespace InferenceService
namespace Omni

/-!
# The request handlers of the Qwen3-Omni service

The five routes of lines 146-312, each as a program counter over its reads of the globals.
A handler never assigns a global: each step below returns the handler's next position only,
so a handler cannot change the load state by construction, and the per-request `except`
clauses of the inference handlers are ordinary steps to a `500` answer.

Python evaluates the keyword arguments of `HealthResponse(...)` and the entries of the
`/status` dictionary in the order written, one global at a time, and `str(model.device) if
model else DEVICE` reads `model` twice.  The steps follow that order.  The inference
handlers read `model_loaded`, then `model_loading`, then use `processor` and `model` once
per library call inside their `try`.
-/

/-- `HealthResponse` (lines 56-61). -/
structure HealthResponse where
  status : String
  model : String
  device : String
  loaded : Bool
  loading : Bool
  deriving DecidableEq, Repr

/-- The body of `GET /status` (lines 306-312). -/
structure StatusBody where
  model : String
  loaded : Bool
  loading : Bool
  error : Option String
  device : String
  deriving DecidableEq, Repr

/-- What a handler answers: a `/health` or `/status` body, the fixed listing of lines
161-171, the completion of lines 221-241 (the request's `model` field, the reply and the
three usage counts; its `created` timestamp is not modelled), the body of lines 290-294, or
`HTTPException(status_code, detail)`.  FastAPI answers an exception a handler does not catch
with `500 Internal Server Error`. -/
inductive Response where
  | health (body : HealthResponse)
  | models
  | status (body : StatusBody)
  | chatCompletion (model content : String) (promptTokens : Nat) (completionTokens : Int)
      (totalTokens : Nat)
  | textInference (text : String) (inputTokens : Nat) (outputTokens : Int)
  | httpError (statusCode : Nat) (detail : String)
  deriving DecidableEq, Repr

/-! ## `GET /health` -/

/-- Where `health` (lines 146-155) is. -/
inductive HealthPc where
  | readLoading
  | readLoaded
  | readModel (status : String)
  | readDevice (status : String)
  | readLoadedField (status device : String)
  | readLoadingField (status device : String) (loaded : Bool)
  | responded (response : Response)
  deriving DecidableEq, Repr

/-- One atomic step of `health`. -/
def health (g : Globals) : HealthPc -> HealthPc
  | .readLoading => if g.modelLoading then .readModel "loading" else .readLoaded
  | .readLoaded => .readModel (if g.modelLoaded then "healthy" else "unhealthy")
  | .readModel status => if g.model.isSome then .readDevice status else .readLoadedField status g.device
  | .readDevice status =>
      match g.model with
      | some m => .readLoadedField status m.device
      | none => .responded (.httpError 500 "Internal Server Error")
  | .readLoadedField status device => .readLoadingField status device g.modelLoaded
  | .readLoadingField status device loaded =>
      .responded (.health
        { status, model := "Qwen3-Omni-30B-A3B", device, loaded, loading := g.modelLoading })
  | .responded r => .responded r

/-! ## `GET /v1/models` -/

/-- Where `list_models` (lines 158-171) is. -/
inductive ListModelsPc where
  | start
  | responded (response : Response)
  deriving DecidableEq, Repr

/-- `list_models` reads no global. -/
def listModels : ListModelsPc -> ListModelsPc
  | .start => .responded .models
  | .responded r => .responded r

/-! ## `POST /v1/chat/completions` and `POST /inference/text` -/

/-- The two inference routes, each with the body it was sent. -/
inductive Endpoint where
  | chatCompletion (request : ChatRequest)
  | textInference (request : TextRequest)
  deriving DecidableEq, Repr

namespace Endpoint

/-- The conversation a `try` block builds: both branches of the loop of lines 186-190 make
a `{"role", "content"}` pair of each message, and line 262 wraps `request.text` as one user
message. -/
def conversation : Endpoint -> List (String × Content)
  | .chatCompletion request => request.messages.map fun msg => (msg.role, msg.content)
  | .textInference request => [("user", .text request.text)]

/-- Whether the processor is called with `padding=True`: line 203 passes it, line 273 does
not. -/
def padding : Endpoint -> Bool
  | .chatCompletion _ => true
  | .textInference _ => false

def maxTokens : Endpoint -> Option Int
  | .chatCompletion request => request.maxTokens
  | .textInference request => request.maxTokens

def temperature : Endpoint -> Option ℚ
  | .chatCompletion request => request.temperature
  | .textInference request => request.temperature

/-- The answer after a successful generation: `outputs[:, input_len:]` is decoded, and the
counts are `input_len` and `len(outputs[0]) - input_len`. -/
def reply (inputTokens outputLength : Nat) (text : String) : Endpoint -> Response
  | .chatCompletion request =>
      .chatCompletion request.model text inputTokens ((outputLength : Int) - inputTokens) outputLength
  | .textInference _ => .textInference text inputTokens ((outputLength : Int) - inputTokens)

end Endpoint

/-- Where an inference handler is: the two reads of the gate (lines 177-181, 253-257), then
the five library calls of the `try` block, carrying the prompt, the input ids and the first
output row from one call to the next. -/
inductive InferencePc where
  | checkLoaded
  | checkLoading
  | applyTemplate
  | encode (text : String)
  | toDevice (inputIds : List Nat)
  | generate (inputIds : List Nat)
  | decode (inputIds outputs : List Nat)
  | responded (response : Response)
  deriving DecidableEq, Repr

/-- One library call on the global `processor` or `model` inside the `try`.  On `None` the
attribute access raises and the `except` clause answers 500 with its message; otherwise the
call returns and the handler goes on, or raises and the handler answers 500 with the
exception's message. -/
def inferenceUse {α β : Type} (global : Option α) (noneMessage : String) (call : Except String β)
    (next : β -> InferencePc) : InferencePc :=
  match global, call with
  | none, _ => .responded (.httpError 500 noneMessage)
  | some _, .ok value => next value
  | some _, .error e => .responded (.httpError 500 e)

/-- One atomic step of either inference handler, its calls answered by `lib`.  The
`model.generate` of lines 208-213 (277-282) looks up `model.generate` and then evaluates
its arguments, `request.temperature > 0` among them, before the call. -/
def inference (endpoint : Endpoint) (g : Globals) (lib : Library) : InferencePc -> InferencePc
  | .checkLoaded => if g.modelLoaded then .applyTemplate else .checkLoading
  | .checkLoading =>
      .responded (.httpError 503 (if g.modelLoading then "Model is still loading, please wait..."
        else "Model failed to load"))
  | .applyTemplate =>
      inferenceUse g.processor "'NoneType' object has no attribute 'apply_chat_template'"
        (lib.applyChatTemplate endpoint.conversation) .encode
  | .encode text =>
      inferenceUse g.processor "'NoneType' object is not callable"
        (lib.encode text endpoint.padding) .toDevice
  | .toDevice inputIds =>
      inferenceUse g.model "'NoneType' object has no attribute 'device'" lib.toDevice
        fun _ => .generate inputIds
  | .generate inputIds =>
      inferenceUse g.model "'NoneType' object has no attribute 'generate'"
        (temperaturePositive endpoint.temperature >>= fun doSample =>
          lib.generate ⟨inputIds, endpoint.maxTokens, endpoint.temperature, doSample⟩)
        (.decode inputIds)
  | .decode inputIds outputs =>
      inferenceUse g.processor "'NoneType' object has no attribute 'batch_decode'"
        (lib.batchDecode (outputs.drop inputIds.length))
        fun text => .responded (endpoint.reply inputIds.length outputs.length text)
  | .responded r => .responded r

/-- `chat_completion` (lines 174-247). -/
def chatCompletion (request : ChatRequest) : Globals -> Library -> InferencePc -> InferencePc :=
  inference (.chatCompletion request)

/-- `text_inference` (lines 250-300). -/
def textInference (request : TextRequest) : Globals -> Library -> InferencePc -> InferencePc :=
  inference (.textInference request)

/-- The handler serving an inference route. -/
def Endpoint.handler : Endpoint -> Globals -> Library -> InferencePc -> InferencePc
  | .chatCompletion request => Omni.chatCompletion request
  | .textInference request => Omni.textInference request

@[simp] theorem Endpoint.handler_eq (endpoint : Endpoint) : endpoint.handler = inference endpoint := by
  cases endpoint <;> rfl

/-! ## `GET /status` -/

/-- Where `status` (lines 303-312) is, with the values it has read. -/
inductive StatusPc where
  | readLoaded
  | readLoading (loaded : Bool)
  | readError (loaded loading : Bool)
  | readModel (loaded loading : Bool) (error : Option String)
  | readDevice (loaded loading : Bool) (error : Option String)
  | responded (response : Response)
  deriving DecidableEq, Repr

/-- The dictionary `status` returns. -/
def statusBody (loaded loading : Bool) (error : Option String) (device : String) : Response :=
  .status { model := "Qwen3-Omni-30B-A3B", loaded, loading, error, device }

/-- One atomic step of `status`. -/
def status (g : Globals) : StatusPc -> StatusPc
  | .readLoaded => .readLoading g.modelLoaded
  | .readLoading loaded => .readError loaded g.modelLoading
  | .readError loaded loading => .readModel loaded loading g.loadingError
  | .readModel loaded loading error =>
      if g.model.isSome then .readDevice loaded loading error
      else .responded (statusBody loaded loading error g.device)
  | .readDevice loaded loading error =>
      match g.model with
      | some m => .responded (statusBody loaded loading error m.device)
      | none => .responded (.httpError 500 "Internal Server Error")
  | .responded r => .responded r

/-! ## Threads -/

/-- A thread of the process: the loader, or a handler serving one request. -/
inductive Thread where
  | loader (pc : LoaderPc)
  | health (pc : HealthPc)
  | listModels (pc : ListModelsPc)
  | inference (endpoint : Endpoint) (pc : InferencePc)
  | status (pc : StatusPc)
  deriving DecidableEq, Repr

/-- One atomic step of a thread: the globals after it, and where the thread is then.  Only
the loader changes the globals. -/
def Thread.step (g : Globals) (o : Outcome) : Thread -> Globals × Thread
  | .loader pc => ((loadModelAsync g o pc).1, .loader (loadModelAsync g o pc).2)
  | .health pc => (g, .health (Omni.health g pc))
  | .listModels pc => (g, .listModels (Omni.listModels pc))
  | .inference endpoint pc => (g, .inference endpoint (endpoint.handler g o.library pc))
  | .status pc => (g, .status (Omni.status g pc))

/-- A request to one of the five routes. -/
inductive Request where
  | health
  | listModels
  | chatCompletion (request : ChatRequest)
  | textInference (request : TextRequest)
  | status
  deriving DecidableEq, Repr

/-- The handler thread a request starts. -/
def Request.thread : Request -> Thread
  | .health => .health .readLoading
  | .listModels => .listModels .start
  | .chatCompletion request => .inference (.chatCompletion request) .checkLoaded
  | .textInference request => .inference (.textInference request) .checkLoaded
  | .status => .status .readLoaded

/-- A thread serving a request, as opposed to the loader. -/
def Thread.IsHandler : Thread -> Prop
  | .loader _ => False
  | _ => True

theorem Thread.step_globals_of_isHandler {t : Thread} (handler : t.IsHandler) (g : Globals)
    (o : Outcome) : (t.step g o).1 = g := by
  cases t <;> simp_all [Thread.IsHandler, Thread.step]

end Omni
end InferenceService
