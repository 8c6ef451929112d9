import InferenceService.Omni.Requests
import Mathlib.Data.Option.Basic

namespace InferenceService
namespace Omni

/-!
# The globals of the Qwen3-Omni service and its background loader

`docker/qwen3-omni-server/service.py` keeps its load state in five module globals (lines
30-34): `model`, `processor`, `model_loading`, `model_loaded` and `loading_error`.  Only
`load_model_async` (lines 64-117), which `lifespan` starts on a daemon thread, assigns them.

The loader is a program counter over the source lines.  Each step is one read or one
assignment of a global, or one library call together with the assignment of its result;
the interpreter may switch threads between any two steps.  What a library call does is not
part of the service: the scheduler supplies it, as an `Outcome`, with the step that makes
the call.  A call either returns a value or raises with a message, and nothing is assumed
about which.
-/

/-- A model returned by `from_pretrained`.  The service reads nothing of it but its
`device`. -/
structure Model where
  device : String
  deriving DecidableEq, Repr

/-- A processor returned by `AutoProcessor.from_pretrained`.  The service only hands it back
to the library. -/
structure Processor where
  deriving DecidableEq, Repr

/-- The module globals of lines 30-34, with `DEVICE` (line 25), which is fixed at start-up. -/
structure Globals where
  model : Option Model
  processor : Option Processor
  modelLoading : Bool
  modelLoaded : Bool
  loadingError : Option String
  device : String
  deriving DecidableEq, Repr

/-- The globals as the module leaves them on import. -/
def Globals.initial (device : String) : Globals where
  model := none
  processor := none
  modelLoading := false
  modelLoaded := false
  loadingError := none
  device := device

/-- What each library call made by the step being taken does: `cudaInfo` is
`torch.cuda.get_device_name(0)` and `get_device_properties(0)` (lines 77-79), `processor`
the import of line 82 and `AutoProcessor.from_pretrained` (line 86), `model`
`Qwen3OmniMoeForConditionalGeneration.from_pretrained` (lines 94-100), `parameters`
`model.device` and the parameter count (lines 102-106), and `library` the calls of the
inference handlers.  A step uses at most one field; the defaults are calls that succeed. -/
structure Outcome where
  cudaInfo : Except String Unit := .ok ()
  processor : Except String Processor := .ok {}
  model : Except String Model := .ok ⟨"cuda:0"⟩
  parameters : Except String Unit := .ok ()
  library : Library := {}

/-- Where a thread running `load_model_async` is: the read of `model_loading` on line 68 and
the read of `model_loaded` after its `or`, line 71, the device report of lines 73-79 before
the `try`, lines 82-86, 94-100 and 102-106, the assignments of lines 108 and 109, the
`except` clause of lines 111-115 for an exception with its message, the `finally` clause of
line 117, the `return` of line 69, the end of the function, and a thread that an exception
before the `try` ended. -/
inductive LoaderPc where
  | checkLoading
  | checkLoaded
  | setLoading
  | reportDevice
  | loadProcessor
  | loadModel
  | reportModel
  | setLoaded
  | clearError
  | recordError (message : String)
  | clearLoading
  | returned
  | finished
  | died
  deriving DecidableEq, Repr

/-- One atomic step of `load_model_async`.  A finished thread stays where it is. -/
def loadModelAsync (g : Globals) (o : Outcome) : LoaderPc -> Globals × LoaderPc
  | .checkLoading => (g, if g.modelLoading then .returned else .checkLoaded)
  | .checkLoaded => (g, if g.modelLoaded then .returned else .setLoading)
  | .setLoading => ({ g with modelLoading := true }, .reportDevice)
  | .reportDevice =>
      match o.cudaInfo with
      | .ok () => (g, .loadProcessor)
      | .error _ => (g, .died)
  | .loadProcessor =>
      match o.processor with
      | .ok p => ({ g with processor := some p }, .loadModel)
      | .error e => (g, .recordError e)
  | .loadModel =>
      match o.model with
      | .ok m => ({ g with model := some m }, .reportModel)
      | .error e => (g, .recordError e)
  | .reportModel =>
      match g.model, o.parameters with
      | none, _ => (g, .recordError "'NoneType' object has no attribute 'device'")
      | some _, .ok () => (g, .setLoaded)
      | some _, .error e => (g, .recordError e)
  | .setLoaded => ({ g with modelLoaded := true }, .clearError)
  | .clearError => ({ g with loadingError := none }, .clearLoading)
  | .recordError e => ({ g with loadingError := some e }, .clearLoading)
  | .clearLoading => ({ g with modelLoading := false }, .finished)
  | .returned => (g, .returned)
  | .finished => (g, .finished)
  | .died => (g, .died)

end Omni
end InferenceService
