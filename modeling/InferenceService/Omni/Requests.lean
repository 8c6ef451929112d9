import Mathlib.Algebra.Order.Ring.Rat

namespace InferenceService
namespace Omni

/-!
# The request bodies of the inference routes and the library calls they make

`chat_completion` and `text_inference` take the Pydantic bodies of lines 37-53 and hand
their fields to the processor and the model.  What those objects do is not part of the
service: a `Library` is any behaviour of the five calls the `try` blocks make, each of
which returns a value or raises with a message.

A `float` field is a rational here, since the service only compares `temperature` with `0`
and hands it on; the default `0.7` is `mkRat 7 10`.  A dict inside a message's content is
kept as its JSON text: the service hands the content to `apply_chat_template` without
looking inside.
-/

/-- The `content` of a `ChatMessage` (line 39): a string, or a list of dicts. -/
inductive Content where
  | text (value : String)
  | parts (value : List String)
  deriving DecidableEq, Repr

/-- `ChatMessage` (lines 37-39). -/
structure ChatMessage where
  role : String
  content : Content
  deriving DecidableEq, Repr

/-- `ChatRequest` (lines 42-47) once validated, with its defaults.  Its `stream` field is
read by no handler. -/
structure ChatRequest where
  model : String := "/models"
  messages : List ChatMessage
  maxTokens : Option Int := some 512
  temperature : Option ℚ := some (mkRat 7 10)
  deriving DecidableEq, Repr

/-- `TextRequest` (lines 50-53) once validated, with its defaults. -/
structure TextRequest where
  text : String
  maxTokens : Option Int := some 512
  temperature : Option ℚ := some (mkRat 7 10)
  deriving DecidableEq, Repr

/-- The arguments of `model.generate` (lines 208-213 and 277-282), `**inputs` given by its
input ids. -/
structure GenerateCall where
  inputIds : List Nat
  maxNewTokens : Option Int
  temperature : Option ℚ
  doSample : Bool

/-- What the processor and the model do with what a handler hands them, an exception being
its message: `processor.apply_chat_template(conversation, tokenize=False,
add_generation_prompt=True)`; `processor(text=[text], return_tensors="pt")`, told whether
`padding=True` is passed, giving the input ids of its one row; `.to(model.device)`;
`model.generate(...)`, giving the first output row; and `processor.batch_decode(rows,
skip_special_tokens=True)[0]` on the one-row batch.  The defaults are calls that succeed. -/
structure Library where
  applyChatTemplate : List (String × Content) -> Except String String := fun _ => .ok ""
  encode : String -> Bool -> Except String (List Nat) := fun _ _ => .ok []
  toDevice : Except String Unit := .ok ()
  generate : GenerateCall -> Except String (List Nat) := fun call => .ok call.inputIds
  batchDecode : List Nat -> Except String String := fun _ => .ok ""

/-- `request.temperature > 0` (lines 212 and 281): comparing `None` with `0` raises. -/
def temperaturePositive : Option ℚ -> Except String Bool
  | none => .error "'>' not supported between instances of 'NoneType' and 'int'"
  | some t => .ok (decide (0 < t))

/-- A chat body with one user message and every other field at its default, sent in the
runs of the later modules. -/
def helloChat : ChatRequest where
  messages := [⟨"user", .text "Hello"⟩]

end Omni
end InferenceService
