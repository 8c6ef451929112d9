import Mathlib.Algebra.Order.Ring.Rat
import Mathlib.Tactic.NormNum

namespace InferenceService
namespace Speech

/-!
# Request bodies of the speech service

`TTSRequest` (lines 36-41) and `OpenAITTSRequest` (lines 219-225) are pydantic models: each
field is required (`Field(...)`) or has a default, and may carry `min_length` and
`max_length`, `ge` and `le`, or a `Literal` type.  FastAPI checks a body against its model
before the handler runs and otherwise answers 422 with one error per failing field, in the
order the fields are declared, each located at `["body", field]`.  Defaults are not checked.

Field values arrive here already of the field's type, pydantic's coercions being the
library's business: a body gives each field a value or leaves it out, and a float is the
rational it denotes.  The validated records carry their bounds in their types, so a handler
is only ever given a request within them; that the defaults lie within their own bounds is
proved where each model is written down.
-/

/-- Why a field is rejected. -/
inductive Violation where
  | missing
  | tooShort (minLength : Nat)
  | tooLong (maxLength : Nat)
  | tooSmall (ge : ℚ)
  | tooLarge (le : ℚ)
  | notLiteral (expected : List String)
  deriving DecidableEq, Repr

/-- One entry of a 422 answer: where the failing value is, and why. -/
structure FieldError where
  loc : List String
  violation : Violation
  deriving DecidableEq, Repr

/-- The error of the body field `name`. -/
def FieldError.ofField (name : String) (violation : Violation) : FieldError :=
  ⟨["body", name], violation⟩

/-- A string of `minLength` to `maxLength` characters. -/
abbrev LengthIn (minLength maxLength : Nat) : Type :=
  {s : String // minLength ≤ s.length ∧ s.length ≤ maxLength}

/-- A number from `ge` to `le`. -/
abbrev Within (ge le : ℚ) : Type :=
  {x : ℚ // ge ≤ x ∧ x ≤ le}

/-- A value of `Literal[choices]`. -/
abbrev OneOf (choices : List String) : Type :=
  {s : String // s ∈ choices}

/-! ## The field checks -/

/-- A `str` field with no constraint: its value, or its default, or missing. -/
def strField (name : String) (default : Option String) : Option String -> Except FieldError String
  | some value => .ok value
  | none =>
      match default with
      | some value => .ok value
      | none => .error (.ofField name .missing)

/-- A required `str` field with `min_length` and `max_length`. -/
def lengthField (name : String) (minLength maxLength : Nat) :
    Option String -> Except FieldError (LengthIn minLength maxLength)
  | none => .error (.ofField name .missing)
  | some value =>
      if short : value.length < minLength then .error (.ofField name (.tooShort minLength))
      else if long : maxLength < value.length then .error (.ofField name (.tooLong maxLength))
      else .ok ⟨value, by omega, by omega⟩

/-- A `float` field with `ge`, `le` and a default. -/
def rangeField (name : String) (ge le : ℚ) (default : Within ge le) :
    Option ℚ -> Except FieldError (Within ge le)
  | none => .ok default
  | some value =>
      if low : value < ge then .error (.ofField name (.tooSmall ge))
      else if high : le < value then .error (.ofField name (.tooLarge le))
      else .ok ⟨value, not_lt.mp low, not_lt.mp high⟩

/-- A `Literal[choices]` field with a default. -/
def literalField (name : String) (choices : List String) (default : OneOf choices) :
    Option String -> Except FieldError (OneOf choices)
  | none => .ok default
  | some value =>
      if member : value ∈ choices then .ok ⟨value, member⟩
      else .error (.ofField name (.notLiteral choices))

/-- A field check's result, its error as a one-entry list. -/
def lift {α : Type} : Except FieldError α -> Except (List FieldError) α
  | .ok value => .ok value
  | .error e => .error [e]

/-- Two checks made side by side: both values, or every error of both, the first's first.
Pydantic checks every field of a body and reports all that fail. -/
def collect {α β : Type} :
    Except (List FieldError) α -> Except (List FieldError) β -> Except (List FieldError) (α × β)
  | .ok a, .ok b => .ok (a, b)
  | .ok _, .error es => .error es
  | .error es, .ok _ => .error es
  | .error es, .error es' => .error (es ++ es')

/-- The errors a validation reported. -/
def errors {α : Type} : Except (List FieldError) α -> List FieldError
  | .ok _ => []
  | .error es => es

section Collect

variable {α β : Type}

@[simp] theorem lift_ok_iff {check : Except FieldError α} {value : α} :
    lift check = .ok value <-> check = .ok value := by
  cases check <;> simp [lift]

@[simp] theorem collect_ok_iff {x : Except (List FieldError) α} {y : Except (List FieldError) β}
    {a : α} {b : β} : collect x y = .ok (a, b) <-> x = .ok a ∧ y = .ok b := by
  cases x <;> cases y <;> simp [collect]

@[simp] theorem errors_collect (x : Except (List FieldError) α) (y : Except (List FieldError) β) :
    errors (collect x y) = errors x ++ errors y := by
  cases x <;> cases y <;> simp [collect, errors]

@[simp] theorem errors_map (f : α -> β) (x : Except (List FieldError) α) :
    errors (f <$> x) = errors x := by
  cases x <;> rfl

theorem mem_errors_lift {check : Except FieldError α} {e : FieldError} (member : e ∈ errors (lift check)) :
    check = .error e := by
  cases check <;> simp_all [lift, errors]

theorem map_eq_ok_iff {f : α -> β} (g : β -> α) (inverse : ∀ b, f (g b) = b)
    (injective : ∀ a, g (f a) = a) {x : Except (List FieldError) α} {b : β} :
    f <$> x = .ok b <-> x = .ok (g b) := by
  cases x with
  | error es => simp [Functor.map, Except.map]
  | ok a =>
      simp only [Functor.map, Except.map, Except.ok.injEq]
      exact ⟨fun same => same ▸ (injective a).symm, fun same => same ▸ inverse b⟩

/-- A validation that reports failure reports at least one error. -/
def Reports (x : Except (List FieldError) α) : Prop :=
  ∀ es, x = .error es -> es ≠ []

theorem lift_reports (check : Except FieldError α) : Reports (lift check) := by
  intro es failed
  cases check <;> simp only [lift, Except.error.injEq, reduceCtorEq] at failed
  exact failed ▸ List.cons_ne_nil _ _

theorem collect_reports {x : Except (List FieldError) α} {y : Except (List FieldError) β}
    (left : Reports x) (right : Reports y) : Reports (collect x y) := by
  intro es failed
  cases x <;> cases y <;> simp only [collect, Except.error.injEq, reduceCtorEq] at failed <;>
    subst failed <;> simp_all [Reports]

theorem map_reports (f : α -> β) {x : Except (List FieldError) α} (reports : Reports x) :
    Reports (f <$> x) := by
  intro es failed
  cases x <;> simp_all [Functor.map, Except.map, Reports]

end Collect

section Checks

variable (name : String)

theorem strField_ok_iff {default : String} {given : Option String} {value : String} :
    strField name (some default) given = .ok value <-> value = given.getD default := by
  cases given <;> simp [strField, eq_comm]

theorem strField_loc {default : Option String} {given : Option String} {e : FieldError}
    (failed : strField name default given = .error e) : e.loc = ["body", name] := by
  cases given <;> cases default <;> simp [strField] at failed
  subst failed
  rfl

theorem lengthField_loc {minLength maxLength : Nat} {given : Option String} {e : FieldError}
    (failed : lengthField name minLength maxLength given = .error e) : e.loc = ["body", name] := by
  cases given with
  | none =>
      simp only [lengthField, Except.error.injEq] at failed
      subst failed
      rfl
  | some value =>
      simp only [lengthField] at failed
      split at failed
      · cases failed; rfl
      · split at failed <;> cases failed; rfl

theorem rangeField_loc {ge le : ℚ} {default : Within ge le} {given : Option ℚ} {e : FieldError}
    (failed : rangeField name ge le default given = .error e) : e.loc = ["body", name] := by
  cases given with
  | none => simp [rangeField] at failed
  | some value =>
      simp only [rangeField] at failed
      split at failed
      · cases failed; rfl
      · split at failed <;> cases failed; rfl

theorem literalField_loc {choices : List String} {default : OneOf choices} {given : Option String}
    {e : FieldError} (failed : literalField name choices default given = .error e) :
    e.loc = ["body", name] := by
  cases given with
  | none => simp [literalField] at failed
  | some value =>
      simp only [literalField] at failed
      split at failed <;> cases failed; rfl

theorem lengthField_ok_iff {minLength maxLength : Nat} {given : Option String}
    {value : LengthIn minLength maxLength} :
    lengthField name minLength maxLength given = .ok value <-> given = some value.val := by
  cases given with
  | none => simp [lengthField]
  | some sent =>
      simp only [lengthField, Option.some.injEq]
      constructor
      · intro accepted
        split at accepted
        · cases accepted
        · split at accepted
          · cases accepted
          · cases accepted; rfl
      · rintro rfl
        simp [dif_neg (not_lt.mpr value.property.1), dif_neg (not_lt.mpr value.property.2)]

theorem rangeField_ok_iff {ge le : ℚ} {default : Within ge le} {given : Option ℚ}
    {value : Within ge le} :
    rangeField name ge le default given = .ok value <-> given.getD default.val = value.val := by
  cases given with
  | none => simp [rangeField, Subtype.ext_iff, eq_comm]
  | some sent =>
      simp only [rangeField, Option.getD_some]
      constructor
      · intro accepted
        split at accepted
        · cases accepted
        · split at accepted
          · cases accepted
          · cases accepted; rfl
      · rintro rfl
        simp [dif_neg (not_lt.mpr value.property.1), dif_neg (not_lt.mpr value.property.2)]

theorem literalField_ok_iff {choices : List String} {default : OneOf choices}
    {given : Option String} {value : OneOf choices} :
    literalField name choices default given = .ok value <-> given.getD default.val = value.val := by
  cases given with
  | none => simp [literalField, Subtype.ext_iff, eq_comm]
  | some sent =>
      simp only [literalField, Option.getD_some]
      constructor
      · intro accepted
        split at accepted
        · cases accepted; rfl
        · cases accepted
      · rintro rfl
        simp [dif_pos value.property]

end Checks

/-! ## The two request models -/

/-- A body sent to `POST /v1/tts`: each field given or left out. -/
structure TTSBody where
  text : Option String := none
  voice : Option String := none
  speed : Option ℚ := none
  responseFormat : Option String := none
  deriving DecidableEq, Repr

/-- `TTSRequest` (lines 36-41) once validated. -/
structure TTSRequest where
  text : LengthIn 1 5000
  voice : String
  speed : Within (1 / 2) 2
  responseFormat : OneOf ["wav"]

/-- FastAPI's check of a `/v1/tts` body against `TTSRequest`. -/
def TTSRequest.validate (body : TTSBody) : Except (List FieldError) TTSRequest :=
  (fun (((text, voice), speed), responseFormat) => ⟨text, voice, speed, responseFormat⟩) <$>
    collect (collect (collect (lift (lengthField "text" 1 5000 body.text))
      (lift (strField "voice" (some "default") body.voice)))
      (lift (rangeField "speed" (1 / 2) 2 ⟨1, by norm_num⟩ body.speed)))
      (lift (literalField "response_format" ["wav"] ⟨"wav", by simp⟩ body.responseFormat))

/-- A body sent to `POST /v1/audio/speech`. -/
structure OpenAITTSBody where
  model : Option String := none
  input : Option String := none
  voice : Option String := none
  responseFormat : Option String := none
  speed : Option ℚ := none
  deriving DecidableEq, Repr

/-- `OpenAITTSRequest` (lines 219-225) once validated. -/
structure OpenAITTSRequest where
  model : String
  input : LengthIn 1 5000
  voice : String
  responseFormat : OneOf ["wav"]
  speed : Within (1 / 4) 4

/-- FastAPI's check of a `/v1/audio/speech` body against `OpenAITTSRequest`. -/
def OpenAITTSRequest.validate (body : OpenAITTSBody) : Except (List FieldError) OpenAITTSRequest :=
  (fun ((((model, input), voice), responseFormat), speed) =>
      ⟨model, input, voice, responseFormat, speed⟩) <$>
    collect (collect (collect (collect (lift (strField "model" (some "qwen3-tts") body.model))
      (lift (lengthField "input" 1 5000 body.input)))
      (lift (strField "voice" (some "alloy") body.voice)))
      (lift (literalField "response_format" ["wav"] ⟨"wav", by simp⟩ body.responseFormat)))
      (lift (rangeField "speed" (1 / 4) 4 ⟨1, by norm_num⟩ body.speed))

section Validate

variable (body : TTSBody)

/-- `/v1/tts` accepts a body exactly when `text` is given with 1 to 5000 characters, a
given `speed` lies from 0.5 to 2 and a given `response_format` is `"wav"`: the record then
holds what was given, or the defaults. -/
theorem TTSRequest.validate_ok_iff (request : TTSRequest) :
    TTSRequest.validate body = .ok request <->
      body.text = some request.text.val ∧ request.voice = body.voice.getD "default" ∧
        body.speed.getD 1 = request.speed.val ∧ body.responseFormat.getD "wav" = request.responseFormat.val := by
  rw [TTSRequest.validate, map_eq_ok_iff (fun r => (((r.text, r.voice), r.speed), r.responseFormat))
    (fun _ => rfl) (fun _ => rfl)]
  simp [lengthField_ok_iff, strField_ok_iff, rangeField_ok_iff, literalField_ok_iff, and_assoc]

/-- A body `/v1/tts` rejects gets at least one error, and each names a field of
`TTSRequest` at `["body", field]`. -/
theorem TTSRequest.validate_errors :
    Reports (TTSRequest.validate body) ∧ ∀ e ∈ errors (TTSRequest.validate body),
      e.loc ∈ [["body", "text"], ["body", "voice"], ["body", "speed"], ["body", "response_format"]] := by
  refine ⟨map_reports _ (collect_reports (collect_reports (collect_reports (lift_reports _)
    (lift_reports _)) (lift_reports _)) (lift_reports _)), fun e member => ?_⟩
  simp only [TTSRequest.validate, errors_map, errors_collect, List.mem_append] at member
  rcases member with ((text | voice) | speed) | format
  · simp [lengthField_loc _ (mem_errors_lift text)]
  · simp [strField_loc _ (mem_errors_lift voice)]
  · simp [rangeField_loc _ (mem_errors_lift speed)]
  · simp [literalField_loc _ (mem_errors_lift format)]

end Validate

section Validate

variable (body : OpenAITTSBody)

/-- `/v1/audio/speech` accepts a body exactly when `input` is given with 1 to 5000
characters, a given `speed` lies from 0.25 to 4 and a given `response_format` is `"wav"`. -/
theorem OpenAITTSRequest.validate_ok_iff (request : OpenAITTSRequest) :
    OpenAITTSRequest.validate body = .ok request <->
      request.model = body.model.getD "qwen3-tts" ∧ body.input = some request.input.val ∧
        request.voice = body.voice.getD "alloy" ∧
        body.responseFormat.getD "wav" = request.responseFormat.val ∧
        body.speed.getD 1 = request.speed.val := by
  rw [OpenAITTSRequest.validate, map_eq_ok_iff
    (fun r => ((((r.model, r.input), r.voice), r.responseFormat), r.speed)) (fun _ => rfl) (fun _ => rfl)]
  simp [lengthField_ok_iff, strField_ok_iff, rangeField_ok_iff, literalField_ok_iff, and_assoc]

theorem OpenAITTSRequest.validate_errors :
    Reports (OpenAITTSRequest.validate body) ∧ ∀ e ∈ errors (OpenAITTSRequest.validate body),
      e.loc ∈ [["body", "model"], ["body", "input"], ["body", "voice"], ["body", "response_format"],
        ["body", "speed"]] := by
  refine ⟨map_reports _ (collect_reports (collect_reports (collect_reports (collect_reports
    (lift_reports _) (lift_reports _)) (lift_reports _)) (lift_reports _)) (lift_reports _)),
    fun e member => ?_⟩
  simp only [OpenAITTSRequest.validate, errors_map, errors_collect, List.mem_append] at member
  rcases member with (((model | input) | voice) | format) | speed
  · simp [strField_loc _ (mem_errors_lift model)]
  · simp [lengthField_loc _ (mem_errors_lift input)]
  · simp [strField_loc _ (mem_errors_lift voice)]
  · simp [literalField_loc _ (mem_errors_lift format)]
  · simp [rangeField_loc _ (mem_errors_lift speed)]

end Validate

end Speech
end InferenceService
