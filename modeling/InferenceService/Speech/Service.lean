import InferenceService.Speech.Request
import InferenceService.Speech.Fallback

namespace InferenceService
namespace Speech

/-!
# The speech service

`main.py` keeps two globals, `model` and `model_loaded` (lines 32-33), which `lifespan`
sets when it is entered and clears after its `yield` (lines 44-83).  Its handlers are
`async` functions that never `await`, so each runs to completion on the event loop with no
other handler and no part of `lifespan` in between: the process is a sequence of whole
events.  Nothing in the module stops `lifespan` from being entered again, or requests from
arriving before it or after its exit, so events come in any order.

What the libraries do is given by a `World` for each request: whether the reference audio
exists, what `generate_voice_clone` does with its arguments, and whether `wavfile.write`
accepts the array it is given (it raises, for one, on a rate or byte rate too large for the
32-bit fields of the WAV header).  The base64 text of a WAV file and a temporary file's name
are not modelled; an answer records how many samples at what rate it carries.

Requests change no global.  `/v1/audio/speech` creates its temporary file with
`delete=False` before writing into it, so every request whose generation succeeds leaves a
file on disk, also when the write then raises and the request is answered 500.
-/

/-- The loaded `Qwen3TTSModel`; only whether there is one matters here. -/
structure TTSModel where
  deriving DecidableEq, Repr

/-- The settings the handlers read: `DEVICE`, `REFERENCE_AUDIO` and `REFERENCE_TEXT` of
lines 26-29, with their defaults. -/
structure Config where
  device : String := "cpu"
  referenceAudio : String := "/model/reference.wav"
  referenceText : String := "your power is sufficient i said"
  deriving DecidableEq, Repr

/-- The globals of lines 32-33. -/
structure Globals where
  model : Option TTSModel
  modelLoaded : Bool
  deriving DecidableEq, Repr

/-- The globals at import. -/
def Globals.initial : Globals :=
  ⟨none, false⟩

/-! ## `lifespan` -/

/-- What `lifespan` finds at start-up: the names in `MODEL_PATH` if it exists, and what
`Qwen3TTSModel.from_pretrained` does. -/
structure Startup where
  listing : Option (List String)
  load : Except String TTSModel

/-- `model_files_exist` (lines 55-58): `str.endswith` compares code points at the end. -/
def modelFilesExist : Option (List String) -> Bool
  | none => false
  | some names =>
      names.any fun name =>
        [".bin", ".safetensors", ".pt", ".pth"].any fun suffix => suffix.data.isSuffixOf name.data

/-- `lifespan` up to its `yield` (lines 47-76).  When `from_pretrained` raises, `model` keeps
the value it had. -/
def startup (g : Globals) (found : Startup) : Globals :=
  if modelFilesExist found.listing then
    match found.load with
    | .ok model => { model := some model, modelLoaded := true }
    | .error _ => { g with modelLoaded := false }
  else { g with modelLoaded := false }

/-- `lifespan` after its `yield` (lines 81-83). -/
def shutdown (g : Globals) : Globals :=
  { g with modelLoaded := false, model := none }

/-! ## The handlers -/

/-- The body of `GET /health` (lines 118-125). -/
structure HealthBody where
  status : String
  model : String
  device : String
  loaded : Bool
  realModel : Bool
  fallbackMode : Bool
  deriving DecidableEq, Repr

/-- The body of `GET /` (lines 131-141). -/
structure RootBody where
  service : String
  version : String
  modelLoaded : Bool
  device : String
  endpoints : List (String × String)
  deriving DecidableEq, Repr

/-- The body of a `/v1/tts` answer (lines 182-189 and 202-210), the base64 WAV given by how
many samples at what rate it encodes. -/
structure SpeechBody where
  text : String
  samples : Nat
  sampleRate : Nat
  format : String
  durationSeconds : ℚ
  realModel : Bool
  note : Option String
  deriving DecidableEq, Repr

/-- What the service answers: the bodies of the routes, `FileResponse(tmp_path, media_type,
filename)` of lines 257-261 for a WAV file of so many samples at a rate, FastAPI's 422 answer
to a body its model rejects, or an `HTTPException`. -/
inductive Response where
  | health (body : HealthBody)
  | root (body : RootBody)
  | speech (body : SpeechBody)
  | file (mediaType filename : String) (samples sampleRate : Nat)
  | validationError (errors : List FieldError)
  | httpError (statusCode : Nat) (detail : String)
  deriving DecidableEq, Repr

/-- `health_check` (lines 115-125). -/
def healthCheck (config : Config) (g : Globals) : Response :=
  .health
    { status := "healthy", model := "Qwen3-TTS-0.6B", device := config.device,
      loaded := g.modelLoaded, realModel := g.model.isSome, fallbackMode := g.model.isNone }

/-- `root` (lines 128-141). -/
def root (config : Config) (g : Globals) : Response :=
  .root
    { service := "Qwen3-TTS-0.6B", version := "1.0.0", modelLoaded := g.modelLoaded,
      device := config.device,
      endpoints := [("health", "/health"), ("tts", "/v1/tts (POST)"),
        ("openai_compat", "/v1/audio/speech (POST)")] }

/-- The arguments of `model.generate_voice_clone` (lines 159-164 and 239-244). -/
structure VoiceCloneCall where
  text : String
  refAudio : Option String
  refText : Option String
  language : String
  deriving DecidableEq, Repr

/-- What `generate_voice_clone` returned: the length of its first array, and the rate. -/
structure VoiceClone where
  samples : Nat
  sampleRate : Nat
  deriving DecidableEq, Repr

/-- The world a request is served in: whether `REFERENCE_AUDIO` exists, what the model's
generation does with each call, and whether `wavfile.write` (lines 174, 197 and 255) raises
on an array of so many samples at a rate, an exception being its message. -/
structure World where
  referenceExists : Bool
  generate : VoiceCloneCall -> Except String VoiceClone
  writeWav : VoiceClone -> Except String Unit

/-- Lines 155-164 (236-244): the reference pair when the audio file exists; `ref_text`
follows the truth of the path string. -/
def voiceCloneCall (config : Config) (world : World) (text : String) : VoiceCloneCall :=
  let refAudio := if world.referenceExists then some config.referenceAudio else none
  { text, refAudio, language := "auto",
    refText := if refAudio.getD "" = "" then none else some config.referenceText }

/-- The real-model branch of `text_to_speech` (lines 150-189) with its `except` clause: the
WAV is written into a buffer, and then `len(audio_int16) / sample_rate` raises when the rate
is zero. -/
def realSpeech (config : Config) (world : World) (request : TTSRequest) : Response :=
  match world.generate (voiceCloneCall config world request.text.val) with
  | .error e => .httpError 500 ("TTS error: " ++ e)
  | .ok clone =>
      match world.writeWav clone with
      | .error e => .httpError 500 ("TTS error: " ++ e)
      | .ok () =>
          if clone.sampleRate = 0 then .httpError 500 "TTS error: division by zero"
          else
            .speech
              { text := request.text.val, samples := clone.samples,
                sampleRate := clone.sampleRate, format := request.responseFormat.val,
                durationSeconds := roundHundredths (clone.samples / clone.sampleRate),
                realModel := true, note := none }

/-- The fallback branch of `text_to_speech` (lines 190-210) with the same `except` clause. -/
def fallbackSpeech (world : World) (request : TTSRequest) : Response :=
  let audio := generateFallbackAudio request.text.val request.speed.val 24000
  match world.writeWav ⟨audio.samples, audio.sampleRate⟩ with
  | .error e => .httpError 500 ("TTS error: " ++ e)
  | .ok () =>
      .speech
        { text := request.text.val, samples := audio.samples, sampleRate := audio.sampleRate,
          format := request.responseFormat.val, durationSeconds := roundHundredths audio.duration,
          realModel := false, note := some "Fallback mode - sine wave audio" }

/-- `text_to_speech` (lines 144-215). -/
def textToSpeech (config : Config) (world : World) (g : Globals) (request : TTSRequest) : Response :=
  if g.model.isSome && g.modelLoaded then realSpeech config world request
  else fallbackSpeech world request

/-- `openai_compatible_tts` (lines 228-266), with whether it left a temporary file: line 253
creates the file before line 255 writes into it, and nothing removes it.  The 503 of line 232
is outside the `try`. -/
def openaiCompatibleTts (config : Config) (world : World) (g : Globals)
    (request : OpenAITTSRequest) : Response × Bool :=
  if g.model.isNone || !g.modelLoaded then (.httpError 503 "Model not loaded", false)
  else
    match world.generate (voiceCloneCall config world request.input.val) with
    | .error e => (.httpError 500 ("TTS error: " ++ e), false)
    | .ok clone =>
        match world.writeWav clone with
        | .error e => (.httpError 500 ("TTS error: " ++ e), true)
        | .ok () => (.file "audio/wav" "speech.wav" clone.samples clone.sampleRate, true)

/-! ## The process -/

/-- The process: the globals, and how many temporary WAV files line 253 has left on disk. -/
structure Service where
  globals : Globals
  tempFiles : Nat
  deriving DecidableEq, Repr

/-- A request to one of the four routes, with the body as sent. -/
inductive Request where
  | health
  | root
  | tts (body : TTSBody)
  | speech (body : OpenAITTSBody)

/-- What can happen next: `lifespan` entered, a request, or `lifespan` left. -/
inductive Event where
  | start (found : Startup)
  | request (r : Request) (world : World)
  | stop

namespace Service

/-- The process at import. -/
def initial : Service :=
  ⟨Globals.initial, 0⟩

/-- A request served: the body checked against its model first, then the handler. -/
def serve (config : Config) (world : World) (s : Service) : Request -> Response × Service
  | .health => (healthCheck config s.globals, s)
  | .root => (root config s.globals, s)
  | .tts body =>
      match TTSRequest.validate body with
      | .error es => (.validationError es, s)
      | .ok request => (textToSpeech config world s.globals request, s)
  | .speech body =>
      match OpenAITTSRequest.validate body with
      | .error es => (.validationError es, s)
      | .ok request =>
          let answer := openaiCompatibleTts config world s.globals request
          (answer.1, if answer.2 then { s with tempFiles := s.tempFiles + 1 } else s)

/-- One event, and the answer to a request. -/
def exec (config : Config) (s : Service) : Event -> Service × Option Response
  | .start found => ({ s with globals := startup s.globals found }, none)
  | .request r world => ((s.serve config world r).2, some (s.serve config world r).1)
  | .stop => ({ s with globals := shutdown s.globals }, none)

/-- A request changes no global, and leaves at most one more temporary file. -/
theorem serve_state (config : Config) (world : World) (s : Service) (r : Request) :
    (s.serve config world r).2.globals = s.globals ∧
      s.tempFiles ≤ (s.serve config world r).2.tempFiles ∧
      (s.serve config world r).2.tempFiles ≤ s.tempFiles + 1 := by
  cases r with
  | health | root => exact ⟨rfl, le_rfl, Nat.le_succ _⟩
  | tts body => simp only [serve]; split <;> exact ⟨rfl, le_rfl, Nat.le_succ _⟩
  | speech body =>
      simp only [serve]
      split
      · exact ⟨rfl, le_rfl, Nat.le_succ _⟩
      · split <;> simp

end Service

end Speech
end InferenceService
