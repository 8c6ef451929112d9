import InferenceService.ConfigPatch.PyJson
import InferenceService.ConfigPatch.FixConfig
import InferenceService.Omni.Requests
import InferenceService.Omni.Loader
import InferenceService.Omni.Handlers
import InferenceService.Omni.System
import InferenceService.Omni.LoadState
import InferenceService.Omni.Lifecycle
import InferenceService.Omni.Progress
import InferenceService.Omni.Reentry
import InferenceService.Omni.Observation
import InferenceService.Omni.Settled
import InferenceService.Omni.Adapter
import InferenceService.Speech.Request
import InferenceService.Speech.Fallback
import InferenceService.Speech.Service
