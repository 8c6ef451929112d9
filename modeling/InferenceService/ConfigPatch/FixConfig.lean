import InferenceService.ConfigPatch.PyJson

namespace InferenceService
namespace ConfigPatch

/-!
# The configuration patcher

`fix_config` (`scripts/fix_qwen3_omni_config.py`, lines 13-49) loads `config.json`, adds
`use_sliding_window: false` and `sliding_window: 72` to
`config['talker_config']['code_predictor_config']` where they are missing, moves the
original file to `config.json.backup` unless a backup is already there, and writes the
patched value back with `json.dump`.

The two nested `if key in ...: ... = ...[key]` blocks are one pattern, `patchItem`, and the
two `if key not in ...: ...[key] = default` blocks are another, `setDefault`.  Each layer is
then characterised by two predicates: `PatchesAs` (it returns the described value or raises
a `TypeError` on a non-dictionary it meets on its key path) and `Settled` (what it returns,
it returns again).  Both are proved once per pattern and composed along the key path.  A run
on a value whose every dictionary on the path is a dictionary cannot raise.

A file is represented by the value `json.load` reads from it.  `json.dump` writes a text
that `json.load` reads back as the same value, so a second run sees exactly what the first
one wrote.
-/

/-! ## The script -/

/-- Lines 29-31 and 34-36: `if key not in value: value[key] = default`. -/
def setDefault (key : String) (default value : PyJson) : Except PyError PyJson := do
  if ← value.contains key then pure value else value.setItem key default

/-- Lines 28-36, applied to `code_pred_config`. -/
def fixCodePredictorConfig (codePredConfig : PyJson) : Except PyError PyJson :=
  setDefault "use_sliding_window" (.bool false) codePredConfig >>=
    setDefault "sliding_window" (.int 72)

/-- `if key in value: item = value[key]`, then a change `inner` makes to `item` in place.
`item` is the object stored in `value`, so the change is `value[key]` being the changed
item. -/
def patchItem (key : String) (inner : PyJson -> Except PyError PyJson) (value : PyJson) :
    Except PyError PyJson := do
  if ← value.contains key then
    let item ← value.getItem key
    value.setItem key (← inner item)
  else pure value

/-- Lines 24-36, applied to `talker_config`. -/
def fixTalkerConfig : PyJson -> Except PyError PyJson :=
  patchItem "code_predictor_config" fixCodePredictorConfig

/-- Lines 20-36, applied to the loaded `config`. -/
def fixLoadedConfig : PyJson -> Except PyError PyJson :=
  patchItem "talker_config" fixTalkerConfig

/-- What a file holds as far as the script can tell: text that `json.load` reads as a
value, or text it rejects: text that is not JSON, nesting deep enough for a
`RecursionError`, or an integer too long for `int`. -/
inductive FileContent where
  | json (value : PyJson)
  | malformed (text : String)

/-- The two paths the script touches: `config_path` and `config_path + '.backup'`.  A
missing file is `none`. -/
structure Files where
  config : Option FileContent
  backup : Option FileContent

/-- How a run of the script can stop early: `open(config_path, 'r')` on a missing file,
`json.load` on text it rejects (with `JSONDecodeError`, `RecursionError` or `ValueError`,
which the script does not tell apart), or one of the three operations on the loaded value. -/
inductive ScriptError where
  | fileNotFound
  | loadError
  | python (error : PyError)

/-- The end of one run: the files as the script leaves them, and the exception it stops
with, if any. -/
structure ScriptRun where
  files : Files
  raised : Option ScriptError

/-- Lines 38-42: rename the original file to the backup path unless that path exists. -/
def backupConfig (files : Files) : Files :=
  if files.backup.isSome then files else { config := none, backup := files.config }

/-- Lines 44-47: `json.dump(config, f, indent=2)` into a fresh `config_path`. -/
def writeConfig (config : PyJson) (files : Files) : Files :=
  { files with config := some (.json config) }

/-- `fix_config()`.  Everything before the backup works on the loaded value only, so a run
that raises leaves both files as it found them. -/
def fixConfig (files : Files) : ScriptRun :=
  match files.config with
  | none => ⟨files, some .fileNotFound⟩
  | some (.malformed _) => ⟨files, some .loadError⟩
  | some (.json config) =>
      match fixLoadedConfig config with
      | .error e => ⟨files, some (.python e)⟩
      | .ok fixed => ⟨writeConfig fixed (backupConfig files), none⟩

/-! ## The described result -/

/-- The entries with `key: value` added when `key` is missing; other values are left
alone. -/
def addDefault (key : String) (default : PyJson) : PyJson -> PyJson
  | .dict fields => .dict (addMissing key default fields)
  | value => value

/-- The two keys the patcher adds, each only where it is missing. -/
def addSlidingWindowDefaults (value : PyJson) : PyJson :=
  addDefault "sliding_window" (.int 72) (addDefault "use_sliding_window" (.bool false) value)

/-- `v` with `use_sliding_window: false` and `sliding_window: 72` added to
`v['talker_config']['code_predictor_config']` when that is an object lacking them, and `v`
itself when the path does not lead to an object. -/
def withSlidingWindowDefaults (v : PyJson) : PyJson :=
  v.modifyAt ["talker_config", "code_predictor_config"] addSlidingWindowDefaults

namespace PyJson

/-- The values the script meets walking `path` into a value: the value itself, then, while
it is a dictionary holding the next key, the item stored there. -/
def valuesAlong : List String -> PyJson -> List PyJson
  | [], value => [value]
  | key :: path, .dict fields => .dict fields :: ((fields.lookup key).map (valuesAlong path)).getD []
  | _ :: _, value => [value]

/-- Every value the script meets on `path` is a dictionary. -/
def DictsAlong (path : List String) (value : PyJson) : Prop :=
  ∀ met ∈ value.valuesAlong path, ∃ fields, met = .dict fields

theorem self_mem_valuesAlong (path : List String) (value : PyJson) :
    value ∈ value.valuesAlong path := by
  cases path <;> cases value <;> simp [valuesAlong]

theorem valuesAlong_dict_of_lookup {key : String} (path : List String)
    {fields : List (String × PyJson)} {item : PyJson} (found : fields.lookup key = some item) :
    (dict fields).valuesAlong (key :: path) = dict fields :: item.valuesAlong path := by
  simp [valuesAlong, found]

end PyJson

/-- A `TypeError` of `in`, item access or item assignment on `value`, which is not a
dictionary. -/
def PyError.OnNonDict (value : PyJson) (e : PyError) : Prop :=
  (∀ fields, value ≠ .dict fields) ∧ ∃ operation, e = .typeError operation value.typeName

/-- `code` returns the value `spec` describes, or raises a `TypeError` on a non-dictionary
it meets on `path`. -/
def PatchesAs (path : List String) (code : PyJson -> Except PyError PyJson)
    (spec : PyJson -> PyJson) : Prop :=
  ∀ value, code value = .ok (spec value) ∨
    ∃ e, code value = .error e ∧ ∃ met ∈ value.valuesAlong path, e.OnNonDict met

/-- Whatever `code` returns, it returns unchanged when applied to it again. -/
def Settled (code : PyJson -> Except PyError PyJson) : Prop :=
  forall value fixed, code value = .ok fixed -> code fixed = .ok fixed

/-- Where every value on the path is a dictionary, nothing raises. -/
theorem PatchesAs.ok_of_dictsAlong {path : List String} {code : PyJson -> Except PyError PyJson}
    {spec : PyJson -> PyJson} (patches : PatchesAs path code spec) {value : PyJson}
    (dicts : value.DictsAlong path) : code value = .ok (spec value) :=
  (patches value).resolve_right fun ⟨_, _, met, member, notDict, _⟩ =>
    let ⟨fields, same⟩ := dicts met member
    notDict fields same

/-! ## Values that are not dictionaries -/

section NotDict

variable {value : PyJson} (notDict : forall fields, value ≠ .dict fields) (key : String)
include notDict

theorem getItem_of_notDict : value.getItem key = .error (.typeError .getItem value.typeName) := by
  cases value <;> simp_all [PyJson.getItem]

theorem setItem_of_notDict (item : PyJson) :
    value.setItem key item = .error (.typeError .setItem value.typeName) := by
  cases value <;> simp_all [PyJson.setItem]

theorem contains_of_notDict :
    (∃ present, value.contains key = .ok present) ∨
      value.contains key = .error (.typeError .contains value.typeName) := by
  cases value <;> simp_all [PyJson.contains]

theorem setDefault_of_notDict (default : PyJson) :
    setDefault key default value = .ok value ∨
      ∃ e, setDefault key default value = .error e ∧ e.OnNonDict value := by
  rcases contains_of_notDict notDict key with ⟨present, member⟩ | raised
  · cases present
    · exact .inr ⟨.typeError .setItem value.typeName,
        by simp [setDefault, member, setItem_of_notDict notDict], notDict, _, rfl⟩
    · exact .inl (by simp [setDefault, member])
  · exact .inr ⟨.typeError .contains value.typeName, by simp [setDefault, raised], notDict, _, rfl⟩

theorem patchItem_of_notDict (inner : PyJson -> Except PyError PyJson) :
    patchItem key inner value = .ok value ∨
      ∃ e, patchItem key inner value = .error e ∧ e.OnNonDict value := by
  rcases contains_of_notDict notDict key with ⟨present, member⟩ | raised
  · cases present
    · exact .inl (by simp [patchItem, member])
    · exact .inr ⟨.typeError .getItem value.typeName,
        by simp [patchItem, member, getItem_of_notDict notDict], notDict, _, rfl⟩
  · exact .inr ⟨.typeError .contains value.typeName, by simp [patchItem, raised], notDict, _, rfl⟩

end NotDict

theorem modifyAt_cons_of_notDict {value : PyJson} (notDict : forall fields, value ≠ .dict fields)
    (key : String) (path : List String) (f : PyJson -> PyJson) :
    value.modifyAt (key :: path) f = value := by
  cases value <;> simp_all [PyJson.modifyAt]

/-! ## One `if key not in value` block -/

theorem setDefault_dict (key : String) (default : PyJson) (fields : List (String × PyJson)) :
    setDefault key default (.dict fields) = .ok (.dict (addMissing key default fields)) := by
  cases found : fields.lookup key with
  | none => simp [setDefault, addMissing, found, setField_of_lookup_none key fields default found]
  | some item => simp [setDefault, addMissing, found]

theorem addDefault_of_notDict (key : String) (default : PyJson) {value : PyJson}
    (notDict : forall fields, value ≠ .dict fields) : addDefault key default value = value := by
  cases value <;> simp_all [addDefault]

theorem setDefault_patchesAs (key : String) (default : PyJson) :
    PatchesAs [] (setDefault key default) (addDefault key default) := by
  intro value
  by_cases isDict : ∃ fields, value = .dict fields
  · obtain ⟨fields, rfl⟩ := isDict
    exact .inl (setDefault_dict key default fields)
  · have notDict : forall fields, value ≠ .dict fields := fun fields same => isDict ⟨fields, same⟩
    rcases setDefault_of_notDict notDict key default with ok | ⟨e, raised, onNonDict⟩
    · exact .inl (by rw [ok, addDefault_of_notDict key default notDict])
    · exact .inr ⟨e, raised, value, List.mem_singleton_self _, onNonDict⟩

/-- Lines 29-36 describe the two added keys, or raise on `code_pred_config` itself. -/
theorem fixCodePredictorConfig_patchesAs :
    PatchesAs [] fixCodePredictorConfig addSlidingWindowDefaults := by
  intro value
  rcases setDefault_patchesAs "use_sliding_window" (.bool false) value with
    first | ⟨e, raised, origin⟩
  · rcases setDefault_patchesAs "sliding_window" (.int 72) (addDefault "use_sliding_window"
      (.bool false) value) with second | ⟨e, raised', met, member, onNonDict⟩
    · exact .inl (by simp [fixCodePredictorConfig, first, second, addSlidingWindowDefaults])
    · rw [List.mem_singleton.mp member] at onNonDict
      have notDict : forall fields, value ≠ .dict fields := fun fields same =>
        onNonDict.1 _ (by rw [same]; rfl)
      rw [addDefault_of_notDict _ _ notDict] at onNonDict
      exact .inr ⟨e, by simp [fixCodePredictorConfig, first, raised'], value,
        List.mem_singleton_self _, onNonDict⟩
  · exact .inr ⟨e, by simp [fixCodePredictorConfig, raised], origin⟩

theorem lookup_isSome_addMissing (key other : String) (default : PyJson)
    (fields : List (String × PyJson)) (present : (fields.lookup other).isSome ∨ other = key) :
    ((addMissing key default fields).lookup other).isSome := by
  by_cases found : (fields.lookup key).isSome
  · rcases present with present | rfl <;> simp_all [addMissing]
  · rcases present with present | rfl
    · simp_all [addMissing, List.lookup_append]
    · simp_all [addMissing, List.lookup_append]

theorem addMissing_of_isSome {key : String} {default : PyJson} {fields : List (String × PyJson)}
    (present : (fields.lookup key).isSome) : addMissing key default fields = fields := by
  simp [addMissing, present]

theorem fixCodePredictorConfig_settled : Settled fixCodePredictorConfig := by
  intro value fixed done
  by_cases isDict : ∃ fields, value = .dict fields
  · obtain ⟨fields, rfl⟩ := isDict
    simp only [fixCodePredictorConfig, setDefault_dict, except_ok_bind, Except.ok.injEq] at done
    subst done
    have first := lookup_isSome_addMissing "sliding_window" "use_sliding_window" (.int 72) _
      (.inl (lookup_isSome_addMissing "use_sliding_window" _ (.bool false) fields (.inr rfl)))
    have second := lookup_isSome_addMissing "sliding_window" "sliding_window" (.int 72)
      (addMissing "use_sliding_window" (.bool false) fields) (.inr rfl)
    simp only [fixCodePredictorConfig, setDefault_dict, except_ok_bind,
      addMissing_of_isSome first, addMissing_of_isSome second]
  · have notDict : forall fields, value ≠ .dict fields := fun fields same => isDict ⟨fields, same⟩
    have unchanged : addSlidingWindowDefaults value = value := by
      cases value <;> simp_all [addSlidingWindowDefaults, addDefault]
    rcases fixCodePredictorConfig_patchesAs value with ok | ⟨e, raised, -⟩
    · rw [ok, unchanged] at done
      cases done
      rwa [unchanged] at ok
    · rw [raised] at done; cases done

/-! ## One `if key in value` block -/

theorem patchItem_patchesAs (key : String) {inner : PyJson -> Except PyError PyJson}
    {path : List String} {f : PyJson -> PyJson}
    (patches : PatchesAs path inner (PyJson.modifyAt path f)) :
    PatchesAs (key :: path) (patchItem key inner) (PyJson.modifyAt (key :: path) f) := by
  intro value
  by_cases isDict : ∃ fields, value = .dict fields
  · obtain ⟨fields, rfl⟩ := isDict
    cases found : fields.lookup key with
    | none =>
        exact .inl (by simp [patchItem, found, PyJson.modifyAt,
          modifyField_of_lookup_none key fields _ found])
    | some item =>
        rcases patches item with done | ⟨e, raised, met, member, onNonDict⟩
        · exact .inl (by simp [patchItem, found, done, PyJson.modifyAt,
            setField_of_lookup_some key fields _ found])
        · refine .inr ⟨e, by simp [patchItem, found, raised], met, ?_, onNonDict⟩
          rw [PyJson.valuesAlong_dict_of_lookup path found]
          exact List.mem_cons_of_mem _ member
  · have notDict : forall fields, value ≠ .dict fields := fun fields same => isDict ⟨fields, same⟩
    rcases patchItem_of_notDict notDict key inner with ok | ⟨e, raised, onNonDict⟩
    · exact .inl (by rw [ok, modifyAt_cons_of_notDict notDict])
    · exact .inr ⟨e, raised, value, PyJson.self_mem_valuesAlong _ value, onNonDict⟩

theorem patchItem_settled (key : String) {inner : PyJson -> Except PyError PyJson}
    (settled : Settled inner) : Settled (patchItem key inner) := by
  intro value fixed done
  by_cases isDict : ∃ fields, value = .dict fields
  · obtain ⟨fields, rfl⟩ := isDict
    cases found : fields.lookup key with
    | none =>
        simp only [patchItem, PyJson.contains_dict, found, Option.isSome_none, except_ok_bind,
          Bool.false_eq_true, if_false, except_pure, Except.ok.injEq] at done
        subst done
        simp [patchItem, found]
    | some item =>
        cases changed : inner item with
        | error e => simp [patchItem, found, changed] at done
        | ok item' =>
            simp [patchItem, found, changed] at done
            subst done
            simp [patchItem, settled item item' changed]
  · have notDict : forall fields, value ≠ .dict fields := fun fields same => isDict ⟨fields, same⟩
    rcases patchItem_of_notDict notDict key inner with ok | ⟨e, raised, -⟩
    · rw [ok] at done
      cases done
      exact ok
    · rw [raised] at done; cases done

/-! ## The whole run -/

theorem fixLoadedConfig_patchesAs :
    PatchesAs ["talker_config", "code_predictor_config"] fixLoadedConfig withSlidingWindowDefaults :=
  patchItem_patchesAs _ (patchItem_patchesAs _ fixCodePredictorConfig_patchesAs)

theorem fixLoadedConfig_settled : Settled fixLoadedConfig :=
  patchItem_settled _ (patchItem_settled _ fixCodePredictorConfig_settled)

/-- A run that raises leaves both files as it found them, and no run replaces a backup that
exists. -/
theorem fixConfig_files (files : Files) :
    ((fixConfig files).raised ≠ none -> (fixConfig files).files = files) ∧
      (files.backup.isSome -> (fixConfig files).files.backup = files.backup) := by
  obtain ⟨config, backup⟩ := files
  cases config with
  | none => simp [fixConfig]
  | some content =>
      cases content with
      | malformed _ => simp [fixConfig]
      | json v => cases patched : fixLoadedConfig v <;> simp_all [fixConfig, backupConfig, writeConfig]

/-- A run on a JSON configuration `v` either raises a `TypeError` of `in`, item access or
item assignment on a non-dictionary it meets on the key path, `v` itself,
`v['talker_config']` or `v['talker_config']['code_predictor_config']`, before touching either
file, or leaves `config_path` holding `v` with the two keys added where the path leads to an
object lacking them, and the backup holding `v` unless one existed.  It cannot raise when
every value on the path is a dictionary.  A second run after a successful one leaves both
files as they are. -/
theorem fixConfig_run (v : PyJson) (backup : Option FileContent) :
    let run := fixConfig ⟨some (.json v), backup⟩
    ((∃ e, run.raised = some (.python e) ∧
        (∃ met ∈ v.valuesAlong ["talker_config", "code_predictor_config"], e.OnNonDict met) ∧
        run.files = ⟨some (.json v), backup⟩) ∨
      (run.raised = none ∧
        run.files = ⟨some (.json (withSlidingWindowDefaults v)), some (backup.getD (.json v))⟩)) ∧
    (v.DictsAlong ["talker_config", "code_predictor_config"] -> run.raised = none) ∧
    (run.raised = none -> fixConfig run.files = ⟨run.files, none⟩) := by
  rcases fixLoadedConfig_patchesAs v with done | ⟨e, raised, origin⟩
  · have again := fixLoadedConfig_settled _ _ done
    cases backup <;> simp [fixConfig, done, again, backupConfig, writeConfig]
  · refine ⟨.inl ⟨e, by simp [fixConfig, raised], origin, by simp [fixConfig, raised]⟩,
      fun dicts => ?_, fun ok => by simp [fixConfig, raised] at ok⟩
    simpa [raised] using fixLoadedConfig_patchesAs.ok_of_dictsAlong dicts

/-- The part of the Qwen3-Omni `config.json` the patcher reads, before the fix. -/
def qwen3OmniConfig : PyJson :=
  .dict [("talker_config", .dict [("code_predictor_config",
    .dict [("hidden_size", .int 1024), ("num_hidden_layers", .int 5)])])]

/-- On that configuration with no backup, the run reaches both insertions, and a second run
leaves the files as the first left them. -/
theorem fixConfig_run_qwen3Omni :
    qwen3OmniConfig.DictsAlong ["talker_config", "code_predictor_config"] ∧
    (fixConfig ⟨some (.json qwen3OmniConfig), none⟩).raised = none ∧
    withSlidingWindowDefaults qwen3OmniConfig =
      .dict [("talker_config", .dict [("code_predictor_config",
        .dict [("hidden_size", .int 1024), ("num_hidden_layers", .int 5),
          ("use_sliding_window", .bool false), ("sliding_window", .int 72)])])] ∧
    fixConfig (fixConfig ⟨some (.json qwen3OmniConfig), none⟩).files =
      ⟨(fixConfig ⟨some (.json qwen3OmniConfig), none⟩).files, none⟩ :=
  have dicts : qwen3OmniConfig.DictsAlong ["talker_config", "code_predictor_config"] := by
    simp [PyJson.DictsAlong, PyJson.valuesAlong, qwen3OmniConfig]
  have run := fixConfig_run qwen3OmniConfig none
  ⟨dicts, run.2.1 dicts, rfl, run.2.2 (run.2.1 dicts)⟩

end ConfigPatch
end InferenceService
