import Mathlib.Data.List.Infix

namespace InferenceService
namespace ConfigPatch

/-!
# Python values loaded from a JSON file

`scripts/fix_qwen3_omni_config.py` reads `config.json` with `json.load` and works on the
Python value it gets: a dictionary, a list, a string, a number, a boolean or `None`.  The
patcher applies only three operations to such a value, each with a string key: `key in
value`, `value[key]` and `value[key] = item`.  What they do depends on the value's type.
`in` is key lookup on a dictionary, element membership on a list and substring search on a
string, and raises `TypeError` on anything else; item access and item assignment with a
string key succeed only on a dictionary.

A dictionary is an association list in insertion order, the order in which `json.dump`
writes it.  A dictionary read by `json.load` never repeats a key.  The operations here are
total on every association list and act on the first entry for a key, so no result below
needs that as a hypothesis.
-/

/-- A value `json.load` can return.  Floats are kept as their IEEE bit pattern: the patcher
never looks inside a number. -/
inductive PyJson where
  | none
  | bool (value : Bool)
  | int (value : Int)
  | float (bits : UInt64)
  | str (value : String)
  | list (items : List PyJson)
  | dict (fields : List (String × PyJson))

/-- The Python operation that raised: `key in value`, `value[key]` or
`value[key] = item`. -/
inductive Operation where
  | contains
  | getItem
  | setItem
  deriving DecidableEq, Repr

/-- The exceptions the three operations raise.  A `TypeError` names the operation and the
type of the value it was applied to. -/
inductive PyError where
  | typeError (operation : Operation) (typeName : String)
  | keyError (key : String)
  deriving DecidableEq, Repr

namespace PyJson

/-- The type names Python prints in its error messages. -/
def typeName : PyJson -> String
  | .none => "NoneType"
  | .bool _ => "bool"
  | .int _ => "int"
  | .float _ => "float"
  | .str _ => "str"
  | .list _ => "list"
  | .dict _ => "dict"

/-- `item == key` for a string `key`: only a string with the same characters is equal. -/
def eqStr (key : String) : PyJson -> Bool
  | .str s => s == key
  | _ => false

end PyJson

/-- Python's `needle in hay` on two strings. -/
def strContains (needle hay : String) : Bool :=
  decide (needle.data <:+: hay.data)

/-! ## Dictionary entries -/

/-- `d[key] = value` on the entries of a dictionary: the value of an existing key is
replaced in place, and a new key goes to the end. -/
def setField (key : String) (value : PyJson) :
    List (String × PyJson) -> List (String × PyJson)
  | [] => [(key, value)]
  | (k, v) :: rest => if key = k then (k, value) :: rest else (k, v) :: setField key value rest

/-- Apply `g` to the value stored at `key`, leaving the entries unchanged when there is
none. -/
def modifyField (key : String) (g : PyJson -> PyJson) :
    List (String × PyJson) -> List (String × PyJson)
  | [] => []
  | (k, v) :: rest => if key = k then (k, g v) :: rest else (k, v) :: modifyField key g rest

/-- The entries with `key: value` added at the end when `key` is missing. -/
def addMissing (key : String) (value : PyJson) (fields : List (String × PyJson)) :
    List (String × PyJson) :=
  if (fields.lookup key).isSome then fields else fields ++ [(key, value)]

section Fields

variable (key : String) (fields : List (String × PyJson))

theorem lookup_cons_of_ne {key k : String} {v : PyJson} {rest : List (String × PyJson)}
    (different : key ≠ k) : ((k, v) :: rest).lookup key = rest.lookup key := by
  simp [List.lookup_cons, beq_false_of_ne different]

theorem setField_of_lookup_none (value : PyJson) (missing : fields.lookup key = none) :
    setField key value fields = fields ++ [(key, value)] := by
  induction fields with
  | nil => rfl
  | cons entry rest ih =>
      obtain ⟨k, v⟩ := entry
      by_cases same : key = k
      · subst same; simp at missing
      · rw [lookup_cons_of_ne same] at missing
        simp [setField, same, ih missing]

theorem setField_of_lookup_some (g : PyJson -> PyJson) {old : PyJson}
    (found : fields.lookup key = some old) :
    setField key (g old) fields = modifyField key g fields := by
  induction fields with
  | nil => cases found
  | cons entry rest ih =>
      obtain ⟨k, v⟩ := entry
      by_cases same : key = k
      · subst same; simp at found; simp [setField, modifyField, found]
      · rw [lookup_cons_of_ne same] at found
        simp [setField, modifyField, same, ih found]

theorem modifyField_of_lookup_none (g : PyJson -> PyJson) (missing : fields.lookup key = none) :
    modifyField key g fields = fields := by
  induction fields with
  | nil => rfl
  | cons entry rest ih =>
      obtain ⟨k, v⟩ := entry
      by_cases same : key = k
      · subst same; simp at missing
      · rw [lookup_cons_of_ne same] at missing
        simp [modifyField, same, ih missing]

@[simp] theorem lookup_setField_self (value : PyJson) :
    (setField key value fields).lookup key = some value := by
  induction fields with
  | nil => simp [setField]
  | cons entry rest ih =>
      obtain ⟨k, v⟩ := entry
      by_cases same : key = k
      · subst same; simp [setField]
      · simp [setField, same, lookup_cons_of_ne same, ih]

@[simp] theorem setField_setField_self (value : PyJson) :
    setField key value (setField key value fields) = setField key value fields := by
  induction fields with
  | nil => simp [setField]
  | cons entry rest ih =>
      obtain ⟨k, v⟩ := entry
      by_cases same : key = k <;> simp [setField, same, ih]

end Fields

/-! ## The three operations -/

namespace PyJson

/-- Python's `key in value`. -/
def contains (key : String) : PyJson -> Except PyError Bool
  | .dict fields => .ok (fields.lookup key).isSome
  | .list items => .ok (items.any (eqStr key))
  | .str s => .ok (strContains key s)
  | value => .error (.typeError .contains value.typeName)

/-- Python's `value[key]`. -/
def getItem (key : String) : PyJson -> Except PyError PyJson
  | .dict fields =>
      match fields.lookup key with
      | some item => .ok item
      | Option.none => .error (.keyError key)
  | value => .error (.typeError .getItem value.typeName)

/-- Python's `value[key] = item`; the dictionary it changes in place is returned. -/
def setItem : PyJson -> String -> PyJson -> Except PyError PyJson
  | .dict fields, key, item => .ok (.dict (setField key item fields))
  | value, _, _ => .error (.typeError .setItem value.typeName)

/-- The value at the end of a path of dictionary keys changed by `f`; unchanged when the
path leaves the dictionaries or names a missing key. -/
def modifyAt : List String -> (PyJson -> PyJson) -> PyJson -> PyJson
  | [], f, value => f value
  | key :: path, f, .dict fields => .dict (modifyField key (modifyAt path f) fields)
  | _ :: _, _, value => value

@[simp] theorem contains_dict (key : String) (fields : List (String × PyJson)) :
    (dict fields).contains key = .ok (fields.lookup key).isSome := rfl

@[simp] theorem getItem_dict_of_lookup {key : String} {fields : List (String × PyJson)}
    {item : PyJson} (found : fields.lookup key = some item) :
    (dict fields).getItem key = .ok item := by
  simp [getItem, found]

@[simp] theorem setItem_dict (key : String) (item : PyJson) (fields : List (String × PyJson)) :
    (dict fields).setItem key item = .ok (dict (setField key item fields)) := rfl

end PyJson

@[simp] theorem except_pure {ε α : Type} (a : α) : (pure a : Except ε α) = .ok a := rfl

@[simp] theorem except_ok_bind {ε α β : Type} (a : α) (f : α -> Except ε β) :
    (Except.ok a >>= f) = f a := rfl

@[simp] theorem except_error_bind {ε α β : Type} (e : ε) (f : α -> Except ε β) :
    (Except.error e >>= f) = Except.error e := rfl

end ConfigPatch
end InferenceService
