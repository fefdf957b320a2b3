import OroEdge.Lib.FloatCasts
import Mathlib.Algebra.Order.Field.Rat
import Mathlib.Tactic.Common

/-!
# JSON values

Parsed JSON, as nlohmann's library holds it: integers and floating-point numbers
are different values, and an object maps keys to values, listed in the order of
the keys.  Floating-point numbers are exact rationals.  Parsed strings are valid
UTF-8; a program can put other bytes into a string (`notUtf8`), which nothing reads
but `dump`, and there it throws.

The readers return `none` where the library throws: for a key of a value that is
not an object, and for a value of another type than the one asked for.

Programs read messages key by key, with defaults, and build answers by assignments in a row. 
For reading there are the readers with their exceptions, and the lookups along paths.  An
assignment can throw as well: it makes an object of `null`, and throws for every other value
that is no object.

What assignments do is therefore said by one relation that composes (`Updated`): keys that are
not assigned keep their values, and a value that can be dumped can still be dumped if the new
fields can.  `exists_setAll?` says when a row of assignments succeeds, and `get?_of_setAll?`
what is then read back.  For objects that are built from nothing (`ofFields`), both directions
are given: a key has the value that it was given last, and a value that is found was given to
its key.
-/

namespace OroEdge.Lib

/-- A value of `nlohmann::json`. -/
inductive Json
  | null
  | bool (b : Bool)
  | int (n : ℤ)
  | float (q : ℚ)
  | str (s : String)
  | arr (items : List Json)
  | obj (fields : List (String × Json))
  | notUtf8
  deriving Repr

namespace Json

/-- The value of a key; `none` for a missing key and for a value that is not an
object. -/
def get? : Json → String → Option Json
  | .obj fields, key => fields.lookup key
  | _, _ => none

def contains (j : Json) (key : String) : Bool := (j.get? key).isSome

/-- The value at the end of a path of keys. -/
def at? : Json → List String → Option Json
  | j, [] => some j
  | j, key :: path => (j.get? key).bind fun inner => inner.at? path

/-- `get<std::string>()`. -/
def asString : Json → Option String
  | .str s => some s
  | _ => none

/-- `get<int>()`, which converts every arithmetic type. -/
def asInt32 (casts : FloatCasts) : Json → Option ℤ
  | .int n => some (wrap32 n)
  | .float q => some (casts.toInt32 q)
  | .bool b => some (if b then 1 else 0)
  | _ => none

/-- `get<uint8_t>()`, which converts every arithmetic type. -/
def asUint8 (casts : FloatCasts) : Json → Option ℤ
  | .int n => some (n % 256)
  | .float q => some (casts.toUint8 q)
  | .bool b => some (if b then 1 else 0)
  | _ => none

/-- `get<int64_t>()`, which converts the two types of numbers. -/
def asInt64 (casts : FloatCasts) : Json → Option ℤ
  | .int n => some (wrap64 n)
  | .float q => some (casts.toInt64 q)
  | _ => none

/-- `get<double>()`, which converts the two types of numbers. -/
def asDouble : Json → Option ℚ
  | .int n => some n
  | .float q => some q
  | _ => none

/-! Assignments `j[key] = …`: null becomes an object, and only objects have keys. -/

/-- The fields of an object after an assignment, in the order of the keys. -/
def setField (key : String) (inner : Json) : List (String × Json) → List (String × Json)
  | [] => [(key, inner)]
  | field :: rest =>
      if key = field.1 then (key, inner) :: rest
      else if key < field.1 then (key, inner) :: field :: rest
      else field :: setField key inner rest

/-- `j[key] = inner`, which makes an object of `null` and throws for every other value. -/
def set? : Json → String → Json → Option Json
  | .null, key, inner => some (.obj [(key, inner)])
  | .obj fields, key, inner => some (.obj (setField key inner fields))
  | _, _, _ => none

/-- An assignment to a key that is missing. -/
def setMissing? (j : Json) (key : String) (inner : Json) : Option Json :=
  if j.contains key then some j else j.set? key inner

/-- Assignments in a row. -/
def setAll? : Json → List (String × Json) → Option Json
  | j, [] => some j
  | j, update :: updates => (j.set? update.1 update.2).bind fun j => j.setAll? updates

/-- The values with keys that can be assigned. -/
def settable : Json → Bool
  | .null => true
  | .obj _ => true
  | _ => false

/-! `dump()` throws on a string that is not UTF-8. -/

mutual

/-- `dump()` throws if a text in it is not valid UTF-8. -/
def dumps : Json → Bool
  | .arr items => dumpsItems items
  | .obj fields => dumpsFields fields
  | .notUtf8 => false
  | _ => true

def dumpsItems : List Json → Bool
  | [] => true
  | item :: rest => item.dumps && dumpsItems rest

def dumpsFields : List (String × Json) → Bool
  | [] => true
  | field :: rest => field.2.dumps && dumpsFields rest

end

def isObject : Json → Bool
  | .obj _ => true
  | _ => false

/-- `value(key, fallback)`: the fallback is for a missing key only. -/
def value {α : Type} (read : Json → Option α) (j : Json) (key : String) (fallback : α) : Option α :=
  if j.isObject then
    match j.get? key with
    | some inner => read inner
    | none => some fallback
  else
    none

/-- `value` of a JSON pointer.  A token that cannot be resolved gives the fallback,
except one that would have to index an array. -/
def valueAt {α : Type} (read : Json → Option α) (j : Json) (path : List String) (fallback : α) :
    Option α :=
  if j.isObject then resolve j path else none
where
  resolve : Json → List String → Option α
    | j, [] => read j
    | .arr _, _ :: _ => none
    | j, key :: path =>
        match j.get? key with
        | some inner => resolve inner path
        | none => some fallback

/-- What a range-based `for` goes through: a value that is no container is its own
only element. -/
def elements : Json → List Json
  | .null => []
  | .arr items => items
  | .obj fields => fields.map Prod.snd
  | j => [j]

/-- SQL's `j ? key` of a `jsonb` value. -/
def hasKey : Json → String → Bool
  | .obj fields, key => (fields.lookup key).isSome
  | .arr items, key => items.any fun item => item.asString = some key
  | .str s, key => s = key
  | _, _ => false

/-! ### Assignments -/

theorem settable_of_isObject {j : Json} (hobject : j.isObject = true) : j.settable = true := by
  cases j with
  | obj fields => rfl
  | _ => cases hobject

theorem isObject_of_contains {j : Json} {key : String} (hcontains : j.contains key = true) :
    j.isObject = true := by
  cases j with
  | obj fields => rfl
  | _ => cases hcontains

theorem isObject_of_value {α : Type} {read : Json → Option α} {j : Json} {key : String}
    {fallback found : α} (hvalue : j.value read key fallback = some found) :
    j.isObject = true := by
  by_contra hnot
  rw [value, if_neg hnot] at hvalue
  cases hvalue

theorem lookup_setField_self (key : String) (inner : Json) (fields : List (String × Json)) :
    (setField key inner fields).lookup key = some inner := by
  induction fields with
  | nil => simp [setField]
  | cons field rest ih =>
      rw [setField]
      split_ifs with hsame hbefore
      · simp
      · simp
      · rw [List.lookup_cons, beq_false_of_ne hsame]
        exact ih

theorem lookup_setField_of_ne {key other : String} (hne : other ≠ key) (inner : Json)
    (fields : List (String × Json)) :
    (setField key inner fields).lookup other = fields.lookup other := by
  induction fields with
  | nil => simp [setField, hne]
  | cons field rest ih =>
      rw [setField]
      split_ifs with hsame hbefore
      · rw [List.lookup_cons, List.lookup_cons, ← hsame, beq_false_of_ne hne]
      · rw [List.lookup_cons, beq_false_of_ne hne]
      · rw [List.lookup_cons, List.lookup_cons, ih]

theorem dumpsFields_setField {key : String} {inner : Json} (hinner : inner.dumps = true)
    {fields : List (String × Json)} (hfields : dumpsFields fields = true) :
    dumpsFields (setField key inner fields) = true := by
  induction fields with
  | nil => simp [setField, dumpsFields, hinner]
  | cons field rest ih =>
      rw [dumpsFields, Bool.and_eq_true] at hfields
      rw [setField]
      split_ifs with hsame hbefore
      · rw [dumpsFields, hinner, hfields.2]
        rfl
      · rw [dumpsFields, dumpsFields, hinner, hfields.1, hfields.2]
        rfl
      · rw [dumpsFields, hfields.1, ih hfields.2]
        rfl

/-- A value with a field that cannot be dumped cannot be dumped. -/
theorem dumps_of_get? {j inner : Json} {key : String} (hget : j.get? key = some inner)
    (hdumps : j.dumps = true) : inner.dumps = true := by
  cases j with
  | obj fields =>
      rw [get?] at hget
      rw [dumps] at hdumps
      induction fields with
      | nil => cases hget
      | cons field rest ih =>
          rw [dumpsFields, Bool.and_eq_true] at hdumps
          rw [List.lookup_cons] at hget
          split at hget
          · cases hget
            exact hdumps.1
          · exact ih hget hdumps.2
  | _ => cases hget

/-- What assignments do: other keys keep their values, and the value can be dumped if it
could, and the new fields can. -/
structure Updated (j : Json) (updates : List (String × Json)) (j' : Json) : Prop where
  isObject : j.isObject = true → j'.isObject = true
  other : ∀ key, key ∉ updates.map Prod.fst → j'.get? key = j.get? key
  dumps : j.dumps = true → (∀ update ∈ updates, update.2.dumps = true) → j'.dumps = true

theorem Updated.refl (j : Json) : Updated j [] j := ⟨id, fun _ _ => rfl, fun hdumps _ => hdumps⟩

theorem Updated.trans {j mid j' : Json} {updates updates' : List (String × Json)}
    (hfirst : Updated j updates mid) (hsecond : Updated mid updates' j') :
    Updated j (updates ++ updates') j' := by
  refine ⟨fun hobject => hsecond.isObject (hfirst.isObject hobject), fun key hkey => ?_,
    fun hdumps hall => ?_⟩
  · rw [List.map_append, List.mem_append, not_or] at hkey
    rw [hsecond.other key hkey.2, hfirst.other key hkey.1]
  · exact hsecond.dumps (hfirst.dumps hdumps fun u hu => hall u (List.mem_append_left _ hu))
      fun u hu => hall u (List.mem_append_right _ hu)

/-- What one assignment does. -/
structure Assigned (j : Json) (key : String) (inner j' : Json) : Prop
    extends Updated j [(key, inner)] j' where
  object : j'.isObject = true
  self : j'.get? key = some inner

theorem exists_set? {j : Json} (hsettable : j.settable = true) (key : String) (inner : Json) :
    ∃ j', j.set? key inner = some j' ∧ Assigned j key inner j' := by
  cases j with
  | null =>
      refine ⟨_, rfl, ⟨fun _ => rfl, fun key' hne => ?_, fun _ hinner => ?_⟩, rfl, ?_⟩
      · simp_all [get?]
      · simp_all [Json.dumps, dumpsFields]
      · simp [get?]
  | obj fields =>
      refine ⟨_, rfl, ⟨fun _ => rfl, fun key' hne => ?_, fun hdumps hinner => ?_⟩, rfl,
        lookup_setField_self key inner fields⟩
      · exact lookup_setField_of_ne (by simpa using hne) inner fields
      · rw [Json.dumps] at hdumps ⊢
        exact dumpsFields_setField (hinner _ (List.mem_singleton_self _)) hdumps
  | _ => cases hsettable

theorem settable_of_set? {j j' inner : Json} {key : String} (hset : j.set? key inner = some j') :
    j.settable = true := by
  cases j with
  | null => rfl
  | obj fields => rfl
  | _ => cases hset

theorem assigned_of_set? {j j' inner : Json} {key : String} (hset : j.set? key inner = some j') :
    Assigned j key inner j' := by
  obtain ⟨j'', hset', hassigned⟩ := exists_set? (settable_of_set? hset) key inner
  rw [hset] at hset'
  cases hset'
  exact hassigned

theorem updated_of_setMissing? {j j' inner : Json} {key : String}
    (hset : j.setMissing? key inner = some j') : Updated j [(key, inner)] j' := by
  unfold setMissing? at hset
  split_ifs at hset with hcontains
  · cases hset
    exact ⟨id, fun _ _ => rfl, fun hdumps _ => hdumps⟩
  · exact (assigned_of_set? hset).toUpdated

/-- A missing key gets the new value. -/
theorem get?_setMissing? {j j' inner : Json} {key : String}
    (hset : j.setMissing? key inner = some j') : j'.get? key = some ((j.get? key).getD inner) := by
  unfold setMissing? contains at hset
  cases hget : j.get? key with
  | none =>
      rw [hget] at hset
      exact (assigned_of_set? hset).self
  | some found =>
      rw [hget] at hset
      cases hset
      exact hget

theorem updated_of_setAll? {j j' : Json} {updates : List (String × Json)}
    (hset : j.setAll? updates = some j') : Updated j updates j' := by
  induction updates generalizing j with
  | nil =>
      cases hset
      exact Updated.refl _
  | cons update updates ih =>
      obtain ⟨mid, hmid, hrest⟩ := Option.bind_eq_some_iff.mp hset
      exact (assigned_of_set? hmid).toUpdated.trans (ih hrest)

/-- A key that is assigned once keeps the value. -/
theorem get?_of_setAll? {j j' : Json} {updates : List (String × Json)}
    (hset : j.setAll? updates = some j') (hnodup : (updates.map Prod.fst).Nodup) {key : String}
    {inner : Json} (hmem : (key, inner) ∈ updates) : j'.get? key = some inner := by
  induction updates generalizing j with
  | nil => cases hmem
  | cons update updates ih =>
      obtain ⟨mid, hmid, hrest⟩ := Option.bind_eq_some_iff.mp hset
      rw [List.map_cons, List.nodup_cons] at hnodup
      rcases List.mem_cons.mp hmem with rfl | hmem
      · rw [(updated_of_setAll? hrest).other _ hnodup.1]
        exact (assigned_of_set? hmid).self
      · exact ih hrest hnodup.2 hmem

theorem exists_setAll? {j : Json} (hsettable : j.settable = true) (updates : List (String × Json)) :
    ∃ j', j.setAll? updates = some j' := by
  induction updates generalizing j with
  | nil => exact ⟨_, rfl⟩
  | cons update updates ih =>
      obtain ⟨mid, hmid, hassigned⟩ := exists_set? hsettable update.1 update.2
      obtain ⟨j', hj'⟩ := ih (settable_of_isObject hassigned.object)
      exact ⟨j', Option.bind_eq_some_iff.mpr ⟨mid, hmid, hj'⟩⟩

/-- The first of the assignments makes an object of null. -/
theorem isObject_of_setAll? {j j' : Json} {update : String × Json} {updates : List (String × Json)}
    (hset : j.setAll? (update :: updates) = some j') :
    j.settable = true ∧ j'.isObject = true := by
  obtain ⟨mid, hmid, hrest⟩ := Option.bind_eq_some_iff.mp hset
  exact ⟨settable_of_set? hmid,
    (updated_of_setAll? hrest).isObject (assigned_of_set? hmid).object⟩

/-! ### Objects that are built field by field -/

/-- The fields of an object after assignments in a row. -/
def setFields : List (String × Json) → List (String × Json) → List (String × Json)
  | fields, [] => fields
  | fields, update :: updates => setFields (setField update.1 update.2 fields) updates

/-- The object that is built from nothing. -/
def ofFields (updates : List (String × Json)) : Json := .obj (setFields [] updates)

theorem lookup_setFields_of_notMem {key : String} {updates : List (String × Json)}
    (hkey : key ∉ updates.map Prod.fst) (fields : List (String × Json)) :
    (setFields fields updates).lookup key = fields.lookup key := by
  induction updates generalizing fields with
  | nil => rfl
  | cons update updates ih =>
      rw [List.map_cons, List.mem_cons, not_or] at hkey
      rw [setFields, ih hkey.2, lookup_setField_of_ne hkey.1]

/-- A key has the value that it has been given. -/
theorem get?_ofFields_of_mem {updates : List (String × Json)}
    (hnodup : (updates.map Prod.fst).Nodup) {key : String} {inner : Json}
    (hmem : (key, inner) ∈ updates) : (ofFields updates).get? key = some inner := by
  suffices hlookup : ∀ fields, (setFields fields updates).lookup key = some inner from hlookup []
  induction updates with
  | nil => cases hmem
  | cons update updates ih =>
      intro fields
      rw [List.map_cons, List.nodup_cons] at hnodup
      rcases List.mem_cons.mp hmem with rfl | hmem
      · rw [setFields, lookup_setFields_of_notMem hnodup.1, lookup_setField_self]
      · exact ih hnodup.2 hmem _

theorem get?_ofFields_of_notMem {updates : List (String × Json)} {key : String}
    (hkey : key ∉ updates.map Prod.fst) : (ofFields updates).get? key = none :=
  lookup_setFields_of_notMem hkey []

theorem mem_of_lookup_setField {key other : String} {inner value : Json}
    {fields : List (String × Json)}
    (hlookup : (setField key inner fields).lookup other = some value) :
    (other = key ∧ value = inner) ∨ fields.lookup other = some value := by
  by_cases heq : other = key
  · subst heq
    rw [lookup_setField_self] at hlookup
    exact Or.inl ⟨rfl, (Option.some.inj hlookup).symm⟩
  · rw [lookup_setField_of_ne heq] at hlookup
    exact Or.inr hlookup

/-- A value has been given to its key. -/
theorem mem_of_get?_ofFields {updates : List (String × Json)} {field : String × Json}
    (hget : (ofFields updates).get? field.1 = some field.2) : field ∈ updates := by
  suffices hlookup : ∀ fields, (setFields fields updates).lookup field.1 = some field.2 →
      field ∈ updates ∨ fields.lookup field.1 = some field.2 from
    (hlookup [] hget).resolve_right (by simp)
  clear hget
  induction updates with
  | nil => exact fun fields hlookup => Or.inr hlookup
  | cons update updates ih =>
      intro fields hlookup
      rcases ih _ hlookup with hmem | hlookup
      · exact Or.inl (List.mem_cons_of_mem update hmem)
      · rcases mem_of_lookup_setField hlookup with ⟨hkey, hvalue⟩ | hlookup
        · exact Or.inl (List.mem_cons.mpr (Or.inl (Prod.ext hkey hvalue)))
        · exact Or.inr hlookup

/-! ### Objects that can be dumped -/

/-- An object that can be dumped. -/
structure Record (j : Json) : Prop where
  isObject : j.isObject = true
  dumps : j.dumps = true

namespace Record

variable {j : Json} (hj : j.Record)
include hj

theorem settable : j.settable = true := settable_of_isObject hj.isObject

theorem updated {j' : Json} {updates : List (String × Json)} (hupdated : Updated j updates j')
    (hall : ∀ update ∈ updates, update.2.dumps = true) : j'.Record :=
  ⟨hupdated.isObject hj.isObject, hupdated.dumps hj.dumps hall⟩

theorem exists_set? (key : String) (inner : Json) (hinner : inner.dumps = true) :
    ∃ j', j.set? key inner = some j' ∧ j'.Record ∧ Assigned j key inner j' := by
  obtain ⟨j', hset, hassigned⟩ := Json.exists_set? hj.settable key inner
  exact ⟨j', hset, hj.updated hassigned.toUpdated (by simpa using hinner), hassigned⟩

theorem exists_setMissing? (key : String) (inner : Json) (hinner : inner.dumps = true) :
    ∃ j', j.setMissing? key inner = some j' ∧ j'.Record := by
  by_cases hcontains : j.contains key = true
  · exact ⟨j, if_pos hcontains, hj⟩
  · obtain ⟨j', hset, hrecord, -⟩ := hj.exists_set? key inner hinner
    exact ⟨j', (if_neg hcontains).trans hset, hrecord⟩

theorem exists_setAll? (updates : List (String × Json))
    (hall : ∀ update ∈ updates, update.2.dumps = true) :
    ∃ j', j.setAll? updates = some j' ∧ j'.Record := by
  obtain ⟨j', hset⟩ := Json.exists_setAll? hj.settable updates
  exact ⟨j', hset, hj.updated (updated_of_setAll? hset) hall⟩

end Record

end Json

end OroEdge.Lib
