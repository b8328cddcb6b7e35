/-
# JSON values

What `JSON.parse` returns. An object is the list of its properties in their order, each
name once. A number may be infinite, since a literal beyond the range of doubles reads as
an infinite number; an infinite number is written as `null` again.

Texts are whatever the engine takes them to be. Strings are strings of characters: a lone
surrogate has no place in them.
-/

import Bitboard.Lib.KeyedRows
import Bitboard.Wallet.Payload

namespace Bitboard.Wallet

open Lib

inductive JsonValue where
  | null
  | boolean (value : Bool)
  | number (value : JsNumber)
  | string (value : String)
  | array (items : List JsonValue)
  | object (properties : List (String × JsonValue))

namespace JsonValue

/-- The properties that are looked up by name. An array has only its indices and `length`,
which nothing looks up. -/
def properties : JsonValue → List (String × JsonValue)
  | .object properties => properties
  | _ => []

/-- A property of the value, or none where JavaScript reads `undefined`. -/
def get? (value : JsonValue) (name : String) : Option JsonValue :=
  (getRow Prod.fst name value.properties).map Prod.snd

def string? : JsonValue → Option String
  | .string value => some value
  | _ => none

def isString : JsonValue → Bool
  | .string _ => true
  | _ => false

def isBoolean : JsonValue → Bool
  | .boolean _ => true
  | _ => false

def isNumber : JsonValue → Bool
  | .number _ => true
  | _ => false

/-- `isPlainObject`: an object that is no array. -/
def isPlainObject : JsonValue → Bool
  | .object _ => true
  | _ => false

/-- `isRecord`: `typeof value === 'object'` and not `null`, which an array is too. -/
def isRecord : JsonValue → Bool
  | .object _ => true
  | .array _ => true
  | _ => false

/-- The copy `{ ...value }`; of an array it has the indices as names. -/
def spread : JsonValue → List (String × JsonValue)
  | .object properties => properties
  | .array items => items.zipIdx.map fun item => (toString item.2, item.1)
  | _ => []

end JsonValue

def deleteProperty (name : String) (record : List (String × JsonValue)) :
    List (String × JsonValue) :=
  record.filter fun property => property.1 ≠ name

/-- `record[name] = value`: in its place, or after the other properties. -/
def setProperty (name : String) (value : JsonValue) (record : List (String × JsonValue)) :
    List (String × JsonValue) :=
  putRow Prod.fst (name, value) record

/-- A property name that is an array index, which an engine puts before the other names. -/
def arrayIndex? (name : String) : Option Nat :=
  match name.toNat? with
  | none => none
  | some index => if toString index = name ∧ index < 4294967295 then some index else none

/-- The name has a character that is no digit, as every name has that the code looks up. -/
def hasNonDigit (name : String) : Bool := name.toList.any fun c => !c.isDigit

theorem toString_ne_of_hasNonDigit {name : String} (hname : hasNonDigit name = true)
    (index : Nat) : toString index ≠ name := by
  intro heq
  rw [hasNonDigit, List.any_eq_true] at hname
  obtain ⟨c, hc, hdigit⟩ := hname
  rw [← heq, show toString index = Nat.repr index from rfl, Nat.toList_repr] at hc
  rw [Nat.isDigit_of_mem_toDigits (by decide) (by decide) hc] at hdigit
  cases hdigit

theorem arrayIndex?_of_hasNonDigit {name : String} (hname : hasNonDigit name = true) :
    arrayIndex? name = none := by
  unfold arrayIndex?
  split
  · rfl
  · rw [if_neg]
    intro hindex
    exact toString_ne_of_hasNonDigit hname _ hindex.1

section Lookups

variable {name other : String} {value : JsonValue} {record : List (String × JsonValue)}

theorem get?_setProperty_self :
    (JsonValue.object (setProperty name value record)).get? name = some value := by
  have hrow : getRow Prod.fst (name, value).1 (putRow Prod.fst (name, value) record) =
      some (name, value) := getRow_putRow_self
  rw [JsonValue.get?, JsonValue.properties, setProperty, hrow]
  rfl

theorem get?_setProperty_of_ne (hne : other ≠ name) :
    (JsonValue.object (setProperty name value record)).get? other =
      (JsonValue.object record).get? other := by
  have hrow : getRow Prod.fst other (putRow Prod.fst (name, value) record) =
      getRow Prod.fst other record := getRow_putRow_of_ne hne
  rw [JsonValue.get?, JsonValue.properties, setProperty, hrow]
  rfl

theorem get?_deleteProperty_self :
    (JsonValue.object (deleteProperty name record)).get? name = none := by
  simp [JsonValue.get?, JsonValue.properties, deleteProperty, getRow]

theorem get?_deleteProperty_of_ne (hne : other ≠ name) :
    (JsonValue.object (deleteProperty name record)).get? other =
      (JsonValue.object record).get? other := by
  rw [JsonValue.get?, JsonValue.get?, JsonValue.properties, JsonValue.properties, deleteProperty,
    getRow_filter_of_ne hne]

theorem mem_of_get? (hget : (JsonValue.object record).get? name = some value) :
    (name, value) ∈ record := by
  rw [JsonValue.get?, Option.map_eq_some_iff] at hget
  obtain ⟨property, hproperty, hvalue⟩ := hget
  have hname : property.1 = name := key_of_getRow hproperty
  have hmem : property ∈ record := List.mem_of_find?_eq_some hproperty
  rwa [← hname, ← hvalue]

theorem get?_eq_none_iff :
    (JsonValue.object record).get? name = none ↔ name ∉ record.map Prod.fst := by
  rw [JsonValue.get?, Option.map_eq_none_iff]
  exact getRow_eq_none_iff

theorem deleteProperty_of_get?_eq_none (hnone : (JsonValue.object record).get? name = none) :
    deleteProperty name record = record := by
  rw [get?_eq_none_iff] at hnone
  rw [deleteProperty, List.filter_eq_self]
  intro property hproperty
  rw [decide_eq_true_eq]
  intro hname
  exact hnone (hname ▸ List.mem_map_of_mem hproperty)

theorem setProperty_of_get?_eq_none (hnone : (JsonValue.object record).get? name = none) :
    setProperty name value record = record ++ [(name, value)] :=
  putRow_of_notMem (get?_eq_none_iff.mp hnone)

theorem setProperty_of_get?_eq_some (hget : (JsonValue.object record).get? name = some value) :
    setProperty name value record = record := by
  rw [JsonValue.get?, Option.map_eq_some_iff] at hget
  obtain ⟨property, hproperty, hvalue⟩ := hget
  have hname : property.1 = name := key_of_getRow hproperty
  have heq : property = (name, value) := by rw [← hname, ← hvalue]
  rw [setProperty, ← heq]
  apply putRow_of_getRow
  rwa [hname]

theorem get?_spread (source : JsonValue) (hname : hasNonDigit name = true) :
    (JsonValue.object source.spread).get? name = source.get? name := by
  cases source with
  | object | null | boolean | number | string => rfl
  | array items =>
    rw [show (JsonValue.array items).get? name = none from rfl, get?_eq_none_iff]
    intro hmem
    simp only [JsonValue.spread, List.map_map, List.mem_map, Function.comp_apply] at hmem
    obtain ⟨item, -, hindex⟩ := hmem
    exact toString_ne_of_hasNonDigit hname _ hindex

end Lookups

/-- All numbers, and all lists of names of an object, are as given. -/
inductive JsonValue.Everywhere (number : JsNumber → Prop) (names : List String → Prop) :
    JsonValue → Prop where
  | null : Everywhere number names .null
  | boolean (value : Bool) : Everywhere number names (.boolean value)
  | number (value : JsNumber) (hvalue : number value) : Everywhere number names (.number value)
  | string (value : String) : Everywhere number names (.string value)
  | array (items : List JsonValue) (hitems : ∀ item ∈ items, Everywhere number names item) :
      Everywhere number names (.array items)
  | object (properties : List (String × JsonValue)) (hnames : names (properties.map Prod.fst))
      (hproperties : ∀ property ∈ properties, Everywhere number names property.2) :
      Everywhere number names (.object properties)

/-- One property name stands before another: indices in their order, then the other names. -/
def NameBefore (first second : String) : Prop :=
  match arrayIndex? first, arrayIndex? second with
  | some index, some next => index < next
  | some _, none => True
  | none, some _ => False
  | none, none => first ≠ second

/-- The names of an object in the order in which an engine lists them, each once. -/
def NamesInOrder (names : List String) : Prop := names.Pairwise NameBefore

def JsonValue.Finite (value : JsonValue) : Prop :=
  value.Everywhere (fun number => ∃ q, number = .finite q) fun _ => True

/-- The value is one that an engine holds: its finite numbers are doubles, and the names of its
objects are in order. -/
def JsonValue.WellFormed (isDouble : ℚ → Prop) (value : JsonValue) : Prop :=
  value.Everywhere (fun number => (∃ q, number = .finite q ∧ isDouble q) ∨
    ∃ negative, number = .infinite negative) NamesInOrder

/-- `JSON.parse` and `JSON.stringify`, and the rational numbers that are doubles. -/
structure JsonEngine (Text : Type) where
  parse : Text → Option JsonValue
  stringify : JsonValue → Text
  isDouble : ℚ → Prop

/-- What the language says of the two functions: what is read is well formed, a value without
infinite numbers is read as it was written, and what was written has no infinite number. -/
structure JsonEngine.Lawful {Text : Type} (engine : JsonEngine Text) : Prop where
  reads : ∀ text value, engine.parse text = some value → value.WellFormed engine.isDouble
  rereads : ∀ value : JsonValue, value.WellFormed engine.isDouble → value.Finite →
    engine.parse (engine.stringify value) = some value
  writesFinite : ∀ value read, engine.parse (engine.stringify value) = some read → read.Finite

/-- A condition on the names of an object that deleting and appending properties keep. -/
structure NamesClosed (names : List String → Prop) : Prop where
  sublist : ∀ first second : List String, first.Sublist second → names second → names first
  append : ∀ (first : List String) (name : String), names first → name ∉ first →
    arrayIndex? name = none → names (first ++ [name])
  nil : names []

theorem namesClosed_true : NamesClosed fun _ => True where
  sublist := fun _ _ _ _ => trivial
  append := fun _ _ _ _ _ => trivial
  nil := trivial

theorem namesClosed_inOrder : NamesClosed NamesInOrder where
  sublist := by
    intro first second hsub horder
    exact horder.sublist hsub
  append := by
    intro first name horder hnew hindex
    apply List.pairwise_append.mpr
    refine ⟨horder, List.pairwise_singleton _ _, ?_⟩
    intro before hbefore last hlast
    rw [List.mem_singleton.mp hlast]
    have hne : before ≠ name := by
      intro heq
      exact hnew (heq ▸ hbefore)
    unfold NameBefore
    rw [hindex]
    cases hbeforeIndex : arrayIndex? before with
    | none => exact hne
    | some index => trivial
  nil := List.Pairwise.nil

theorem namesInOrder_of_nodup {names : List String} (hnames : names.all hasNonDigit = true)
    (hnodup : names.Nodup) : NamesInOrder names := by
  rw [List.all_eq_true] at hnames
  apply hnodup.imp_of_mem
  intro first second hfirst hsecond hne
  rw [NameBefore, arrayIndex?_of_hasNonDigit (hnames first hfirst),
    arrayIndex?_of_hasNonDigit (hnames second hsecond)]
  exact hne

section Everywhere

variable {number : JsNumber → Prop} {names : List String → Prop} {name : String}
  {value : JsonValue} {record : List (String × JsonValue)}

theorem everywhere_properties (hrecord : (JsonValue.object record).Everywhere number names) :
    names (record.map Prod.fst) ∧ ∀ property ∈ record, property.2.Everywhere number names := by
  cases hrecord with
  | object properties hnames hproperties => exact ⟨hnames, hproperties⟩

theorem everywhere_items {items : List JsonValue}
    (hitems : (JsonValue.array items).Everywhere number names) :
    ∀ item ∈ items, item.Everywhere number names := by
  cases hitems with
  | array items hitems => exact hitems

theorem everywhere_get? (hvalue : value.Everywhere number names) {found : JsonValue}
    (hget : value.get? name = some found) : found.Everywhere number names := by
  cases value with
  | object record => exact (everywhere_properties hvalue).2 _ (mem_of_get? hget)
  | null | boolean | number | string | array => cases hget

theorem everywhere_deleteProperty (hclosed : NamesClosed names)
    (hrecord : (JsonValue.object record).Everywhere number names) :
    (JsonValue.object (deleteProperty name record)).Everywhere number names := by
  have hparts := everywhere_properties hrecord
  apply JsonValue.Everywhere.object
  · exact hclosed.sublist _ _ (List.filter_sublist.map _) hparts.1
  · intro property hproperty
    exact hparts.2 property (List.mem_of_mem_filter hproperty)

theorem everywhere_setProperty (hclosed : NamesClosed names)
    (hrecord : (JsonValue.object record).Everywhere number names)
    (hname : hasNonDigit name = true) (hvalue : value.Everywhere number names) :
    (JsonValue.object (setProperty name value record)).Everywhere number names := by
  have hparts := everywhere_properties hrecord
  apply JsonValue.Everywhere.object
  · by_cases hold : name ∈ record.map Prod.fst
    · have hnames : (putRow Prod.fst (name, value) record).map Prod.fst = record.map Prod.fst :=
        map_putRow_of_mem hold
      rw [setProperty, hnames]
      exact hparts.1
    · rw [setProperty_of_get?_eq_none (get?_eq_none_iff.mpr hold), List.map_append]
      exact hclosed.append _ name hparts.1 hold (arrayIndex?_of_hasNonDigit hname)
  · intro property hproperty
    cases mem_putRow hproperty with
    | inl heq =>
      rw [heq]
      exact hvalue
    | inr hold => exact hparts.2 property hold

end Everywhere

section Finite

variable {isDouble : ℚ → Prop} {record : List (String × JsonValue)} {value : JsonValue}
  {name : String}

theorem nodup_of_wellFormed (hrecord : (JsonValue.object record).WellFormed isDouble) :
    (record.map Prod.fst).Nodup := by
  apply (everywhere_properties hrecord).1.imp
  intro first second hbefore heq
  rw [heq, NameBefore] at hbefore
  cases hindex : arrayIndex? second with
  | none =>
    rw [hindex] at hbefore
    exact hbefore rfl
  | some index =>
    rw [hindex] at hbefore
    exact absurd hbefore (Nat.lt_irrefl index)

theorem mem_iff_get? (hnodup : (record.map Prod.fst).Nodup) :
    (name, value) ∈ record ↔ (JsonValue.object record).get? name = some value := by
  constructor
  · intro hmem
    have hrow : getRow Prod.fst name record = some (name, value) := getRow_of_mem hnodup hmem
    rw [JsonValue.get?, JsonValue.properties, hrow]
    rfl
  · exact mem_of_get?

theorem finite_object_iff (hnodup : (record.map Prod.fst).Nodup) :
    (JsonValue.object record).Finite ↔
      ∀ name value, (JsonValue.object record).get? name = some value → value.Finite := by
  constructor
  · intro hrecord name value hget
    exact everywhere_get? hrecord hget
  · intro hvalues
    apply JsonValue.Everywhere.object _ trivial
    intro property hproperty
    exact hvalues property.1 property.2 ((mem_iff_get? hnodup).mp hproperty)

theorem finite_array_iff {items : List JsonValue} :
    (JsonValue.array items).Finite ↔ ∀ item ∈ items, item.Finite :=
  ⟨everywhere_items, JsonValue.Everywhere.array items⟩

theorem finite_of_isString (hvalue : value.isString = true) : value.Finite := by
  cases value with
  | string s => exact JsonValue.Everywhere.string s
  | _ => cases hvalue

end Finite

end Bitboard.Wallet
