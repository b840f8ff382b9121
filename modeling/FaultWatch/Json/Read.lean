import FaultWatch.Json

/-! Reading typed values out of JSON. A record is an object, whose unknown members are ignored, or
the array of its fields in order; a member that is left out reads as absent. A choice is its bare
name, or an object with the name as its only member. Numbers must be in range, nothing is converted.
Where all fields may be left out, the array may stop early. -/
namespace FaultWatch.Json

def boolean? : Json → Option Bool
  | bool b => some b
  | _ => none

def text? : Json → Option String
  | string s => some s
  | _ => none

def numberBetween? (low high : Int) : Json → Option Int
  | number n => if low ≤ n ∧ n < high then some n else none
  | _ => none

def uint8? (j : Json) : Option UInt8 :=
  (j.numberBetween? 0 UInt8.size).map fun n => UInt8.ofNat n.toNat

def uint16? (j : Json) : Option UInt16 :=
  (j.numberBetween? 0 UInt16.size).map fun n => UInt16.ofNat n.toNat

def uint32? (j : Json) : Option UInt32 :=
  (j.numberBetween? 0 UInt32.size).map fun n => UInt32.ofNat n.toNat

def uint64? (j : Json) : Option UInt64 :=
  (j.numberBetween? 0 UInt64.size).map fun n => UInt64.ofNat n.toNat

def int32? (j : Json) : Option Int32 :=
  (j.numberBetween? (-0x80000000) 0x80000000).map Int32.ofInt

def int64? (j : Json) : Option Int64 :=
  (j.numberBetween? (-0x8000000000000000) 0x8000000000000000).map Int64.ofInt

def members? (names : List String) : Json → Option (List (Option Json))
  | object members => some (names.map fun name => List.lookup name members)
  | _ => none

def fields? (names : List String) : Json → Option (List (Option Json))
  | array items => if items.length = names.length then some (items.map some) else none
  | j => j.members? names

def optionalFields? (names : List String) : Json → Option (List (Option Json))
  | array items =>
    if items.length ≤ names.length then
      some (items.map some ++ List.replicate (names.length - items.length) none)
    else none
  | j => j.members? names

def required (read : Json → Option α) (field : Option Json) : Option α := field.bind read

def optional (read : Json → Option α) : Option Json → Option (Option α)
  | none => some none
  | some null => some none
  | some j => (read j).map some

def withDefault (value : α) (read : Json → Option α) : Option Json → Option α
  | none => some value
  | some j => read j

def choice? : Json → Option (String × Option Json)
  | string name => some (name, none)
  | object [(name, body)] => some (name, some body)
  | _ => none

def bareChoice? (j : Json) : Option String :=
  match j.choice? with
  | some (name, none) => some name
  | some (name, some null) => some name
  | _ => none

def named? (values : List α) (name : α → String) (j : Json) : Option α := do
  let word ← j.bareChoice?
  values.find? fun value => name value == word

def ofOption (write : α → Json) : Option α → Json
  | none => null
  | some value => write value

end FaultWatch.Json
