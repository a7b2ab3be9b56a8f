import SwaggerClient.Entries
import SwaggerClient.Number.Double

namespace SwaggerClient

/-- A number of a document: an integer of 64 bits, or a floating-point number. -/
inductive Number where
  | integer (n : Int)
  | real (x : Double)
deriving DecidableEq, Repr

/-- A JSON value. A key may have two entries in an object until the value is settled. -/
inductive Json where
  | null
  | bool (value : Bool)
  | number (value : Number)
  | string (value : String)
  | array (items : List Json)
  | object (entries : List (String × Json))
deriving Repr, Inhabited

namespace Json

mutual

def decEq (a b : Json) : Decidable (a = b) :=
  match a with
  | .null =>
    match b with
    | .null => .isTrue rfl
    | .bool _ | .number _ | .string _ | .array _ | .object _ => .isFalse nofun
  | .bool x =>
    match b with
    | .bool y => decidable_of_iff (x = y) ⟨congrArg bool, bool.inj⟩
    | .null | .number _ | .string _ | .array _ | .object _ => .isFalse nofun
  | .number x =>
    match b with
    | .number y => decidable_of_iff (x = y) ⟨congrArg number, number.inj⟩
    | .null | .bool _ | .string _ | .array _ | .object _ => .isFalse nofun
  | .string x =>
    match b with
    | .string y => decidable_of_iff (x = y) ⟨congrArg string, string.inj⟩
    | .null | .bool _ | .number _ | .array _ | .object _ => .isFalse nofun
  | .array xs =>
    match b with
    | .array ys =>
      match decEqItems xs ys with
      | .isTrue h => .isTrue (congrArg array h)
      | .isFalse h => .isFalse fun e => h (array.inj e)
    | .null | .bool _ | .number _ | .string _ | .object _ => .isFalse nofun
  | .object xs =>
    match b with
    | .object ys =>
      match decEqEntries xs ys with
      | .isTrue h => .isTrue (congrArg object h)
      | .isFalse h => .isFalse fun e => h (object.inj e)
    | .null | .bool _ | .number _ | .string _ | .array _ => .isFalse nofun
termination_by structural a

def decEqItems : (xs ys : List Json) → Decidable (xs = ys)
  | [], [] => .isTrue rfl
  | [], _ :: _ => .isFalse nofun
  | _ :: _, [] => .isFalse nofun
  | x :: xs, y :: ys =>
    match decEq x y, decEqItems xs ys with
    | .isTrue h, .isTrue h' => .isTrue (by rw [h, h'])
    | .isFalse h, _ => .isFalse fun e => h (List.cons.inj e).1
    | _, .isFalse h => .isFalse fun e => h (List.cons.inj e).2
termination_by structural xs => xs

def decEqEntries : (xs ys : List (String × Json)) → Decidable (xs = ys)
  | [], [] => .isTrue rfl
  | [], _ :: _ => .isFalse nofun
  | _ :: _, [] => .isFalse nofun
  | (key, x) :: xs, (key', y) :: ys =>
    if hkey : key = key' then
      match decEq x y, decEqEntries xs ys with
      | .isTrue h, .isTrue h' => .isTrue (by rw [hkey, h, h'])
      | .isFalse h, _ => .isFalse fun e => h (Prod.mk.inj (List.cons.inj e).1).2
      | _, .isFalse h => .isFalse fun e => h (List.cons.inj e).2
    else .isFalse fun e => hkey (Prod.mk.inj (List.cons.inj e).1).1
termination_by structural xs => xs

end

instance : DecidableEq Json := decEq

mutual

/-- Gives each key one entry, at the first place and with the last value that it has. -/
def settle : Json → Json
  | .array items => .array (settleItems items)
  | .object entries => .object (settleEntries [] entries)
  | .null => .null
  | .bool value => .bool value
  | .number value => .number value
  | .string value => .string value
termination_by structural j => j

def settleItems : List Json → List Json
  | [] => []
  | j :: rest => settle j :: settleItems rest
termination_by structural items => items

def settleEntries (done : List (String × Json)) : List (String × Json) → List (String × Json)
  | [] => done
  | (key, value) :: rest => settleEntries (Entries.set key (settle value) done) rest
termination_by structural entries => entries

end

mutual

/-- How many texts stand in a value, keys apart. -/
def stringCount : Json → Nat
  | .array items => stringCountItems items
  | .object entries => stringCountEntries entries
  | .string _ => 1
  | .null => 0
  | .bool _ => 0
  | .number _ => 0
termination_by structural j => j

def stringCountItems : List Json → Nat
  | [] => 0
  | j :: rest => stringCount j + stringCountItems rest
termination_by structural items => items

def stringCountEntries : List (String × Json) → Nat
  | [] => 0
  | (_, value) :: rest => stringCount value + stringCountEntries rest
termination_by structural entries => entries

end

mutual

/-- How many values a value consists of, itself included. -/
def size : Json → Nat
  | .array items => 1 + sizeItems items
  | .object entries => 1 + sizeEntries entries
  | .string _ => 1
  | .null => 1
  | .bool _ => 1
  | .number _ => 1
termination_by structural j => j

def sizeItems : List Json → Nat
  | [] => 0
  | j :: rest => size j + sizeItems rest
termination_by structural items => items

def sizeEntries : List (String × Json) → Nat
  | [] => 0
  | (_, value) :: rest => size value + sizeEntries rest
termination_by structural entries => entries

end

/-- One entry, or none when the value is absent. -/
def entry? (key : String) (value : Option Json) : List (String × Json) :=
  match value with
  | some json => [(key, json)]
  | none => []

def ofTexts (texts : List String) : Json :=
  .array (texts.map .string)

end Json

end SwaggerClient
