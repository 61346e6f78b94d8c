import Stackwatch.Decimal.Double

/-!
# JSON values

Profiles leave the process as JSON, and the queue holds JSON values of any origin. The fields of an
object keep the order in which they were written; `Json.sorted` puts them into the order of their
keys, in which all queued values are.
-/

namespace Stackwatch

inductive Json where
  | null
  | bool (value : Bool)
  | integer (value : Int)
  | real (value : Float)
  | string (text : String)
  | array (items : List Json)
  | object (fields : List (String × Json))
  deriving Inhabited

namespace Json

/-- Adds a field at the place of its key; a field with the same key is replaced. -/
def insertField (key : String) (value : Json) : List (String × Json) → List (String × Json)
  | [] => [(key, value)]
  | (other, present) :: rest =>
      if key < other then
        (key, value) :: (other, present) :: rest
      else if key = other then
        (key, value) :: rest
      else
        (other, present) :: insertField key value rest

def sortFields (fields : List (String × Json)) : List (String × Json) :=
  fields.foldl (fun sorted (key, value) => insertField key value sorted) []

mutual

/-- The same value with all fields in the order of their keys; of two fields with one key the later
    one stays. -/
def sorted : Json → Json
  | .array items => .array (sortedItems items)
  | .object fields => .object (sortFields (sortedFields fields))
  | value => value

def sortedItems : List Json → List Json
  | [] => []
  | item :: rest => item.sorted :: sortedItems rest

def sortedFields : List (String × Json) → List (String × Json)
  | [] => []
  | (key, value) :: rest => (key, value.sorted) :: sortedFields rest

end

/-- A number, or null for what JSON has no number for. -/
def ofFloat (value : Float) : Json :=
  match Decimal.Double.ofFloat value with
  | .finite .. => .real value
  | _ => .null

/-- The value of the first field with this key. -/
def field? (key : String) : Json → Option Json
  | .object fields => fields.lookup key
  | _ => none

end Json

end Stackwatch
