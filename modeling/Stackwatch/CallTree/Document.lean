import Stackwatch.CallTree.Basic
import Stackwatch.Json.Value

/-!
# Call trees as JSON

A node is an object of six fields, the last of which holds its children in the order of their keys.
-/

namespace Stackwatch.CallTree

mutual

/-- The JSON value of a tree. -/
def toJson : CallTree → Json
  | .node frame measurement samples children =>
      .object
        [("method_name", .string frame.function),
          ("file_name", .string frame.file),
          ("file_line", .integer frame.line),
          ("measurement", .ofFloat measurement),
          ("num_samples", .integer samples),
          ("children", .array (childrenJson children))]

def childrenJson : List CallTree → List Json
  | [] => []
  | child :: rest => toJson child :: childrenJson rest

end

end Stackwatch.CallTree
