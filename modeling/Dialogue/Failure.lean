import Dialogue.Json.Printer
/-!
# Failures

A failure is the reason for which the other side, not the script, ends a run: an exception or a
console call that the policy raises, an error response, or a response that a step rejects.  A
failure is written as an object with the tag `kind` and the fields of its variant, and it is read
back from that object, whose other members do not matter, or from the array of tag and fields.
-/

namespace Dialogue

/-- The reason of a failed run. -/
inductive Failure where
  | exceptionThrown (description : String)
  /-- A console function, by its type, and the arguments it was called with. -/
  | consoleCalled (type : String) (args : Json)
  | response (error : Json)
  | custom (reason : Json)

namespace Failure

def text : Failure → String
  | .exceptionThrown description => s!"Unhandled exception in JS runtime: {description}"
  | .consoleCalled type args => s!"console.{type}() called with {args.compact}"
  | .response error => s!"Error response: {error.compact}"
  | .custom reason => reason.compact

/-- The tag of a failure. -/
def kind : Failure → String
  | .exceptionThrown _ => "exception_thrown"
  | .consoleCalled _ _ => "console_api_called"
  | .response _ => "response"
  | .custom _ => "custom"

/-- The names and values of a failure's fields in order. -/
def fields : Failure → List (String × Json)
  | .exceptionThrown description => [("description", .str description)]
  | .consoleCalled type args => [("type", .str type), ("args", args)]
  | .response error => [("error", error)]
  | .custom reason => [("reason", reason)]

def toJson (failure : Failure) : Json :=
  .object (("kind", .str failure.kind) :: failure.fields)

/-- The names of the fields that follow a tag. -/
def fieldNames : String → List String
  | "exception_thrown" => ["description"]
  | "console_api_called" => ["type", "args"]
  | "response" => ["error"]
  | "custom" => ["reason"]
  | _ => []

/-- The failure with this tag and these fields in order. -/
def ofFields? : String → List Json → Option Failure
  | "exception_thrown", [.str description] => some (.exceptionThrown description)
  | "console_api_called", [.str type, args] => some (.consoleCalled type args)
  | "response", [error] => some (.response error)
  | "custom", [reason] => some (.custom reason)
  | _, _ => none

def ofJson? : Json → Option Failure
  | .obj members =>
      match members.get? "kind" with
      | some (.str kind) => ((fieldNames kind).mapM members.get?).bind (ofFields? kind)
      | _ => none
  | .arr (.str kind :: fields) => ofFields? kind fields
  | _ => none

end Failure

end Dialogue
