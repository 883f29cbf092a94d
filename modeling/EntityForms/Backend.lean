import EntityForms.Json
import EntityForms.Text.Integer

/-!
# The backend

A backend answers requests: a GET of a URL with a JSON value, a POST of a record to a URL with a
JSON value as well, and either with an error. What a backend answers may change from one request to
the next, so each operation on a session is given the `Backend` as it answers at that moment.
-/

namespace EntityForms

/-- Why a request failed. -/
inductive ApiError where
  | network (reason : String)
  | status (code : UInt16) (reason : String)
  | invalidResponse (reason : String)
  deriving DecidableEq, Repr

/-- The message of a failed request. -/
def ApiError.message : ApiError → String
  | .network reason => "Network error: " ++ reason
  | .status code reason =>
    "Request failed with status " ++ Text.writeNat code.toNat ++ ": " ++ reason
  | .invalidResponse reason => "Invalid response: " ++ reason

/-- The answers of a backend. -/
structure Backend where
  get : String → Except ApiError Json
  post : String → Record → Except ApiError Json

/-- The record that an answer is. -/
def expectRecord : Json → Except ApiError Record
  | .object members => .ok members.toDictionary
  | other => .error (.invalidResponse ("expected JSON object, got " ++ other.kind.name))

@[simp] theorem expectRecord_toJson (r : Record) : expectRecord r.toJson = .ok r := by
  rw [Record.toJson, expectRecord, Ascending.toDictionary_ascending]

/-- The characters without those slashes that they begin with. -/
def dropSlashes (cs : List Char) : List Char := cs.dropWhile (· = '/')

/-- The URL of a path below a base path, with one slash between them. -/
def joinUrl (base path : String) : String :=
  String.ofList ((dropSlashes base.toList.reverse).reverse ++ '/' :: dropSlashes path.toList)

end EntityForms
