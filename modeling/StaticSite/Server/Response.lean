import StaticSite.Page.Context
import StaticSite.Server.Mime
import StaticSite.Server.Url

/-!
# Responses

The server answers a request with a file below the output directory, or says why it does
not.  Nothing outside of that directory can be asked for.
-/

namespace StaticSite

namespace Server

/-- The outcome of a request. -/
inductive Status where
  | ok
  | badRequest
  | forbidden
  | notFound
  | methodNotAllowed
  | internalError
  deriving DecidableEq, Repr

def Status.code : Status → Nat
  | .ok => 200
  | .badRequest => 400
  | .forbidden => 403
  | .notFound => 404
  | .methodNotAllowed => 405
  | .internalError => 500

def Status.phrase : Status → Text
  | .ok => "OK"
  | .badRequest => "Bad Request"
  | .forbidden => "Forbidden"
  | .notFound => "Not Found"
  | .methodNotAllowed => "Method Not Allowed"
  | .internalError => "Internal Server Error"

/-- An answer to a request. -/
structure Response where
  status : Status
  contentType : Text
  body : Bytes
  deriving DecidableEq, Repr

/-- The answer that tells an outcome and nothing else. -/
def Response.notice (status : Status) : Response :=
  ⟨status, "text/plain", Utf8.encode (Text.ofNat status.code ++ " " ++ status.phrase)⟩

/-- The name of the page that stands for a directory. -/
def indexName : Text := "index.html"

/-- The path of a request below the output directory; nothing if it may not be asked for. -/
def resolveRequest (files : FileTree) (output : Path) (target : Text) :
    Except Fault (Option Path) := do
  let path ← requestedPath target
  if (Text.splitOn (· = '/') path).contains ['.', '.'] then return none
  let path := if path = [] ∨ path = ['/'] then '/' :: indexName else path
  let file := output.append (Path.parse (path.dropWhile (· = '/')))
  if ← files.isDirectory file then return some (file.child indexName) else return some file

def respond (files : FileTree) (output : Path) (method target : Text) :
    Except Fault Response := do
  if ¬ (method = "GET" ∨ method = "HEAD") then return .notice .methodNotAllowed
  match ← resolveRequest files output target with
  | none => return .notice .forbidden
  | some file =>
    if ! (← files.isFile file) then return .notice .notFound
    match files.read file with
    | .error (.file _) => return .notice .internalError
    | .error fault => throw fault
    | .ok body => return ⟨.ok, ← contentType files file, body⟩

end Server

end StaticSite
