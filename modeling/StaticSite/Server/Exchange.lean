import StaticSite.Server.Response

/-!
# Exchanges with a client

A client sends a request line and header lines up to an empty one; the server writes one
response and closes the connection.
-/

namespace StaticSite

namespace Server

/-- How many octets a line may have in front of its line feed. -/
def longestLine : Nat := 65536

/-- The first line of octets with its line feed, and the rest. -/
def splitLine : Bytes → Bytes × Bytes
  | [] => ([], [])
  | octet :: rest =>
    if octet = 10 then ([octet], rest)
    else
      let (line, later) := splitLine rest
      (octet :: line, later)

/-- Read a line.  At the end of the octets a line has no line feed. -/
def readLine (octets : Bytes) : Except Fault (Bytes × Bytes) :=
  let (line, rest) := splitLine octets
  let size := if line.getLast? = some 10 then line.length - 1 else line.length
  if longestLine < size then
    .error (.value "Separator is not found, and chunk exceed the limit")
  else .ok (line, rest)

def endsHeader (line : Bytes) : Bool := line = [13, 10] || line = [10] || line = []

/-- Pass over the header lines; each of them takes one octet at least. -/
def skipHeader : (fuel : Nat) → Bytes → Except Fault Unit
  | 0, _ => .ok ()
  | fuel + 1, octets => do
    let (line, rest) ← readLine octets
    if endsHeader line then return () else skipHeader fuel rest

/-- The text of octets of which each is a character. -/
def latin (octets : Bytes) : Text := octets.map fun octet => Char.ofNat octet.toNat

def requestWords (received : Bytes) : Except Fault (List Text) := do
  let (line, rest) ← readLine received
  skipHeader (rest.length + 1) rest
  return Text.words (latin line)

def Response.head (response : Response) : Text :=
  "HTTP/1.1 " ++ Text.ofNat response.status.code ++ " " ++ response.status.phrase ++ "\r\n" ++
  "Content-Type: " ++ response.contentType ++ "\r\n" ++
  "Content-Length: " ++ Text.ofNat response.body.length ++ "\r\n" ++
  "Cache-Control: no-store\r\n" ++
  "Connection: close\r\n\r\n"

/-- The octets of a response to a method; a client that asks for the head gets no body. -/
def Response.octets (response : Response) (method : Text) : Bytes :=
  Utf8.encode response.head ++ if method = "HEAD" then [] else response.body

/-- What an exchange with a client comes to. -/
structure Exchange where
  /-- The octets that were written to the client. -/
  written : Bytes := []
  /-- The line about the request, if the response was delivered. -/
  logged : Option Text := none
  fault : Option Fault := none
  closed : Bool := true
  deriving DecidableEq, Repr

/-- The method and the target of a request with the answer; both are empty for a line that
has no two words. -/
def answer (files : FileTree) (output : Path) (received : Bytes) :
    Except Fault (Text × Text × Response) := do
  match ← requestWords received with
  | method :: target :: _ => return (method, target, ← respond files output method target)
  | _ => return ([], [], .notice .badRequest)

/-- Serve one client.  If the connection breaks, the request is not logged. -/
def exchange (files : FileTree) (output : Path) (received : Bytes) (broken : Bool) : Exchange :=
  match answer files output received with
  | .error fault => { fault := some fault }
  | .ok (method, target, response) =>
    { written := response.octets method
      logged :=
        if broken then none
        else some (method ++ " " ++ target ++ " -> " ++ Text.ofNat response.status.code) }

end Server

end StaticSite
