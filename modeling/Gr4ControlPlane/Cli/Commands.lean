import Gr4ControlPlane.Api.SessionApi
import Gr4ControlPlane.Cli.ParsedUrl

namespace Gr4ControlPlane.Cli

structure CliRequest where
  server : ParsedUrl
  method : HttpMethod
  path : Bytes
  body : Bytes
  deriving DecidableEq

structure Reply where
  status : Nat
  body : Bytes
  deriving DecidableEq

structure ParseThrown where
  isParseError : Bool
  what : Bytes

/-- What the client works with: the JSON library, the files, and the servers. -/
structure World where
  parse : Bytes → Except ParseThrown Json
  dump : Json → Except Bytes Bytes
  /-- `dump(2)` -/
  dumpIndented : Json → Except Bytes Bytes
  readFile : Bytes → Option Bytes
  /-- What comes back for a request, if anything does. -/
  respond : CliRequest → Option Reply

structure CliAction (α : Type) where
  sent : List CliRequest
  result : Except Bytes α

namespace CliAction

variable {α β : Type}

def ofExcept (result : Except Bytes α) : CliAction α := ⟨[], result⟩

def bind (x : CliAction α) (f : α → CliAction β) : CliAction β :=
  match x.result with
  | .error what => ⟨x.sent, .error what⟩
  | .ok a => ⟨x.sent ++ (f a).sent, (f a).result⟩

instance : Monad CliAction where
  pure a := ofExcept (.ok a)
  bind := bind

end CliAction

structure Outcome where
  exitCode : Nat
  out : Bytes
  err : Bytes
  requests : List CliRequest
  deriving DecidableEq

def usage : Bytes :=
  ascii "usage:\n" ++
  ascii "  gr4cp-cli sessions create --file <path> [--name <name>] [--url <url>]\n" ++
  ascii "  gr4cp-cli sessions list [--url <url>]\n" ++
  ascii "  gr4cp-cli sessions get <id> [--url <url>]\n" ++
  ascii "  gr4cp-cli sessions start <id> [--url <url>]\n" ++
  ascii "  gr4cp-cli sessions stop <id> [--url <url>]\n" ++
  ascii "  gr4cp-cli sessions restart <id> [--url <url>]\n" ++
  ascii "  gr4cp-cli sessions delete <id> [--url <url>]\n"

def defaultUrl : Bytes := ascii "http://127.0.0.1:8080"

variable (world : World)

def readFile (path : Bytes) : Except Bytes Bytes :=
  match world.readFile path with
  | some content => .ok content
  | none => .error (ascii "failed to read file: " ++ path)

def findErrorMessage : Option Reply → Except Bytes (Option Bytes)
  | none => .ok none
  | some response =>
    if response.body = [] then .ok none
    else
      match world.parse response.body with
      | .error thrown => if thrown.isParseError then .ok none else .error thrown.what
      | .ok body =>
        match body.member (ascii "error") with
        | some (.object error) =>
          match Json.member (ascii "code") (.object error), Json.member (ascii "message") (.object error) with
          | some (.string code), some (.string message) => .ok (some (code ++ ascii ": " ++ message))
          | _, _ => .ok none
        | _ => .ok none

def requireResponse : Option Reply → Except Bytes Reply
  | some response => .ok response
  | none => .error (ascii "request failed")

def parseSuccessJson (response : Reply) : Except Bytes Json := (world.parse response.body).mapError (·.what)

/-- The body that is sent: only a `POST` has one. -/
def requestPayload (method : HttpMethod) (body : Option Json) : Except Bytes Bytes :=
  match method, body with
  | .post, some body => world.dump body
  | _, _ => .ok []

def performRequest (server : ParsedUrl) (method : HttpMethod) (path : Bytes) (body : Option Json) :
    CliAction (Option Reply) := do
  let payload ← .ofExcept (requestPayload world method body)
  ⟨[⟨server, method, path, payload⟩], .ok (world.respond ⟨server, method, path, payload⟩)⟩

def throwStatus {α : Type} (response : Option Reply) (checked : Reply) : Except Bytes α := do
  match ← findErrorMessage world response with
  | some error => throw error
  | none => throw (ascii "server returned HTTP " ++ decimal checked.status)

def requestJson (server : ParsedUrl) (method : HttpMethod) (path : Bytes) (body : Option Json) : CliAction Json := do
  let response ← performRequest world server method path body
  let checked ← .ofExcept (requireResponse response)
  if 200 ≤ checked.status ∧ checked.status < 300 then
    if checked.body = [] then return .null else .ofExcept (parseSuccessJson world checked)
  else .ofExcept (throwStatus world response checked)

def requestNoContent (server : ParsedUrl) (method : HttpMethod) (path : Bytes) : CliAction Unit := do
  let response ← performRequest world server method path none
  let checked ← .ofExcept (requireResponse response)
  if checked.status = 204 then return () else .ofExcept (throwStatus world response checked)

def parseCommonOptions (url : Bytes) : List Bytes → Except Bytes Bytes
  | [] => .ok url
  | [option] =>
    if option = ascii "--url" then .error (ascii "--url requires a value")
    else .error (ascii "unknown option: " ++ option)
  | option :: value :: args =>
    if option = ascii "--url" then parseCommonOptions value args
    else .error (ascii "unknown option: " ++ option)

structure CreateOptions where
  filePath : Bytes
  name : Bytes
  url : Bytes

def parseCreateOptions (options : CreateOptions) : List Bytes → Except Bytes CreateOptions
  | [] => .ok options
  | [option] =>
    if option = ascii "--file" then .error (ascii "--file requires a value")
    else if option = ascii "--name" then .error (ascii "--name requires a value")
    else if option = ascii "--url" then .error (ascii "--url requires a value")
    else .error (ascii "unknown option: " ++ option)
  | option :: value :: args =>
    if option = ascii "--file" then parseCreateOptions { options with filePath := value } args
    else if option = ascii "--name" then parseCreateOptions { options with name := value } args
    else if option = ascii "--url" then parseCreateOptions { options with url := value } args
    else .error (ascii "unknown option: " ++ option)

def makeClient (url : Bytes) : Except Bytes ParsedUrl := (parseUrl url).mapError (·.what)

def createBody (name grc : Bytes) : Json := .object [(ascii "grc", .string grc), (ascii "name", .string name)]

/-- `out << pretty_json(body) << '\n'` -/
def printJson (action : CliAction Json) : CliAction Bytes := do
  let body ← action
  return (← .ofExcept (world.dumpIndented body)) ++ [10]

def runCommand (command : Bytes) (args : List Bytes) : CliAction Bytes := do
  if command = ascii "create" then
    let options ← .ofExcept (parseCreateOptions ⟨[], [], defaultUrl⟩ args)
    if options.filePath = [] then .ofExcept (.error (ascii "create requires --file"))
    let client ← .ofExcept (makeClient options.url)
    let body := createBody options.name (← .ofExcept (readFile world options.filePath))
    printJson world (requestJson world client .post (ascii "/sessions") (some body))
  else if command = ascii "list" then
    let client ← .ofExcept (do makeClient (← parseCommonOptions defaultUrl args))
    printJson world (requestJson world client .get (ascii "/sessions") none)
  else if command = ascii "get" ∨ command = ascii "start" ∨ command = ascii "stop" ∨ command = ascii "restart" ∨
      command = ascii "delete" then
    match args with
    | [] => .ofExcept (.error (command ++ ascii " requires a session id"))
    | id :: args =>
      let client ← .ofExcept (do makeClient (← parseCommonOptions defaultUrl args))
      let path := ascii "/sessions/" ++ id
      if command = ascii "get" then printJson world (requestJson world client .get path none)
      else if command = ascii "start" then printJson world (requestJson world client .post (path ++ ascii "/start") none)
      else if command = ascii "stop" then printJson world (requestJson world client .post (path ++ ascii "/stop") none)
      else if command = ascii "restart" then
        printJson world (requestJson world client .post (path ++ ascii "/restart") none)
      else
        requestNoContent world client .delete path
        return ascii "deleted " ++ id ++ [10]
  else .ofExcept (.error (ascii "unknown sessions command: " ++ command))

def CliAction.outcome (action : CliAction Bytes) : Outcome :=
  match action.result with
  | .ok out => ⟨0, out, [], action.sent⟩
  | .error what => ⟨1, [], cString what ++ [10], action.sent⟩

/-- `run`, and `run_sessions` below it. -/
def run : List Bytes → Outcome
  | sessions :: command :: args =>
    if sessions = ascii "sessions" then (runCommand world command args).outcome else ⟨1, [], usage, []⟩
  | _ => ⟨1, [], usage, []⟩

end Gr4ControlPlane.Cli
