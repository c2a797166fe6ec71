import TemplateCompiler.Encoding.Source

/-! Where requests go. -/

namespace TemplateCompiler.Http

inductive Endpoint where
  | generate
  | profiles
  | profile (name : Text)
  | languages
  | live
  | snapshot
  | documentation
deriving DecidableEq, Repr

inductive RouteError where
  | notFound
  | methodNotAllowed
deriving DecidableEq, Repr

namespace RouteError

def status : RouteError → Nat
  | .notFound => 404
  | .methodNotAllowed => 405

def detail : RouteError → Text
  | .notFound => "Not Found".toList
  | .methodNotAllowed => "Method Not Allowed".toList

end RouteError

namespace Endpoint

def methods : Endpoint → List Text
  | .generate => ["POST".toList]
  | .documentation => ["GET".toList, "HEAD".toList]
  | _ => ["GET".toList]

def fixedPaths : List (Text × Endpoint) :=
  [("/openapi.json".toList, .documentation), ("/docs".toList, .documentation),
    ("/docs/oauth2-redirect".toList, .documentation), ("/redoc".toList, .documentation),
    ("/api/v1/generate".toList, .generate), ("/api/v1/profiles".toList, .profiles),
    ("/api/v1/languages".toList, .languages), ("/api/v1/health/live".toList, .live),
    ("/api/v1/metrics/snapshot".toList, .snapshot)]

def withoutLineEnd (path : Text) : Text :=
  if path.getLast? = some '\n' then path.dropLast else path

/-- The endpoint at a path, after which a line feed may stand; the last part of a profile's path is
its name, line feed and all. -/
def atPath? (path : Text) : Option Endpoint :=
  match fixedPaths.lookup (withoutLineEnd path) with
  | some e => some e
  | none =>
    match Text.afterStart "/api/v1/profiles/".toList path with
    | some name => if name.isEmpty || name.contains '/' then none else some (.profile name)
    | none => none

end Endpoint

inductive Route where
  | endpoint (e : Endpoint)
  | redirect (path : Text)
  | nowhere (e : RouteError)
deriving DecidableEq, Repr

def withoutSlashes? (path : Text) : Option Text :=
  let shorter := Text.dropEndWhile (· == '/') path
  if shorter.length < path.length && (Endpoint.atPath? shorter).isSome then some shorter else none

def route (method path : Text) : Route :=
  match Endpoint.atPath? path with
  | some e => if e.methods.contains method then .endpoint e else .nowhere .methodNotAllowed
  | none =>
    match withoutSlashes? path with
    | some shorter => .redirect shorter
    | none => .nowhere .notFound

def bytesOf : (skip : Nat) → Text → List UInt8
  | _, [] => []
  | skip + 1, _ :: rest => bytesOf skip rest
  | 0, c :: rest =>
    match c, Text.hexNumber? (rest.take 2) with
    | '%', some n =>
      if rest.length < 2 then Encoding.utf8Bytes c ++ bytesOf 0 rest
      else n.toUInt8 :: bytesOf 2 rest
    | _, _ => Encoding.utf8Bytes c ++ bytesOf 0 rest

def unescape (t : Text) : Text := Encoding.decodeReplacing .utf8 (bytesOf 0 t)

/-- A path without its parts that are one period, and without those that two periods after them
take back. `before` holds the parts before, last one first; of these, a first part that is empty
stays. -/
def withoutDots (before : List Text) : List Text → List Text
  | [] => before.reverse
  | part :: rest =>
    if part = ['.'] then withoutDots before rest
    else if part = ['.', '.'] then
      match before with
      | [] => withoutDots [] rest
      | [[]] => withoutDots [[]] rest
      | _ :: before => withoutDots before rest
    else withoutDots (part :: before) rest

def targetLimit : Nat := 65536

def takeProtocol (target : Text) : Text × Text :=
  let name := target.takeWhile fun c => c.isAlphanum || c == '+' || c == '.' || c == '-'
  match target.drop name.length with
  | ':' :: rest => if name.head?.all Char.isAlpha then (name, rest) else ([], target)
  | _ => ([], target)

def takeHost (target : Text) : Text × Text :=
  match target with
  | '/' :: '/' :: rest => rest.span fun c => c != '/' && c != '?' && c != '#'
  | _ => ([], target)

/-- A target of a request is not too long, and its ASCII characters are printable. Without a
protocol and a host it begins neither with two slashes nor with a colon. -/
def checkTarget (target : Text) : Except Failure Unit := do
  let isBad (c : Char) : Bool := c.toNat < 0x20 || c.toNat = 0x7F
  if targetLimit < target.length then throw .longTarget
  match target.find? isBad with
  | some c => throw (.badTarget c (target.takeWhile fun c => !isBad c).length)
  | none =>
    let (protocol, rest) := takeProtocol target
    let (host, path) := takeHost rest
    if protocol.isEmpty && host.isEmpty then
      match ["//".toList, ":".toList].find? fun start => start.isPrefixOf path with
      | some start => throw (.badTargetStart start)
      | none => pure ()
    match path.find? fun c => (Text.surrogate? c).isSome with
    | some c => throw (.unencodable 0 [Text.codeOf c] .loneSurrogate)
    | none => pure ()

/-- The path of a target: without protocol, host and query, with one slash in front and without
parts of periods. It is unescaped on its way out and again on its way in. -/
def pathOf (target : Text) : Text :=
  let raw := (takeHost (takeProtocol target).2).2.takeWhile fun c => c != '?' && c != '#'
  let parts := Text.splitOn (· == '/') ('/' :: raw.dropWhile (· == '/'))
  match unescape (unescape (Text.joinWith ['/'] (withoutDots [] parts))) with
  | [] => ['/']
  | path => path

def addressChar (c : Char) : Text :=
  if c = '?' ∨ c = '#' ∨ c = '\\' then '%' :: (Text.hex 2 c.toNat).map Char.toUpper else [c]

def addressOf (path : Text) : Text := path.flatMap addressChar

def countedPath (path : Text) : Text :=
  (addressOf path).filter fun c => c != '\n' && c != '\r' && c != '\t'

def Route.location? : Route → Option Text
  | .redirect path => some (addressOf path)
  | _ => none

end TemplateCompiler.Http
