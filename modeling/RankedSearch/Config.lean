import RankedSearch.Text.Blank
import RankedSearch.Text.Quoted
import RankedSearch.Toml.Document

/-! The configuration of the program, as it stands in a TOML document. Once loaded it is in normal
form: no white space around its addresses, no slash at the end of the base URL, and every figure
positive. -/

namespace RankedSearch

open RankedSearch.Text

structure Config where
  logLevel : String
  /-- Scheme, host and, if the service is not at the root, a path. -/
  baseUrl : String
  /-- How many milliseconds a request may take. -/
  timeout : UInt64
  notificationsPath : String
  /-- How many milliseconds a query may collect data before training is asked for. -/
  fallback : UInt64
  /-- How many commands of a session may wait. -/
  commandBuffer : UInt64
deriving DecidableEq, Repr

namespace Config

def defaultNotificationsPath : String := "/api/query/notifications"
def defaultFallback : UInt64 := 20000
def defaultCommandBuffer : UInt64 := 32

/-! ## Validity -/

inductive Problem
  | blankLogLevel
  | emptyBaseUrl
  | baseUrlScheme
  | zeroTimeout
  | notificationsPath
  | zeroFallback
  | zeroCommandBuffer
deriving DecidableEq, Repr

def Problem.message : Problem → String
  | .blankLogLevel => "service.log_level must be non-empty."
  | .emptyBaseUrl => "api.base_url must be non-empty."
  | .baseUrlScheme => "api.base_url must start with http:// or https://."
  | .zeroTimeout => "api.timeout_ms must be greater than zero."
  | .notificationsPath => "api.notifications_path must start with '/'."
  | .zeroFallback => "lifecycle.fallback_train_ms must be greater than zero."
  | .zeroCommandBuffer => "lifecycle.command_buffer must be greater than zero."

/-- Whether the URL is one of the web, by its first characters. -/
def hasWebScheme (url : String) : Bool :=
  "http://".toList.isPrefixOf url.toList || "https://".toList.isPrefixOf url.toList

/-- The first problem of a configuration. -/
def problem? (c : Config) : Option Problem :=
  if trim c.logLevel = "" then some .blankLogLevel
  else if c.baseUrl = "" then some .emptyBaseUrl
  else if ¬hasWebScheme c.baseUrl then some .baseUrlScheme
  else if c.timeout = 0 then some .zeroTimeout
  else if c.notificationsPath.toList.head? ≠ some '/' then some .notificationsPath
  else if c.fallback = 0 then some .zeroFallback
  else if c.commandBuffer = 0 then some .zeroCommandBuffer
  else none

/-! ## Normal form -/

def normalized (c : Config) : Config :=
  let path := trim c.notificationsPath
  { c with
    baseUrl := trimEndChar '/' (trim c.baseUrl)
    notificationsPath := if path = "" then defaultNotificationsPath else path }

/-! ## Reading

A record of the document is a table, where unknown keys are ignored, or an array of the values of
its first fields. A date has no fields at all. -/

/-- The fields of a record, in the order of their names. Of a table even the unknown values have to
be representable. -/
def fields? (names : List String) : Toml.Value → Option (List (Option Toml.Value))
  | .table _ entries =>
    if entries.all fun (key, v) => names.contains key || v.isRepresentable then
      some (names.map (Toml.Entries.value? entries))
    else none
  | .array items | .tables items =>
    some ((items.take names.length).map some ++ List.replicate (names.length - items.length) none)
  | .moment _ => some (names.map fun _ => none)
  | _ => none

def text? : Toml.Value → Option String
  | .string s => some s
  | _ => none

/-- An integer of 64 bits without a sign. -/
def figure? : Toml.Value → Option UInt64
  | .integer i => if 0 ≤ i ∧ i.toNat < UInt64.size then some (UInt64.ofNat i.toNat) else none
  | _ => none

/-- A field that may be left out. -/
def orDefault (default : α) (read : Toml.Value → Option α) : Option Toml.Value → Option α
  | some v => read v
  | none => some default

def logLevel? (v : Toml.Value) : Option String :=
  match fields? ["log_level"] v with
  | some [level] => level.bind text?
  | _ => none

/-- Base URL, time limit and path of the notifications. -/
def addresses? (v : Toml.Value) : Option (String × UInt64 × String) :=
  match fields? ["base_url", "timeout_ms", "notifications_path"] v with
  | some [url, timeout, path] => do
    let url ← url.bind text?
    let timeout ← timeout.bind figure?
    let path ← orDefault defaultNotificationsPath text? path
    return (url, timeout, path)
  | _ => none

/-- The figures of a session: fallback and buffer. -/
def figures? (v : Toml.Value) : Option (UInt64 × UInt64) :=
  match fields? ["fallback_train_ms", "command_buffer"] v with
  | some [fallback, buffer] => do
    let fallback ← orDefault defaultFallback figure? fallback
    let buffer ← orDefault defaultCommandBuffer figure? buffer
    return (fallback, buffer)
  | _ => none

def ofToml? (v : Toml.Value) : Option Config :=
  match fields? ["service", "api", "lifecycle"] v with
  | some [service, api, lifecycle] => do
    let logLevel ← service.bind logLevel?
    let (baseUrl, timeout, notificationsPath) ← api.bind addresses?
    let (fallback, commandBuffer) ←
      orDefault (defaultFallback, defaultCommandBuffer) figures? lifecycle
    return { logLevel, baseUrl, timeout, notificationsPath, fallback, commandBuffer }
  | _ => none

/-! ## Loading -/

inductive Fault
  /-- The file cannot be read. -/
  | unreadable (path : String)
  /-- The text is no TOML, or not of a configuration. -/
  | malformed (path : String)
  | invalid (problem : Problem)
deriving DecidableEq, Repr

def Fault.message : Fault → String
  | .unreadable path => s!"Failed to read config file at {quote path}."
  | .malformed path => s!"Failed to parse config file at {quote path}."
  | .invalid problem => problem.message

/-- Loads the text of the file at `path`; `none` if it has none. -/
def load (path : String) : Option String → Except Fault Config
  | none => .error (.unreadable path)
  | some text =>
    match (Toml.ofText? text).bind ofToml? with
    | none => .error (.malformed path)
    | some c =>
      match c.normalized.problem? with
      | some problem => .error (.invalid problem)
      | none => .ok c.normalized

end Config

end RankedSearch
