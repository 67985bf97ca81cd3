import ChainExplorer.Error.Query
import ChainExplorer.Http.Url

/-!
# Settings of the node

The URL is checked first, then the credentials, then the rate; the first fault is the one reported.
-/

namespace ChainExplorer.Http

/-- How the node is reached. -/
structure Settings where
  url : Url
  /-- A user and a password. -/
  credentials : Option (String × String)
  /-- The most requests in a second. -/
  rate : Option Nat
  deriving DecidableEq, Repr

/-- The URL of a server, over HTTP with or without encryption. -/
def serverUrl (text : String) : Except InputFault Url :=
  match Url.ofText? text with
  | none => .error (.badUrl text)
  | some url =>
    if url.scheme = "http" ∨ url.scheme = "https" then .ok url
    else .error (.badScheme url.scheme)

/-- A user and a password, both or neither. -/
def pairCredentials : Option String → Option String → Except InputFault (Option (String × String))
  | some user, some password => .ok (some (user, password))
  | none, none => .ok none
  | _, _ => .error .partialCredentials

/-- A rate of at least one request in a second. -/
def checkedRate : Option Nat → Except InputFault (Option Nat)
  | some 0 => .error .zeroRate
  | rate => .ok rate

/-- The settings that a user gives. -/
def Settings.ofInput (url : String) (user password : Option String) (rate : Option Nat) :
    Except InputFault Settings := do
  let url ← serverUrl url
  let credentials ← pairCredentials user password
  let rate ← checkedRate rate
  return ⟨url, credentials, rate⟩

end ChainExplorer.Http
