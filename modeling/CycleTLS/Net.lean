import Mathlib.Data.List.Basic

/-!
# Addresses

The host of a URL may hold a port. `net.SplitHostPort` and `net.JoinHostPort`
take the two apart and put them together, the methods `Hostname` and `Port` of a
URL read them.

All of the separators are ASCII, so the texts are read character by character.
-/

namespace CycleTLS

/-- The scheme of a parsed URL, in lower case. -/
inductive Scheme
  | http
  | https
  | other (name : String)
  deriving DecidableEq

/-- A parsed URL; what follows its path is left out. -/
structure URL where
  scheme : Scheme
  host : String
  path : String := ""
  deriving DecidableEq

/-- The text before the last `sep`, and the text after it. -/
def cutLast (sep : Char) : List Char → Option (List Char × List Char)
  | [] => none
  | c :: s =>
    match cutLast sep s with
    | some (before, after) => some (c :: before, after)
    | none => if c = sep then some ([], s) else none

/-- `net.SplitHostPort`, without its errors. -/
def splitHostPort (hostport : String) : Option (String × String) :=
  match cutLast ':' hostport.toList with
  | none => none
  | some (before, port) =>
    if hostport.toList.head? = some '[' then
      -- The first `]` has to be right before the last colon.
      if before.getLast? = some ']' ∧ ']' ∉ before.dropLast then
        if '[' ∈ (before.drop 1) ∨ '[' ∈ port ∨ ']' ∈ port then none
        else some (String.ofList (before.drop 1).dropLast, String.ofList port)
      else none
    else if ':' ∈ before ∨ '[' ∈ hostport.toList ∨ ']' ∈ hostport.toList then none
    else some (String.ofList before, String.ofList port)

/-- `net.JoinHostPort`. -/
def joinHostPort (host port : String) : String :=
  if ':' ∈ host.toList then "[" ++ host ++ "]:" ++ port else host ++ ":" ++ port

/-- `validOptionalPort` of `net/url`, for what follows the colon. -/
def validPort (port : List Char) : Bool := port.all Char.isDigit

/-- `splitHostPort` of `net/url`: the host without its port and brackets, and the
    port. -/
def URL.hostAndPort (url : URL) : List Char × List Char :=
  let (host, port) :=
    match cutLast ':' url.host.toList with
    | some (before, port) => if validPort port then (before, port) else (url.host.toList, [])
    | none => (url.host.toList, [])
  if host.head? = some '[' ∧ host.getLast? = some ']' then ((host.drop 1).dropLast, port)
  else (host, port)

/-- `URL.Hostname`. -/
def URL.hostname (url : URL) : String := String.ofList url.hostAndPort.1

/-- `URL.Port`. -/
def URL.port (url : URL) : String := String.ofList url.hostAndPort.2

end CycleTLS
