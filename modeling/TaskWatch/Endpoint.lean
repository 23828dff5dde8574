import TaskWatch.ClientError
import TaskWatch.Text.Blank

/-!
# Endpoints

An address names a local socket (`unix://` and a path, or a path alone) or a host on the network
(`tcp://` and a host). `Endpoint.ofAddress` reads addresses up to the blanks around them.
`validateAddress` is stricter where a registry is checked: the scheme has to be there, at the very
start.
-/

namespace TaskWatch

/-- Where a daemon listens. -/
inductive Endpoint where
  | unix (path : String)
  | tcp (host : String)
  deriving DecidableEq, Repr

/-- Why an address of a registry is refused. -/
inductive AddressFault where
  | empty
  | noScheme (address : String)
  deriving DecidableEq, Repr

def unixScheme : String := "unix://"

def tcpScheme : String := "tcp://"

/-- What follows `start` at the beginning of the characters. -/
def after? : (start cs : List Char) → Option (List Char)
  | [], cs => some cs
  | s :: start, c :: cs => if s = c then after? start cs else none
  | _ :: _, [] => none

/-- What follows a scheme. -/
def afterScheme? (scheme address : String) : Option String :=
  (after? scheme.toList address.toList).map String.ofList

/-- Whether `part` stands somewhere in the characters. -/
def holdsPart (part : List Char) : List Char → Bool
  | [] => part.isEmpty
  | c :: rest => part.isPrefixOf (c :: rest) || holdsPart part rest

namespace Endpoint

/-- The endpoint that an address names. -/
def ofAddress (address : String) : Except ClientError Endpoint :=
  let address := Text.trim address
  if address = "" then .error (.invalidAddress .empty)
  else match afterScheme? unixScheme address with
    | some path =>
      if path = "" then .error (.invalidAddress (.incomplete address)) else .ok (.unix path)
    | none => match afterScheme? tcpScheme address with
      | some host =>
        if host = "" then .error (.invalidAddress (.incomplete address)) else .ok (.tcp host)
      | none =>
        if holdsPart "://".toList address.toList then .error (.invalidAddress (.scheme address))
        else .ok (.unix address)

/-- Whether the endpoint is reached over the network. -/
def isNetwork : Endpoint → Bool
  | .tcp _ => true
  | .unix _ => false

/-- The address of an endpoint, with its scheme. -/
def address : Endpoint → String
  | .unix path => unixScheme ++ path
  | .tcp host => tcpScheme ++ host

end Endpoint

namespace AddressFault

def message : AddressFault → String
  | .empty => "address cannot be empty"
  | .noScheme address =>
    "address must start with '" ++ unixScheme ++ "' or '" ++ tcpScheme ++ "', got: " ++ address

end AddressFault

/-- Whether an address is fit for a registry. -/
def validateAddress (address : String) : Except AddressFault Unit :=
  if Text.isBlank address then .error .empty
  else if (afterScheme? unixScheme address).isSome || (afterScheme? tcpScheme address).isSome then
    .ok ()
  else .error (.noScheme address)

end TaskWatch
