import TaskWatch.Duration

/-!
# Why a call on a daemon fails

One cause for each way in which opening a connection, an exchange of lines or a watch can fail, and
the message that a person reads.
-/

namespace TaskWatch

/-- What was being decoded when a line was not understood. -/
inductive DecodeContext where
  | response
  | taskEvent
  | streamAck
  deriving DecidableEq, Repr

/-- A time field of a task. -/
inductive TimeField where
  | createdAt
  | updatedAt
  | completedAt
  deriving DecidableEq, Repr

/-- What a successful response has to carry. -/
inductive Payload where
  | task
  | metrics
  deriving DecidableEq, Repr

/-- What a request may lack. -/
inductive RequestDefect where
  | noTaskId
  | noToolName
  deriving DecidableEq, Repr

/-- Why an address names no endpoint. -/
inductive AddressDefect where
  /-- There is nothing but blanks. -/
  | empty
  /-- Nothing follows the scheme. -/
  | incomplete (address : String)
  /-- The scheme is not known. -/
  | scheme (address : String)
  deriving DecidableEq, Repr

/-- Why a call on a daemon fails. -/
inductive ClientError where
  | invalidAddress (defect : AddressDefect)
  | connect (address : String)
  | auth (reply : String)
  | timeout (limit : Duration)
  | noResponse
  | decode (context : DecodeContext)
  | timestamp (field : TimeField)
  | lineTooLong (limit : Nat)
  /-- The daemon itself reported a failure. -/
  | daemon (message : String)
  | missingPayload (payload : Payload)
  | invalidRequest (defect : RequestDefect)
  | cancelled
  | unknownDaemon (name : String)
  | daemonDisabled (name : String)
  deriving DecidableEq, Repr

namespace DecodeContext

def name : DecodeContext → String
  | .response => "response"
  | .taskEvent => "task event"
  | .streamAck => "stream ack"

end DecodeContext

namespace TimeField

/-- The name of the field on the wire. -/
def name : TimeField → String
  | .createdAt => "created_at"
  | .updatedAt => "updated_at"
  | .completedAt => "completed_at"

end TimeField

namespace Payload

def name : Payload → String
  | .task => "task"
  | .metrics => "metrics"

end Payload

namespace RequestDefect

def message : RequestDefect → String
  | .noTaskId => "task id is required"
  | .noToolName => "tool name is required"

end RequestDefect

namespace AddressDefect

def message : AddressDefect → String
  | .empty => "address cannot be empty"
  | .incomplete address => address
  | .scheme address => "unsupported scheme in " ++ address

end AddressDefect

namespace ClientError

/-- The message of a failure. -/
def message : ClientError → String
  | .invalidAddress defect => "invalid daemon address: " ++ defect.message
  | .connect address => "failed to connect to " ++ address
  | .auth reply => "authentication failed: " ++ reply
  | .timeout limit => "timed out after " ++ limit.text
  | .noResponse => "no response from daemon"
  | .decode context => "failed to decode " ++ context.name
  | .timestamp field => "invalid " ++ field.name ++ " timestamp"
  | .lineTooLong limit => "line exceeds " ++ Numeral.text limit ++ " bytes"
  | .daemon message => message
  | .missingPayload payload => "daemon returned no " ++ payload.name
  | .invalidRequest defect => "invalid request: " ++ defect.message
  | .cancelled => "cancelled"
  | .unknownDaemon name => "unknown daemon '" ++ name ++ "'"
  | .daemonDisabled name => "daemon '" ++ name ++ "' is disabled"

end ClientError

end TaskWatch
