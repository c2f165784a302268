import RecordProtection.Error

/-!
The kinds of content a record can carry.
-/

namespace RecordProtection

inductive ContentType where
  | changeCipherSpec
  | alert
  | handshake
  | applicationData
  | heartbeat
  deriving DecidableEq, Repr, Inhabited

namespace ContentType

def all : List ContentType := [changeCipherSpec, alert, handshake, applicationData, heartbeat]

def code : ContentType → UInt8
  | changeCipherSpec => 20
  | alert => 21
  | handshake => 22
  | applicationData => 23
  | heartbeat => 24

def ofCode (code : UInt8) : Except RecordError ContentType :=
  match all.find? (·.code = code) with
  | some type => .ok type
  | none => .error (.invalidContentType code)

def display : ContentType → String
  | changeCipherSpec => "ChangeCipherSpec"
  | alert => "Alert"
  | handshake => "Handshake"
  | applicationData => "ApplicationData"
  | heartbeat => "Heartbeat"

theorem ofCode_code (type : ContentType) : ofCode type.code = .ok type := by
  cases type <;> rfl

end ContentType

end RecordProtection
