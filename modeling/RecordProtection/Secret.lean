import RecordProtection.Error

/-!
Secrets that can be destroyed.
-/

namespace RecordProtection

/-- A named secret; once destroyed it holds no data. -/
structure Secret where
  label : String
  stored : Option Bytes
  deriving DecidableEq, Repr, Inhabited

namespace Secret

def ofBytes (label : String) (data : Bytes) : Secret := ⟨label, some data⟩

def data (secret : Secret) : Except RecordError Bytes :=
  match secret.stored with
  | some data => .ok data
  | none => .error (.accessAfterDestroy secret.label)

def length (secret : Secret) : Nat := (secret.stored.getD []).length

def isEmpty (secret : Secret) : Bool := secret.length = 0

def isDestroyed (secret : Secret) : Bool := secret.stored.isNone

def destroy (secret : Secret) : Secret := { secret with stored := none }

theorem data_ofBytes (label : String) (data : Bytes) : (ofBytes label data).data = .ok data := rfl

theorem data_destroy (secret : Secret) :
    secret.destroy.data = .error (.accessAfterDestroy secret.label) := rfl

end Secret

end RecordProtection
