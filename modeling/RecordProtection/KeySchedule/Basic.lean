import RecordProtection.KeySchedule.Hkdf
import RecordProtection.KeySchedule.Prf

/-!
The operations that the key schedules of all versions share.
-/

namespace RecordProtection

inductive KeySchedule where
  | prf (schedule : PrfSchedule)
  | hkdf (schedule : HkdfSchedule)

namespace KeySchedule

def create (params : Parameters) (config : Config) : Except RecordError KeySchedule :=
  if params.version.is13 then
    (HkdfSchedule.create params none).map hkdf
  else
    (PrfSchedule.create params config).map prf

def deriveMasterSecret (schedule : KeySchedule) (preMaster clientRandom serverRandom : Bytes)
    (transcript : Option Bytes) : Except RecordError Secret × KeySchedule :=
  match schedule with
  | prf schedule =>
      let (result, schedule) :=
        schedule.deriveMasterSecret preMaster clientRandom serverRandom transcript
      (result, prf schedule)
  | hkdf schedule =>
      let (result, schedule) := schedule.deriveMasterSecret preMaster transcript
      (result, hkdf schedule)

def masterSecret : KeySchedule → Except RecordError Secret
  | prf schedule => schedule.masterSecret
  | hkdf schedule => schedule.masterSecret

def verifyData (schedule : KeySchedule) (role : Role) (transcript : Bytes) :
    Except RecordError Bytes :=
  match schedule with
  | prf schedule => schedule.verifyData role transcript
  | hkdf schedule => schedule.verifyData role transcript

def destroy : KeySchedule → KeySchedule
  | prf schedule => prf schedule.destroy
  | hkdf schedule => hkdf schedule.destroy

end KeySchedule

end RecordProtection
