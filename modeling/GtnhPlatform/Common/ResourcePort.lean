import Mathlib.Data.List.AList

namespace GtnhPlatform.Common

abbrev PortId := Nat

/-- The transport channel. A malformed wire byte keeps its value, as the cast
from the wire enumeration does. -/
inductive ResourceKind where
  | fluid
  | eu
  | hu
  | ru
  | item
  | unknown (byte : UInt8)
  deriving DecidableEq

inductive PortRole where
  | none
  | source
  | sink
  | unknown (byte : UInt8)
  deriving DecidableEq

inductive FacePolicy where
  | allFaces
  | mask
  | unknown (byte : UInt8)
  deriving DecidableEq

structure ResourcePortRegistrationKey where
  ownerId : Nat
  resourceKind : ResourceKind
  portId : PortId
  epoch : Nat
  deriving DecidableEq

structure ResourcePort where
  portId : PortId
  ownerId : Nat
  resourceKind : ResourceKind
  role : PortRole
  x : Int
  y : Int
  z : Int
  facePolicy : FacePolicy
  faceMask : Nat
  capacity : Int
  rate : Int
  epoch : Nat
  deriving DecidableEq

def ResourcePort.registrationKey (port : ResourcePort) : ResourcePortRegistrationKey where
  ownerId := port.ownerId
  resourceKind := port.resourceKind
  portId := port.portId
  epoch := port.epoch

structure ResourceTransferRequest where
  requestId : Nat
  portId : PortId
  resourceKind : ResourceKind
  resourceId : Nat
  amount : Int
  deriving DecidableEq

structure ResourceTransferResponse where
  requestId : Nat
  portId : PortId
  resourceKind : ResourceKind
  resourceId : Nat
  acceptedAmount : Int
  remaining : Int := 0
  deriving DecidableEq

end GtnhPlatform.Common
