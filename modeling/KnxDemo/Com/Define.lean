import KnxDemo.Bytes

/-!
# Constants of the serial link

The values of `Define.h` and of the error codes in `ErrCode.h` that the serial
functions use. Error codes have either sign: `ERR_FAIL` is negative, every other
failure is positive, and only `ERR_OK` is zero.
-/

namespace KnxDemo.ComDefine

open KnxDemo.Bytes

def errOk : Int := 0
def errFail : Int := -1
def errIosend : Int := 10
def errIorecv : Int := 11
def errTimeOut : Int := 41

def shortTimeOut : Nat := 5000
def shortShortTimeOut : Nat := 1000
def comPath : String := "/dev/ttyS7"
def baundRate : Nat := 19200

def channel0 : Byte := 0

/-- `CONTROL_TYPE` -/
def lightControl : Byte := 0x01

/-- `LIGHT_PROPERTY` -/
def openClose : Byte := 0x00
def openCloseState : Byte := 0x01

/-- `CONTROL_STATES` -/
def controlMsg : Byte := 0x00
def readStateMsg : Byte := 0x02

/-- `SERVICE_ID` -/
def serviceIdRecv : Byte := 0x05
def serviceIdSend : Byte := 0x0B

def maxServiceFrame : Nat := 255

theorem zero_lt_maxServiceFrame : 0 < maxServiceFrame := by decide

def packStartFlag : Byte := 0xAA
def packFrameLeft : Nat := 6
def serviceFrameHead : Nat := 7
def ackLen : Nat := 7
def responsSuccess : Byte := 0x01

/-- The service frame of `ComPack.h`. The array type fixes the number of data
octets; how many of them travel is decided by `size`, which also counts the
seven octets of the frame head. -/
structure ServiceFrame where
  size : Byte
  controlType : Byte
  property : Byte
  channel : Byte
  controlStatus : Byte
  data : Vector Byte maxServiceFrame

def ServiceFrame.payload (serviceFrame : ServiceFrame) : List Byte :=
  serviceFrame.data.toList.take (serviceFrame.size.toNat - serviceFrameHead)

end KnxDemo.ComDefine
