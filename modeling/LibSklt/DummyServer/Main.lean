import LibSklt.DummyServer.HeaderCct
import LibSklt.Net.SkltServer

/-!
# The dummy server (`dummyServer/dummyServer.cpp`)

`_tmain` registers `HeaderCCT` as the header of all sessions and starts a
`SkltServer` with the values of `bin/Configure.ini`.
-/

namespace LibSklt.DummyServer

open LibSklt.Net
open LibSklt.Util.ByteOrder

/-- A 64-bit build of the library with `_ENABLE`. -/
def libraryBuild : Build where
  enable := true
  sizeBits := 64

/-- `bin/Configure.ini`, with another number of pooled sessions. -/
def configureIni (sessionPoolCount : Nat) : Config where
  build := libraryBuild
  sessionBufferMax := 32768
  sessionPoolCount := sessionPoolCount
  workerCount := 8
  hexCode := true
  rawPrevSize _ := 0

/-- The server that `_tmain` starts. -/
def dummyServer (sessionPoolCount : Nat) :
    Server (HeaderCct libraryBuild) :=
  Server.start (configureIni sessionPoolCount) HeaderCct.make

/-! ## Messages of a client -/

/-- The header of a message with protocol number 101. -/
def headerImage (bodySize : UInt8) : List UInt8 :=
  List.replicate 12 0 ++ [0, 101, 0, 0, 0, bodySize] ++
    List.replicate 15 0

/-- The body of a message, and its ender. -/
def bodyImage (bodySize : Nat) : List UInt8 :=
  List.replicate (bodySize + 16) 0

end LibSklt.DummyServer
