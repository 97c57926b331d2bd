/-! # Flag sets

Capabilities, server status and column flags are sets of single bits. Each kind has its table of
defined bits, and a set read from a peer keeps only those.
-/

namespace SqlWire

structure Capabilities where
  bits : UInt32
deriving Repr, DecidableEq

namespace Capabilities

def longPassword : Capabilities := ⟨0x1⟩
def foundRows : Capabilities := ⟨0x2⟩
def longFlag : Capabilities := ⟨0x4⟩
def connectWithDatabase : Capabilities := ⟨0x8⟩
def compress : Capabilities := ⟨0x20⟩
def localFiles : Capabilities := ⟨0x80⟩
def ignoreSpace : Capabilities := ⟨0x100⟩
def protocol41 : Capabilities := ⟨0x200⟩
def interactive : Capabilities := ⟨0x400⟩
def tls : Capabilities := ⟨0x800⟩
def transactions : Capabilities := ⟨0x2000⟩
def secureConnection : Capabilities := ⟨0x8000⟩
def multiStatements : Capabilities := ⟨0x10000⟩
def multiResults : Capabilities := ⟨0x20000⟩
def preparedMultiResults : Capabilities := ⟨0x40000⟩
def pluginAuth : Capabilities := ⟨0x80000⟩
def connectAttributes : Capabilities := ⟨0x100000⟩
def lengthEncodedAuth : Capabilities := ⟨0x200000⟩
def sessionTrack : Capabilities := ⟨0x800000⟩
def deprecateEof : Capabilities := ⟨0x1000000⟩

def union (a b : Capabilities) : Capabilities := ⟨a.bits ||| b.bits⟩

def inter (a b : Capabilities) : Capabilities := ⟨a.bits &&& b.bits⟩

def contains (a b : Capabilities) : Bool := a.bits &&& b.bits == b.bits

def defined : Capabilities :=
  [longPassword, foundRows, longFlag, connectWithDatabase, compress, localFiles, ignoreSpace,
    protocol41, interactive, tls, transactions, secureConnection, multiStatements, multiResults,
    preparedMultiResults, pluginAuth, connectAttributes, lengthEncodedAuth, sessionTrack,
    deprecateEof].foldl union ⟨0⟩

/-- The set of the defined bits among `bits`. -/
def ofBits (bits : UInt32) : Capabilities := inter ⟨bits⟩ defined

/-- What this client offers. -/
def client : Capabilities :=
  [longPassword, longFlag, protocol41, transactions, secureConnection, multiStatements,
    multiResults, preparedMultiResults, pluginAuth, lengthEncodedAuth].foldl union ⟨0⟩

end Capabilities

/-- What a server says about its state at the end of a reply. -/
structure Status where
  bits : UInt16
deriving Repr, DecidableEq

namespace Status

def inTransaction : Status := ⟨0x1⟩
def autocommit : Status := ⟨0x2⟩
def moreResults : Status := ⟨0x8⟩
def noGoodIndex : Status := ⟨0x10⟩
def noIndex : Status := ⟨0x20⟩
def cursorExists : Status := ⟨0x40⟩
def lastRowSent : Status := ⟨0x80⟩
def databaseDropped : Status := ⟨0x100⟩
def noBackslashEscapes : Status := ⟨0x200⟩
def metadataChanged : Status := ⟨0x400⟩
def slowQuery : Status := ⟨0x800⟩
def outParameters : Status := ⟨0x1000⟩
def readOnlyTransaction : Status := ⟨0x2000⟩
def sessionStateChanged : Status := ⟨0x4000⟩

def union (a b : Status) : Status := ⟨a.bits ||| b.bits⟩

def contains (a b : Status) : Bool := a.bits &&& b.bits == b.bits

def defined : Status :=
  [inTransaction, autocommit, moreResults, noGoodIndex, noIndex, cursorExists, lastRowSent,
    databaseDropped, noBackslashEscapes, metadataChanged, slowQuery, outParameters,
    readOnlyTransaction, sessionStateChanged].foldl union ⟨0⟩

def ofBits (bits : UInt16) : Status := ⟨bits &&& defined.bits⟩

end Status

/-- What a column definition says about its column. -/
structure ColumnFlags where
  bits : UInt16
deriving Repr, DecidableEq

namespace ColumnFlags

def notNull : ColumnFlags := ⟨0x1⟩
def blob : ColumnFlags := ⟨0x10⟩
def isUnsigned : ColumnFlags := ⟨0x20⟩
def binary : ColumnFlags := ⟨0x80⟩
def enumeration : ColumnFlags := ⟨0x100⟩
def timestamp : ColumnFlags := ⟨0x400⟩
def set : ColumnFlags := ⟨0x800⟩

def union (a b : ColumnFlags) : ColumnFlags := ⟨a.bits ||| b.bits⟩

def contains (a b : ColumnFlags) : Bool := a.bits &&& b.bits == b.bits

/-- The twelve lowest bits. -/
def defined : ColumnFlags := ⟨0xFFF⟩

def ofBits (bits : UInt16) : ColumnFlags := ⟨bits &&& defined.bits⟩

end ColumnFlags

end SqlWire
