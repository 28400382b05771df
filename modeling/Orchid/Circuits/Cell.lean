import Orchid.Crypto.TorStreamCipher
import Orchid.Lib.Segment

/-!
# Orchid — cells

Cells are 512 bytes: three of header, and a payload the layers of encryption cover. A relay
cell has a header of its own inside the payload, with the relay command at 3, *recognized* at
4, the stream id at 6, the digest at 8, the length at 12 and the data from 14 on.

`CellBytes` is the array behind a cell, with its length. A `Cell` also has the position, mark
and limit of the Java buffer around that array; a `RelayCell` has the node it belongs to.

* **`encryptPayload_encryptPayload`**, `encryptPayload_state`: the stream cipher on a cell.
* **`Outgoing`**: what every relay cell satisfies while it is filled in (`outgoing_create`).
-/

namespace Orchid

open Segment

/-! ## The bytes of a cell -/

def CELL_LEN : Nat := 512
def CELL_HEADER_LEN : Nat := 3
def CELL_PAYLOAD_LEN : Nat := CELL_LEN - CELL_HEADER_LEN

structure CellBytes where
  bytes : List UInt8
  length_eq : bytes.length = CELL_LEN
  deriving DecidableEq

namespace CellBytes

def getByteAt (c : CellBytes) (index : Nat) : Nat := (c.bytes.getD index 0).toNat

def getShortAt (c : CellBytes) (index : Nat) : Nat :=
  c.getByteAt index * 256 + c.getByteAt (index + 1)

/-- Consecutive bytes, from `index` on. -/
def getBytesAt (c : CellBytes) (index n : Nat) : List UInt8 := segment c.bytes index n

/-- Write consecutive bytes; writing past the end is not possible and changes nothing. -/
def putBytesAt (c : CellBytes) (index : Nat) (data : List UInt8) : CellBytes :=
  if h : index + data.length ≤ CELL_LEN then
    ⟨overwrite c.bytes index data, by rw [overwrite_length (by rw [c.length_eq]; exact h), c.length_eq]⟩
  else c

/-- The two bytes of a Java `short`. -/
def shortBytes (value : Nat) : List UInt8 := [UInt8.ofNat (value / 256), UInt8.ofNat value]

def putShortAt (c : CellBytes) (index value : Nat) : CellBytes :=
  c.putBytesAt index (shortBytes value)

/-- The bytes digests and ciphers work on. -/
def payload (c : CellBytes) : List UInt8 := c.getBytesAt CELL_HEADER_LEN CELL_PAYLOAD_LEN

variable (c : CellBytes)

theorem putBytesAt_bytes {index : Nat} {data : List UInt8} (h : index + data.length ≤ CELL_LEN) :
    (c.putBytesAt index data).bytes = overwrite c.bytes index data := by
  unfold putBytesAt
  rw [dif_pos h]

@[ext] theorem ext {c d : CellBytes} (h : c.bytes = d.bytes) : c = d := by
  cases c
  cases d
  cases h
  rfl

variable {c : CellBytes} {index i n : Nat} {data data' : List UInt8}

theorem getBytesAt_length (h : index + n ≤ CELL_LEN) : (c.getBytesAt index n).length = n :=
  segment_length (by rw [c.length_eq]; exact h)

theorem getBytesAt_putBytesAt (h : index + data.length ≤ CELL_LEN) (hn : data.length = n) :
    (c.putBytesAt index data).getBytesAt index n = data := by
  subst hn
  unfold getBytesAt
  rw [putBytesAt_bytes c h, segment_overwrite (by rw [c.length_eq]; exact h)]

theorem getBytesAt_putBytesAt_before (hi : i + n ≤ index) (h : index + data.length ≤ CELL_LEN) :
    (c.putBytesAt index data).getBytesAt i n = c.getBytesAt i n := by
  unfold getBytesAt
  rw [putBytesAt_bytes c h, segment_overwrite_before hi (by rw [c.length_eq]; exact h)]

theorem getBytesAt_putBytesAt_behind (hi : index + data.length ≤ i)
    (h : index + data.length ≤ CELL_LEN) :
    (c.putBytesAt index data).getBytesAt i n = c.getBytesAt i n := by
  unfold getBytesAt
  rw [putBytesAt_bytes c h, segment_overwrite_behind hi (by rw [c.length_eq]; exact h)]

theorem putBytesAt_putBytesAt (h : index + data.length ≤ CELL_LEN)
    (hlength : data.length = data'.length) :
    (c.putBytesAt index data).putBytesAt index data' = c.putBytesAt index data' := by
  apply ext
  rw [putBytesAt_bytes _ (by rw [← hlength]; exact h), putBytesAt_bytes _ h,
    putBytesAt_bytes _ (by rw [← hlength]; exact h),
    overwrite_overwrite hlength (by rw [c.length_eq]; exact h)]

/-- Putting bytes back undoes a change. -/
theorem putBytesAt_getBytesAt (h : index + data.length ≤ CELL_LEN) (hn : data.length = n) :
    (c.putBytesAt index data).putBytesAt index (c.getBytesAt index n) = c := by
  subst hn
  have hlength : (c.getBytesAt index data.length).length = data.length := getBytesAt_length h
  apply ext
  rw [putBytesAt_bytes _ (by rw [hlength]; exact h), putBytesAt_bytes _ h]
  exact overwrite_segment (by rw [c.length_eq]; exact h)

/-- Bytes written over themselves change nothing. -/
theorem putBytesAt_self (h : index + n ≤ CELL_LEN) :
    c.putBytesAt index (c.getBytesAt index n) = c := by
  have hlength : (c.getBytesAt index n).length = n := getBytesAt_length h
  apply ext
  rw [putBytesAt_bytes _ (by rw [hlength]; exact h)]
  exact overwrite_self (by rw [c.length_eq]; exact h)

/-- Numbers in a cell are read from its bytes. -/
theorem getByteAt_eq (index : Nat) :
    c.getByteAt index = ((c.getBytesAt index 1).headD 0).toNat := by
  unfold getByteAt getBytesAt Segment.segment
  rw [List.getD_eq_getElem?_getD, ← List.head?_drop]
  cases c.bytes.drop index <;> rfl

theorem getShortAt_eq (index : Nat) :
    c.getShortAt index =
      ((c.getBytesAt index 2).headD 0).toNat * 256 + ((c.getBytesAt index 2).getD 1 0).toNat := by
  unfold getShortAt getByteAt getBytesAt Segment.segment
  rw [List.getD_eq_getElem?_getD, List.getD_eq_getElem?_getD, List.getD_eq_getElem?_getD,
    List.getElem?_take_of_lt (by omega), List.getElem?_drop, ← List.head?_drop]
  cases c.bytes.drop index <;> rfl

/-- A number that fits into two bytes is read back. -/
theorem getShortAt_putShortAt {value : Nat} (h : index + 2 ≤ CELL_LEN) (hvalue : value < 65536) :
    (c.putShortAt index value).getShortAt index = value := by
  have hlength : (shortBytes value).length = 2 := rfl
  rw [getShortAt_eq, putShortAt, getBytesAt_putBytesAt h hlength]
  show (UInt8.ofNat (value / 256)).toNat * 256 + (UInt8.ofNat value).toNat = value
  rw [UInt8.toNat_ofNat', UInt8.toNat_ofNat']
  omega

end CellBytes

/-! ## The cipher on a cell -/

namespace TorStreamCipher

variable (P : Platform)

/-- `encrypt(cell.getCellBytes(), CELL_HEADER_LEN, CELL_PAYLOAD_LEN)`. -/
def encryptPayload (cipher : TorStreamCipher) (c : CellBytes) : CellBytes × TorStreamCipher :=
  (⟨(cipher.encryptRange P c.bytes CELL_HEADER_LEN CELL_PAYLOAD_LEN).1, by
      rw [encryptRange_length P cipher (by rw [c.length_eq]; decide), c.length_eq]⟩,
    (cipher.encryptRange P c.bytes CELL_HEADER_LEN CELL_PAYLOAD_LEN).2)

/-- Where the cipher stands does not depend on the cell. -/
theorem encryptPayload_state (cipher : TorStreamCipher) (c : CellBytes) :
    (cipher.encryptPayload P c).2 = cipher.skip P CELL_PAYLOAD_LEN :=
  encryptRange_state P cipher (by rw [c.length_eq]; decide)

/-- A cipher in the same state takes the layer off again. -/
theorem encryptPayload_encryptPayload (cipher : TorStreamCipher) (c : CellBytes) :
    (cipher.encryptPayload P (cipher.encryptPayload P c).1).1 = c := by
  apply CellBytes.ext
  exact encryptRange_encryptRange P cipher (by rw [c.length_eq]; decide)

end TorStreamCipher

/-! ## Cells -/

namespace Cell

def CREATED : Nat := 2
def RELAY : Nat := 3
def DESTROY : Nat := 4
def CREATE_FAST : Nat := 5
def CREATED_FAST : Nat := 6
def VERSIONS : Nat := 7
def NETINFO : Nat := 8
def RELAY_EARLY : Nat := 9
def CERTS : Nat := 129
def AUTH_CHALLENGE : Nat := 130

def ERROR_PROTOCOL : Nat := 1

/-- `CellImpl.errorToDescription`. -/
def errorToDescription (errorCode : Nat) : JString :=
  match errorCode with
  | 0 => lit "No error reason given"
  | 1 => lit "Tor protocol violation"
  | 2 => lit "Internal error"
  | 3 => lit "Response to a TRUNCATE command sent from client"
  | 4 => lit "Not currently operating; trying to save bandwidth."
  | 5 => lit "Out of memory, sockets, or circuit IDs."
  | 6 => lit "Unable to reach server."
  | 7 => lit "Connected to server, but its OR identity was not as expected."
  | 8 => lit "The OR connection that was carrying this circuit died."
  | 9 => lit "The circuit has expired for being dirty or old."
  | 10 => lit "Circuit construction took too long."
  | 11 => lit "The circuit was destroyed without client TRUNCATE"
  | 12 => lit "Request for unknown hidden service"
  | _ => lit "Error code " ++ showInt errorCode

end Cell

/-- A cell: the two header values, and the Java buffer around its bytes. -/
structure Cell where
  circuitId : Nat
  command : Nat
  cellBytes : CellBytes
  position : Nat
  mark : Nat
  limit : Nat
  deriving DecidableEq

namespace Cell

/-- The bytes of a new cell: the header, and zeros. -/
def headerBytes (circuitId command : Nat) : CellBytes :=
  ⟨CellBytes.shortBytes circuitId ++ [UInt8.ofNat command] ++ List.replicate CELL_PAYLOAD_LEN 0, by
    rw [List.length_append, List.length_replicate]
    rfl⟩

/-- `CellImpl.createCell`. -/
def createCell (circuitId command : Nat) : Cell :=
  ⟨circuitId, command, headerBytes circuitId command, CELL_HEADER_LEN, CELL_HEADER_LEN, CELL_LEN⟩

/-- The relative `put`s of the buffer. -/
def put (c : Cell) (data : List UInt8) : Except JavaException Cell :=
  if c.position + data.length ≤ c.limit then
    .ok { c with
      cellBytes := c.cellBytes.putBytesAt c.position data
      position := c.position + data.length }
  else .error .bufferOverflow

def putByte (c : Cell) (value : Nat) : Except JavaException Cell := c.put [UInt8.ofNat value]

def putShort (c : Cell) (value : Nat) : Except JavaException Cell :=
  c.put (CellBytes.shortBytes value)

def putByteArray (c : Cell) (data : List UInt8) : Except JavaException Cell := c.put data

/-- What the relative `get`s have not read yet. -/
def remaining (c : Cell) : List UInt8 := c.cellBytes.getBytesAt c.position (c.limit - c.position)

def cellBytesRemaining (c : Cell) : Nat := c.limit - c.position

def cellBytesConsumed (c : Cell) : Nat := c.position

end Cell

/-! ## Relay cells -/

namespace RelayCell

def LENGTH_OFFSET : Nat := 12
def RECOGNIZED_OFFSET : Nat := 4
def DIGEST_OFFSET : Nat := 8
def HEADER_SIZE : Nat := 14

def RELAY_BEGIN : Nat := 1
def RELAY_DATA : Nat := 2
def RELAY_END : Nat := 3
def RELAY_CONNECTED : Nat := 4
def RELAY_SENDME : Nat := 5
def RELAY_EXTEND : Nat := 6
def RELAY_EXTENDED : Nat := 7
def RELAY_TRUNCATE : Nat := 8
def RELAY_TRUNCATED : Nat := 9
def RELAY_DROP : Nat := 10
def RELAY_RESOLVE : Nat := 11
def RELAY_RESOLVED : Nat := 12
def RELAY_BEGIN_DIR : Nat := 13
def RELAY_EXTEND2 : Nat := 14
def RELAY_EXTENDED2 : Nat := 15
def RELAY_COMMAND_RENDEZVOUS2 : Nat := 37
def RELAY_COMMAND_RENDEZVOUS_ESTABLISHED : Nat := 39
def RELAY_COMMAND_INTRODUCE_ACK : Nat := 40

/-- `RelayCellImpl.commandToDescription`. -/
def commandToDescription (command : Nat) : JString :=
  match command with
  | 1 => lit "RELAY_BEGIN"
  | 2 => lit "RELAY_DATA"
  | 3 => lit "RELAY_END"
  | 4 => lit "RELAY_CONNECTED"
  | 5 => lit "RELAY_SENDME"
  | 6 => lit "RELAY_EXTEND"
  | 7 => lit "RELAY_EXTENDED"
  | 8 => lit "RELAY_TRUNCATE"
  | 9 => lit "RELAY_TRUNCATED"
  | 10 => lit "RELAY_DROP"
  | 11 => lit "RELAY_RESOLVE"
  | 12 => lit "RELAY_RESOLVED"
  | 13 => lit "RELAY_BEGIN_DIR"
  | 14 => lit "RELAY_EXTEND2"
  | 15 => lit "RELAY_EXTENDED2"
  | _ => lit "Relay command = " ++ showInt command

end RelayCell

/-- A relay cell and the node it goes to or comes from, by its position in the circuit. -/
structure RelayCell extends Cell where
  circuitNode : Nat
  relayCommand : Nat
  streamId : Nat
  deriving DecidableEq

namespace RelayCell

/-- The bytes of a relay cell that has no data yet: *recognized*, digest and length are zero. -/
def headerBytes (circuit stream relayCommand command : Nat) : CellBytes :=
  ⟨CellBytes.shortBytes circuit ++ [UInt8.ofNat command, UInt8.ofNat relayCommand, 0, 0] ++
      CellBytes.shortBytes stream ++ List.replicate (CELL_LEN - 8) 0, by
    rw [List.length_append, List.length_replicate]
    rfl⟩

/-- The constructor for outgoing cells. -/
def create (node circuit stream relayCommand : Nat) (isRelayEarly : Bool) : RelayCell :=
  let command := if isRelayEarly then Cell.RELAY_EARLY else Cell.RELAY
  { circuitId := circuit
    command := command
    cellBytes := headerBytes circuit stream relayCommand command
    position := HEADER_SIZE
    mark := CELL_HEADER_LEN
    limit := CELL_LEN
    circuitNode := node
    relayCommand := relayCommand
    streamId := stream }

/-- `RelayCellImpl.createFromCell`, with the constructor for incoming cells. -/
def createFromCell (node : Nat) (cell : Cell) : Except JavaException RelayCell :=
  let raw := cell.cellBytes
  let payloadLength := raw.getShortAt LENGTH_OFFSET
  if cell.command ≠ Cell.RELAY then
    .error (.tor (lit "Attempted to create RelayCell from Cell type: " ++ showInt cell.command))
  else if HEADER_SIZE + payloadLength > CELL_LEN then
    .error (.tor (lit "Header length field exceeds total size of cell"))
  else
    .ok { circuitId := raw.getShortAt 0
          command := raw.getByteAt 2
          cellBytes := raw
          position := HEADER_SIZE
          mark := HEADER_SIZE
          limit := HEADER_SIZE + payloadLength
          circuitNode := node
          relayCommand := raw.getByteAt CELL_HEADER_LEN
          streamId := raw.getShortAt 6 }

/-- What is known of an incoming relay cell. -/
structure Decoded (node : Nat) (cell : Cell) (relayCell : RelayCell) : Prop where
  command : cell.command = Cell.RELAY
  limit : relayCell.limit = HEADER_SIZE + cell.cellBytes.getShortAt LENGTH_OFFSET
  limit_le : relayCell.limit ≤ CELL_LEN
  position : relayCell.position = HEADER_SIZE
  circuitNode : relayCell.circuitNode = node
  relayCommand : relayCell.relayCommand = cell.cellBytes.getByteAt CELL_HEADER_LEN
  streamId : relayCell.streamId = cell.cellBytes.getShortAt 6

theorem createFromCell_ok {node : Nat} {cell : Cell} {relayCell : RelayCell}
    (h : createFromCell node cell = .ok relayCell) : Decoded node cell relayCell := by
  unfold createFromCell at h
  dsimp only at h
  split at h
  · cases h
  · rename_i hcommand
    split at h
    · cases h
    · rename_i hlength
      cases h
      exact ⟨not_not.mp hcommand, rfl, Nat.not_lt.mp hlength, rfl, rfl, rfl, rfl⟩

/-- A put on the cell underneath. -/
def put (c : RelayCell) (data : List UInt8) : Except JavaException RelayCell := do
  let cell ← c.toCell.put data
  return { c with toCell := cell }

def putByte (c : RelayCell) (value : Nat) : Except JavaException RelayCell :=
  c.put [UInt8.ofNat value]

def putShort (c : RelayCell) (value : Nat) : Except JavaException RelayCell :=
  c.put (CellBytes.shortBytes value)

def putByteArray (c : RelayCell) (data : List UInt8) : Except JavaException RelayCell := c.put data

def setLength (c : RelayCell) : RelayCell :=
  { c with cellBytes := c.cellBytes.putShortAt LENGTH_OFFSET (c.position - HEADER_SIZE) }

/-- `setDigest` writes the first four bytes it is given. -/
def setDigest (c : RelayCell) (digest : List UInt8) : RelayCell :=
  { c with cellBytes := c.cellBytes.putBytesAt DIGEST_OFFSET (digest.take 4) }

/-- A cell that is being filled in: its header is that of a relay cell of this command and stream,
with *recognized* and the digest still zero. -/
structure Outgoing (c : RelayCell) : Prop where
  header_le : HEADER_SIZE ≤ c.position
  position_le : c.position ≤ CELL_LEN
  limit : c.limit = CELL_LEN
  relayCommand : c.cellBytes.getByteAt CELL_HEADER_LEN = c.relayCommand
  recognized : c.cellBytes.getShortAt RECOGNIZED_OFFSET = 0
  streamId : c.cellBytes.getShortAt 6 = c.streamId
  digest : c.cellBytes.getBytesAt DIGEST_OFFSET 4 = [0, 0, 0, 0]

/-- New cells are such, for commands of one byte and stream ids of two. -/
theorem outgoing_create (node circuit : Nat) {stream relayCommand : Nat} (isRelayEarly : Bool)
    (hstream : stream < 65536) (hcommand : relayCommand < 256) :
    Outgoing (create node circuit stream relayCommand isRelayEarly) := by
  refine ⟨Nat.le_refl _, ?_, rfl, ?_, ?_, ?_, ?_⟩
  · show HEADER_SIZE ≤ CELL_LEN
    decide
  · show (UInt8.ofNat relayCommand).toNat = relayCommand
    rw [UInt8.toNat_ofNat']
    omega
  · show (0 : UInt8).toNat * 256 + (0 : UInt8).toNat = 0
    rfl
  · show (UInt8.ofNat (stream / 256)).toNat * 256 + (UInt8.ofNat stream).toNat = stream
    rw [UInt8.toNat_ofNat', UInt8.toNat_ofNat']
    omega
  · -- eight bytes of header in front, zeros from there on
    have hdrop : (headerBytes circuit stream relayCommand
        (if isRelayEarly then Cell.RELAY_EARLY else Cell.RELAY)).bytes.drop 8 =
          List.replicate (CELL_LEN - 8) 0 := List.drop_left' rfl
    unfold create CellBytes.getBytesAt Segment.segment
    rw [show DIGEST_OFFSET = 8 from rfl, hdrop, List.take_replicate]
    rfl

end RelayCell

end Orchid
