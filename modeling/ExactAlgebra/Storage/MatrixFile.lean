import ExactAlgebra.Matrix.Operations
import ExactAlgebra.Matrix.Reader
import ExactAlgebra.Operand.Text
import ExactAlgebra.Storage.Encoding
import ExactAlgebra.Storage.Gzip
import ExactAlgebra.Storage.Record

/-!
# Matrices in files

A matrix is kept in a file in one of two ways: as records, one a row, with the text form of a quantity
in each field; or as its text form, compressed. Either way the text is in some encoding.

Records are read more freely than they are written. Blanks around a quantity do not matter, and records
that hold nothing but blanks are skipped, though they count where a record is named by its number. A
file of records is read up to what cannot be decoded, so that a value that comes before it is
noticed first. A compressed file is unpacked and decoded as a whole.

## Main definitions

* `File`: what there is under a path.
* `File.readRecords`, `File.load`: reading.
* `Operand.writeRecords`, `Operand.save`: writing.
-/

namespace ExactAlgebra

/-- What there is under a path: bytes, or nothing. -/
structure File where
  /-- The path. -/
  path : String
  /-- The bytes of the file, if there is one. -/
  bytes? : Option (List UInt8)

namespace File

/-- The bytes of the file. -/
def bytes (f : File) : Except Error (List UInt8) :=
  orFail (.file (.missing f.path)) f.bytes?

/-! ## Records -/

/-- A record that holds no more than blanks. -/
def isBlankRecord (r : Record) : Bool :=
  r.all fun field => (Text.strip field).isEmpty

/-- The quantities of records that are not blank. The number is that of the first record. -/
def recordRows (path : String) (number : Nat) : List Record → Except Error (List (List Quantity))
  | [] => .ok []
  | r :: rs =>
    if isBlankRecord r then recordRows path (number + 1) rs
    else do
      let row ← (r.mapM fun field => Quantity.read (Text.strip field)).mapError
        fun _ => .reading (.record number path)
      return row :: (← recordRows path (number + 1) rs)

/-- The records of a text on its way in. -/
def incomingRecords (incoming : Incoming) : List Record :=
  match incoming.fault? with
  | none => Record.readAll incoming.text
  | some _ => Record.readCertain incoming.text

/-- Reads the matrix of a file of records. -/
def readRecords (f : File) (encoding : String) : Logged Matrix := do
  let bytes ← f.bytes
  let e ← Encoding.ofName encoding
  let incoming := e.read bytes
  let rows ← recordRows f.path 1 (incomingRecords incoming)
  match incoming.fault? with
  | some fault => .fail (.file fault)
  | none => if rows.isEmpty then .fail (.reading (.noMatrix f.path)) else Matrix.fromRows rows

/-! ## Compressed text -/

/-- The text of unpacked bytes. Without bytes there is nothing that an encoding could be needed for. -/
def unpackedText (path encoding : String) (bytes : List UInt8) : Except Error (List Char) :=
  if bytes.isEmpty then .ok []
  else do
    let e ← Encoding.ofName encoding
    (e.decode bytes).mapError fun _ => .reading (.corrupted path)

/-- Reads the matrix of a compressed file. -/
def load (f : File) (encoding : String) : Logged Matrix := do
  let packed ← f.bytes
  let bytes ← orFail (.reading (.corrupted f.path)) (Gzip.unpack? packed)
  let text ← unpackedText f.path encoding bytes
  Logged.report (.loaded f.path)
  Matrix.parse (String.ofList text)

end File

namespace Matrix

/-- The records of a matrix. -/
def recordText (m : Matrix) : List Char :=
  m.rows.flatMap fun row => Record.write (row.map Quantity.text)

end Matrix

namespace Operand

/-- Writes a matrix as records: the number of rows, and the bytes of the file. -/
def writeRecords (v : Operand) (path encoding : String) : Logged (Nat × List UInt8) := do
  let e ← Encoding.ofName encoding
  let m ← v.toMatrix "row_count"
  Logged.report (.wrote m.rowCount m.columnCount path)
  return (m.rowCount, e.encode m.recordText)

/-- Writes a matrix as a compressed file: the bytes of the file. The text of the value is encoded before
the value is asked whether it is a matrix. -/
def save (v : Operand) (path encoding : String) : Logged (List UInt8) := do
  let e ← Encoding.ofName encoding
  if let some fault := e.unencodable? v.plain then .fail (.file (.unencodable fault))
  let m ← v.toMatrix "row_count"
  Logged.report (.saved m.rowCount m.columnCount path)
  return Gzip.pack (e.encode m.text)

end Operand

end ExactAlgebra
