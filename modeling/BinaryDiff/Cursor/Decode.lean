import BinaryDiff.Failure
import BinaryDiff.Files.Database
import BinaryDiff.Store.Schema

/-! # From rows to matches

A row of a match table is a match when it can be fetched and both of its cells are integers that
stand for addresses of the width in force. Otherwise reading stops with a failure that names the
row and the first of its columns that is at fault. -/

namespace BinaryDiff

/-- What every row of a match table is read with. -/
structure RowReader where
  /-- The path of the store, for messages. -/
  path : String
  granularity : Granularity
  /-- The number of bits in an address. -/
  width : Int
deriving DecidableEq, Repr

namespace RowReader

/-- The complaint about a cell that is no integer. -/
def notAnAddress (reader : RowReader) (index : Nat) (column : String) (value : Value) : Failure :=
  .diff (.schema reader.path reader.granularity.table
    s!"row {index}: {column} is not an integer address"
    (some (.text "INTEGER")) (some (.text value.typeName)))

/-- The complaint about an address that needs too many bits. -/
def tooWide (reader : RowReader) (index : Nat) (column : String) (raw : Int) : Failure :=
  .diff (.schema reader.path reader.granularity.table
    s!"row {index}: {column} value {Hex.signed raw} exceeds address width"
    (some (.text s!"< 2**{reader.width}")) (some (.text (Hex.signed raw))))

/-- The address that an integer stands for under a width, which must not be negative. -/
def widthChecked (raw width : Int) : Except Failure (Option Int) :=
  if width < 0 then .error .negativeWidth else .ok (toAddress raw width.toNat)

/-- The address in a cell. -/
def address (reader : RowReader) (index : Nat) (column : String) (value : Value) :
    Except Failure Int :=
  match value with
  | .integer raw =>
    match widthChecked raw reader.width with
    | .error failure => .error failure
    | .ok none => .error (reader.tooWide index column raw)
    | .ok (some address) => .ok address
  | value => .error (reader.notAnAddress index column value)

/-- The match in a row. -/
def pair (reader : RowReader) (index : Nat) (row : FetchedRow) : Except Failure AddressPair :=
  match row with
  | .error error => .error (.ofError reader.path error)
  | .ok values => do
    let primary ← reader.address index "address1" (values.getD 0 .null)
    let secondary ← reader.address index "address2" (values.getD 1 .null)
    return ⟨primary, secondary⟩

end RowReader

/-- What a source of matches hands out: some matches, and then its end or a failure. -/
structure Feed where
  pairs : List AddressPair
  failure : Option Failure
deriving DecidableEq, Repr

namespace Feed

/-- A feed with a match in front. -/
def cons (pair : AddressPair) (feed : Feed) : Feed := { feed with pairs := pair :: feed.pairs }

/-- The first matches of a feed, as many as a limit allows. The failure at the end of the feed is
met only if more matches are wanted than come before it. -/
def take (limit : Nat) (feed : Feed) : Except Failure (List AddressPair) :=
  match feed.failure with
  | some failure =>
    if feed.pairs.length < limit then .error failure else .ok (feed.pairs.take limit)
  | none => .ok (feed.pairs.take limit)

end Feed

/-- The matches in rows, the first of which has a given number. -/
def RowReader.feed (reader : RowReader) (index : Nat) : List FetchedRow → Feed
  | [] => ⟨[], none⟩
  | row :: rows =>
    match reader.pair index row with
    | .error failure => ⟨[], some failure⟩
    | .ok pair => (reader.feed (index + 1) rows).cons pair

end BinaryDiff
