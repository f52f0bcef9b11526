import CatalogSchema.Catalog.Snapshot
import CatalogSchema.FirstCome
import CatalogSchema.Log.Record
import CatalogSchema.Typing.Classification

/-!
# Aggregates

An aggregate qualifies when it takes one argument, none of it direct, and both its argument and its
result are scalar types. For each argument type and name the one with the least result type is kept.
-/

namespace CatalogSchema

open Decoder (field record)

structure Aggregate where
  proc : Int
  name : String
  schema : Int
  argumentType : String
  returnType : String
  deriving DecidableEq, Repr

namespace Aggregate

def decode : Decoder Aggregate := record fun ms =>
  mk <$> field (.plain "proc_id") .int ms
    <*> field (.plain "name") .text ms
    <*> field (.plain "schema_id") .int ms
    <*> field (.plain "argument_type") .text ms
    <*> field (.plain "return_type") .text ms

def encode (a : Aggregate) : Json :=
  .obj
    [("proc_id", .int a.proc), ("name", .str a.name), ("schema_id", .int a.schema),
     ("argument_type", .str a.argumentType), ("return_type", .str a.returnType)]

/-- Bound as an aggregate that takes no direct arguments. -/
def isPlain (s : Snapshot) (p : ProcRow) : Bool :=
  (s.aggregate? p.oid).any (·.directArguments = 0)

def ofProc? (s : Snapshot) (types : Classification) (p : ProcRow) : Option Aggregate :=
  if isPlain s p then
    match p.argumentTypes with
    | [argument] => do
      let argumentType ← types.scalarName? argument
      let returnType ← types.scalarName? p.returnType
      some ⟨p.oid, p.name, p.schema, argumentType, returnType⟩
    | _ => none
  else none

/-- An aggregate is identified by its argument type and name. -/
def key (a : Aggregate) : String × String := (a.argumentType, a.name)

/-- By argument type, name and result type. -/
def compareCandidates : Aggregate → Aggregate → Ordering :=
  compareLex (compareOn argumentType) (byTwo name returnType)

def bids (s : Snapshot) (types : Classification) : List (Bid Aggregate) :=
  Bid.settle key [] (sortBy compareCandidates (s.rows.procs.filterMap (ofProc? s types)))

def ofSnapshot (s : Snapshot) (types : Classification) : List Aggregate :=
  Bid.winners (bids s types)

def records (bids : List (Bid Aggregate)) : List Log.Record :=
  (Bid.losers bids).map (fun (a, holder) =>
    Log.Logger.aggregates.debug <|
      s!"Ignoring aggregate {a.name}({a.argumentType}) returning {a.returnType}, " ++
        s!"already resolved to {holder.returnType}") ++
    [Log.Logger.aggregates.debug s!"Resolved {(Bid.winners bids).length} aggregate functions"]

end Aggregate

end CatalogSchema
