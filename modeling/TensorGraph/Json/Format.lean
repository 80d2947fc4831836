import TensorGraph.Number.Binary32
import TensorGraph.Number.Extent

set_option autoImplicit false

/- What the library that writes and reads JSON offers: values to build and to look into, and their
   texts. A record is an object with the names of its members as keys. A choice is its tag, or an object
   with the tag as its only key. -/
namespace TensorGraph

structure JsonFormat (J : Type) where
  null : J
  text : String → J
  extent : Extent → J
  identifier : Nat → J
  int32 : Int32 → J
  float : Binary32 → J
  number : Bool → Decimal → J
  list : List J → J
  record : List (String × J) → J
  tagged : String → J → J
  isNull : J → Bool
  text? : J → Option String
  extent? : J → Option Extent
  identifier? : J → Option Nat
  int32? : J → Option Int32
  float? : J → Option Binary32
  list? : J → Option (List J)
  members? : List String → J → Option (List (Option J))
  choice? : J → Option (String × Option J)
  write : J → String
  read? : String → Option J

namespace JsonFormat

variable {J : Type} (format : JsonFormat J)

def extents (extents : List Extent) : J := format.list (extents.map format.extent)

def extents? (value : J) : Option (List Extent) :=
  (format.list? value).bind fun items => items.mapM format.extent?

-- The members of a record of which none may be missing.
def allMembers? (keys : List String) (value : J) : Option (List J) :=
  (format.members? keys value).bind (·.mapM id)

-- A tag that carries nothing may be written with null.
def isBare : Option J → Bool
  | none => true
  | some payload => format.isNull payload

def bareChoice? (value : J) : Option String :=
  match format.choice? value with
  | some (tag, payload) => if format.isBare payload then some tag else none
  | none => none

-- The values that can be built.
inductive Built : J → Prop where
  | null : Built format.null
  | text (text : String) : Built (format.text text)
  | extent (n : Extent) : Built (format.extent n)
  | identifier (n : Nat) : Built (format.identifier n)
  | int32 (n : Int32) : Built (format.int32 n)
  | float (x : Binary32) : Built (format.float x)
  | list (items : List J) (all : ∀ item ∈ items, Built item) : Built (format.list items)
  | record (fields : List (String × J)) (all : ∀ field ∈ fields, Built field.2) :
      Built (format.record fields)
  | tagged (tag : String) (payload : J) (built : Built payload) : Built (format.tagged tag payload)

/- What is relied on. A value that is built is read back from its text, and shows what it was built from.
   A finite number is written in its shortest digits and other ones are null. A decimal number is read as
   the number nearest to it. -/
structure Lawful : Prop where
  reads : ∀ value, format.Built value → format.read? (format.write value) = some value
  null : format.isNull format.null = true
  text : ∀ text, format.text? (format.text text) = some text
  extent : ∀ n, format.extent? (format.extent n) = some n
  identifier : ∀ n < UInt32.size, format.identifier? (format.identifier n) = some n
  identifierBound : ∀ value n, format.identifier? value = some n → n < UInt32.size
  int32 : ∀ n, format.int32? (format.int32 n) = some n
  list : ∀ items, format.list? (format.list items) = some items
  record : ∀ fields, (fields.map Prod.fst).Nodup →
    format.members? (fields.map Prod.fst) (format.record fields) =
      some (fields.map fun field => some field.2)
  recordNotNull : ∀ fields, format.isNull (format.record fields) = false
  bare : ∀ tag, format.choice? (format.text tag) = some (tag, none)
  tagged : ∀ tag payload, format.choice? (format.tagged tag payload) = some (tag, some payload)
  shortest : ∀ x : Binary32, x.isFinite = true →
    ∃ tie, format.float x = format.number x.isNegative
      (BinaryFormat.single.shortestDecimal tie x.magnitude)
  nonFinite : ∀ x : Binary32, x.isFinite = false → format.float x = format.null
  nearest : ∀ negative d x, Binary32.ofDecimal? negative d = some x →
    format.float? (format.number negative d) = some x
  nullNoFloat : format.float? format.null = none

-- No infinity is read: a number bigger than the maximum value of its type is an error.
def ReadsFinite : Prop := ∀ value x, format.float? value = some x → x.isFinite = true

end JsonFormat

end TensorGraph
