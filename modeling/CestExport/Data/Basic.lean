import CestExport.Calendar
import CestExport.Number.Binary64

/-!
# Data

The values that data files hold: JSON and YAML documents are read into them, and
recordings and settings are made from them.

A collection may hold itself.  Then it stands in `loop` under a label, and inside
it `again` with that label stands for it.  Every `again` stands inside the `loop`
with its label; `opened` keeps this for the parts of a collection that are looked
at by themselves.
-/

namespace CestExport

/-- The kinds of collections. -/
inductive CollectionKind
  | list
  | set
  | table
  /-- A table whose entries are told in order. -/
  | ordered
deriving DecidableEq, Repr

/-- A value read from a data file. -/
inductive Data
  | null
  | bool (b : Bool)
  | whole (n : Int)
  | real (x : Number.Binary64)
  | text (s : String)
  | date (d : Day)
  | moment (m : Moment)
  | bytes (content : List UInt8)
  | list (items : List Data)
  /-- A list that is a key, or the two parts of a pair. -/
  | tuple (items : List Data)
  | set (members : List Data)
  | table (entries : List (Data × Data))
  | ordered (entries : List (Data × Data))
  /-- A collection that holds itself. -/
  | loop (label : Nat) (content : Data)
  /-- The collection around this place that has a label. -/
  | again (label : Nat) (kind : CollectionKind)

namespace Data

/-! ## Collections that hold themselves -/

mutual

/-- A value in which a collection stands for its label. -/
def fill (label : Nat) (whole : Data) : Data → Data
  | list ds => list (fillItems label whole ds)
  | tuple ds => tuple (fillItems label whole ds)
  | table es => table (fillEntries label whole es)
  | ordered es => ordered (fillEntries label whole es)
  | loop l d => if l = label then loop l d else loop l (fill label whole d)
  | again l k => if l = label then whole else again l k
  | d => d

/-- Values in which a collection stands for its label. -/
def fillItems (label : Nat) (whole : Data) : List Data → List Data
  | [] => []
  | d :: ds => fill label whole d :: fillItems label whole ds

/-- Entries in whose values a collection stands for its label; keys hold no collections. -/
def fillEntries (label : Nat) (whole : Data) : List (Data × Data) → List (Data × Data)
  | [] => []
  | (k, v) :: es => (k, fill label whole v) :: fillEntries label whole es

end

/-- A collection whose parts may be looked at by themselves. -/
def opened : Data → Data
  | loop l d => fill l (loop l d) d
  | d => d

mutual

/-- The labels in a value that stand for collections around it. -/
def labels : Data → List Nat
  | list ds => labelsOfItems ds
  | tuple ds => labelsOfItems ds
  | table es => labelsOfEntries es
  | ordered es => labelsOfEntries es
  | loop l d => (labels d).filter (· != l)
  | again l _ => [l]
  | _ => []

/-- The labels in values that stand for collections around them. -/
def labelsOfItems : List Data → List Nat
  | [] => []
  | d :: ds => labels d ++ labelsOfItems ds

/-- The labels in the values of entries that stand for collections around them. -/
def labelsOfEntries : List (Data × Data) → List Nat
  | [] => []
  | (_, v) :: es => labels v ++ labelsOfEntries es

end

/-! ## Parts -/

/-- The items of a value, if it is a collection of items. -/
def items? (d : Data) : Option (List Data) :=
  match d.opened with
  | list ds => some ds
  | tuple ds => some ds
  | set ds => some ds
  | _ => none

/-- The entries of a value, if it is a collection of entries. -/
def entries? (d : Data) : Option (List (Data × Data)) :=
  match d.opened with
  | table es => some es
  | ordered es => some es
  | _ => none

/-- The value of a key that is a text. -/
def find? (key : String) : List (Data × Data) → Option Data
  | [] => none
  | (.text k, v) :: es => if k = key then some v else find? key es
  | _ :: es => find? key es

/-! ## Keys -/

/-- The number that a value stands for as a key: a signed numerator and a denominator. -/
def number? : Data → Option (Int × Nat)
  | bool b => some (if b then 1 else 0, 1)
  | whole n => some (n, 1)
  | real (.finite negative m e) =>
    let (n, d) := Number.Binary64.ratio m e
    some (if negative then -(n : Int) else n, d)
  | _ => none

/-- Whether two values without parts are the same key; numbers are compared by value. -/
def sameLeaf (a b : Data) : Bool :=
  match a.number?, b.number? with
  | some (n, d), some (m, e) => n * e == m * d
  | none, none =>
    match a, b with
    | null, null => true
    | real x, real y => x == y
    | text s, text t => s == t
    | date d, date e => d == e
    | moment m, moment n => m.same n
    | bytes xs, bytes ys => xs == ys
    | _, _ => false
  | _, _ => false

mutual

/-- Whether two values are the same key. -/
def same : Data → Data → Bool
  | tuple xs, tuple ys => sameItems xs ys
  | a, b => sameLeaf a b

/-- Whether the items of two tuples are the same. -/
def sameItems : List Data → List Data → Bool
  | [], [] => true
  | x :: xs, y :: ys => same x y && sameItems xs ys
  | _, _ => false

end

/-- Entries with a key given a value; a key that is there already keeps its place. -/
def put {α : Type} (k : Data) (v : α) : List (Data × α) → List (Data × α)
  | [] => [(k, v)]
  | e :: es => if same k e.1 then (e.1, v) :: es else e :: put k v es

/-! ## Sets -/

/-- The whole number that a member of a set is, if it is one. -/
def wholeMember? : Data → Option Int
  | bool b => some (if b then 1 else 0)
  | whole n => some n
  | _ => none

/-- The number whose remainders order the whole numbers of a set, from their count. -/
def setModulus (count : Nat) : Nat :=
  if count < 5 then 8 else Number.twoTo (Nat.log2 (2 * count) + 1)

/-- The place of a member in a set of some members. -/
def setPlace (count : Nat) (d : Data) : Int :=
  (d.wholeMember?.getD 0) % (setModulus count : Int)

/-- The members of a set in their order: whole numbers by their remainders, all others as they
were put in. -/
def inSetOrder (members : List Data) : List Data :=
  if members.all fun d => d.wholeMember?.isSome then
    members.mergeSort fun a b => setPlace members.length a ≤ setPlace members.length b
  else members

end Data

end CestExport
