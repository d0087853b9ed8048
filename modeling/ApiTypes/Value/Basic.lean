/-
Raw documents: trees of scalars, sequences and mappings.

A mapping keeps its entries in the order of the document, and its keys need not be texts. Keys are compared as numbers
where both are numbers or truth values, so that `1`, `1.0` and `true` are one key.

Main statements: `find?_put_self`, a key that was put is found with its value; `sizeOf_find?_lt`, what is found in a
mapping is smaller than the mapping, on which recursion over documents rests.
-/
import ApiTypes.Calendar
import ApiTypes.Number.Binary64

namespace ApiTypes

open ApiTypes.Number

inductive Value where
  | null
  | bool (b : Bool)
  | int (n : Int)
  | float (x : Binary64)
  | str (s : String)
  | date (d : Date)
  | moment (m : Moment)
  | list (items : List Value)
  | tuple (items : List Value)
  | map (entries : List (Value × Value))
  deriving Inhabited, Repr

/-- the entries of a mapping, in document order -/
abbrev Entries := List (Value × Value)

/-- the types of values, as messages name them -/
inductive ValueType where
  | null
  | bool
  | int
  | float
  | str
  | date
  | moment
  | list
  | tuple
  | map
  deriving DecidableEq, Repr

namespace Value

def type : Value → ValueType
  | null => .null
  | bool _ => .bool
  | int _ => .int
  | float _ => .float
  | str _ => .str
  | date _ => .date
  | moment _ => .moment
  | list _ => .list
  | tuple _ => .tuple
  | map _ => .map

/-- a value that counts as given: neither null, false, zero nor empty -/
def isGiven : Value → Bool
  | null => false
  | bool b => b
  | int n => n != 0
  | float x => !x.isZero
  | str s => s != ""
  | list items => !items.isEmpty
  | tuple items => !items.isEmpty
  | map entries => !entries.isEmpty
  | date _ => true
  | moment _ => true

/-! ## Equality -/

/-- two moments are the same instant, or the same clock reading where neither says its offset -/
def sameMoment (m n : Moment) : Bool :=
  match m.offset, n.offset with
  | none, none => Calendar.clock m == Calendar.clock n
  | some a, some b => Calendar.clock m - a * 60000000 == Calendar.clock n - b * 60000000
  | _, _ => false

/-- equality of scalars, numeric where both are numbers or truth values -/
def sameScalar : Value → Value → Bool
  | null, null => true
  | str s, str t => s == t
  | date d, date e => d == e
  | moment m, moment n => sameMoment m n
  | float x, float y => x.same y
  | float x, int n => x.toInt? == some n
  | int n, float x => x.toInt? == some n
  | float x, bool b => x.toInt? == some (if b then 1 else 0)
  | bool b, float x => x.toInt? == some (if b then 1 else 0)
  | int m, int n => m == n
  | int n, bool b => n == if b then 1 else 0
  | bool b, int n => n == if b then 1 else 0
  | bool a, bool b => a == b
  | _, _ => false

mutual

/-- equality of values: sequences item by item, mappings whatever the order of their entries -/
def same : Value → Value → Bool
  | list xs, other => match other with
    | list ys => sameItems xs ys
    | _ => false
  | tuple xs, other => match other with
    | tuple ys => sameItems xs ys
    | _ => false
  | map xs, other => match other with
    | map ys => xs.length == ys.length && sameEntries xs ys
    | _ => false
  | v, w => sameScalar v w

def sameItems : List Value → List Value → Bool
  | [], [] => true
  | x :: xs, y :: ys => same x y && sameItems xs ys
  | _, _ => false

/-- has every entry on the left an entry on the right of the same key and value? -/
def sameEntries : List (Value × Value) → List (Value × Value) → Bool
  | [], _ => true
  | (k, v) :: rest, ys => ys.any (fun e => same k e.1 && same v e.2) && sameEntries rest ys

end

/-! ## Mappings -/

/-- the entries of a mapping; nothing for any other value -/
def entries? : Value → Option Entries
  | map entries => some entries
  | _ => none

def isMap (v : Value) : Bool := v.entries?.isSome

def isNull : Value → Bool
  | null => true
  | _ => false

/-- is the value this text? -/
def isText (text : String) : Value → Bool
  | str s => s == text
  | _ => false

def text? : Value → Option String
  | str s => some s
  | _ => none

/-- the part of a value that keeps it from being a key: a list or mapping, perhaps inside a tuple -/
def keyFault : Value → Option ValueType
  | list _ => some .list
  | map _ => some .map
  | tuple items => keyFaults items
  | _ => none
where
  /-- the first of several values that cannot be part of a key -/
  keyFaults : List Value → Option ValueType
    | [] => none
    | v :: rest => match keyFault v with
      | some type => some type
      | none => keyFaults rest

end Value

namespace Entries

/-- the value under a text key -/
def find? (entries : Entries) (name : String) : Option Value :=
  match entries with
  | [] => none
  | (k, v) :: rest => if k.isText name then some v else find? rest name

def has (entries : Entries) (name : String) : Bool := (find? entries name).isSome

/-- is some key equal to `key`? -/
def hasKey (entries : Entries) (key : Value) : Bool := entries.any fun e => e.1.same key

/-- put a value under a key: in place when the key is there, else at the end -/
def put (entries : Entries) (key value : Value) : Entries :=
  match entries with
  | [] => [(key, value)]
  | (k, v) :: rest => if k.same key then (k, value) :: rest else (k, v) :: put rest key value

/-- a mapping from entries in order of arrival: the first position and the last value of each key count -/
def ofPairs (pairs : List (Value × Value)) : Entries :=
  pairs.foldl (fun entries p => put entries p.1 p.2) []

/-- the entries under other keys than these -/
def without (entries : Entries) (names : List String) : Entries :=
  entries.filter fun e => !names.any e.1.isText

theorem find?_mem {entries : Entries} {name : String} {v : Value} (h : find? entries name = some v) :
    ∃ k, (k, v) ∈ entries := by
  induction entries with
  | nil => simp [find?] at h
  | cons e rest ih =>
    obtain ⟨k, w⟩ := e
    simp only [find?] at h
    split at h
    · cases h
      exact ⟨k, List.mem_cons_self⟩
    · obtain ⟨k', hk⟩ := ih h
      exact ⟨k', List.mem_cons_of_mem _ hk⟩

theorem sizeOf_lt_of_mem {entries : Entries} {k v : Value} (h : (k, v) ∈ entries) : sizeOf v < sizeOf entries := by
  have hp := List.sizeOf_lt_of_mem h
  have : sizeOf (k, v) = 1 + sizeOf k + sizeOf v := rfl
  omega

/-- what a mapping holds is smaller than the mapping -/
theorem sizeOf_find?_lt {entries : Entries} {name : String} {v : Value} (h : find? entries name = some v) :
    sizeOf v < sizeOf (Value.map entries) := by
  obtain ⟨k, hk⟩ := find?_mem h
  have hlt := sizeOf_lt_of_mem hk
  have : sizeOf (Value.map entries) = 1 + sizeOf entries := by simp
  omega

theorem same_str (s t : String) : (Value.str s).same (.str t) = (s == t) := by
  simp [Value.same, Value.sameScalar]

theorem same_str_right {k : Value} {t : String} (h : k.same (.str t) = true) : k = .str t := by
  cases k <;> simp_all [Value.same, Value.sameScalar]

theorem find?_put_self (entries : Entries) (name : String) (v : Value) :
    find? (put entries (.str name) v) name = some v := by
  induction entries with
  | nil => simp [put, find?, Value.isText]
  | cons e rest ih =>
    obtain ⟨k, w⟩ := e
    simp only [put]
    split
    · rename_i h
      obtain rfl := same_str_right h
      simp [find?, Value.isText]
    · rename_i h
      have : k.isText name = false := by
        cases k <;> simp_all [Value.isText, Value.same, Value.sameScalar]
      simp [find?, this, ih]

end Entries

namespace Value

/-- the value under a text key of a mapping; nothing for any other value -/
def field? (raw : Value) (name : String) : Option Value :=
  match raw with
  | map entries => Entries.find? entries name
  | _ => none

def hasField (raw : Value) (name : String) : Bool := (raw.field? name).isSome

/-- what a mapping holds is smaller than the mapping -/
theorem sizeOf_field?_lt {raw v : Value} {name : String} (h : raw.field? name = some v) : sizeOf v < sizeOf raw := by
  cases raw with
  | map entries => exact Entries.sizeOf_find?_lt h
  | _ => simp [field?] at h

end Value

end ApiTypes
