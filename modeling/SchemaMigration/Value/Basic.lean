import SchemaMigration.Calendar
import SchemaMigration.Number.Digits
import SchemaMigration.Number.Double
import SchemaMigration.Text.CodePoint

/-!
# Values of documents

A document that was read from JSON, YAML or TOML is a value: a scalar, a list, or a mapping whose
entries keep the order in which their keys first appeared. Only YAML has keys that are not text, and
sets, pairs and bytes.

Only in YAML, too, can a collection hold itself. Such a collection is `Value.looped`: it has a
number, by which it is known when it is met again inside itself, and it is opened up only as far as
it is looked at.
-/

namespace SchemaMigration

/-- A value of a document. -/
inductive Value where
  | null
  | bool (b : Bool)
  | int (n : Int)
  | float (x : Double)
  | text (s : String)
  /-- A text in which halves of surrogate pairs stand. -/
  | brokenText (codes : List Text.CodePoint)
  | bytes (data : List UInt8)
  | date (d : Date)
  | moment (m : Moment)
  | clock (c : Clock)
  | list (items : List Value)
  | mapping (entries : List (Value × Value))
  | set (members : List Value)
  | pair (first second : Value)
  /-- A collection that stands inside itself, or that holds one that does. -/
  | looped (id : Nat) (collection : Thunk Value)

/-- The entries of a mapping, in order. -/
abbrev Entries := List (Value × Value)

namespace Value

instance : Inhabited Value := ⟨null⟩

/-- The value of a text. -/
def ofCodePoints (codes : List Text.CodePoint) : Value :=
  match Text.chars? codes with
  | some cs => text (String.ofList cs)
  | none => brokenText codes

/-- The value itself, a looped collection being opened up. -/
def content : Value → Value
  | looped _ ⟨collection⟩ => (collection ()).content
  | value => value

theorem sizeOf_content_le (value : Value) : sizeOf value.content ≤ sizeOf value := by
  fun_induction content value with
  | case1 id collection ih => simp [Thunk.get] at *; omega
  | case2 value h => exact Nat.le_refl _

theorem sizeOf_lt_of_content_eq_list {value : Value} {items : List Value}
    (h : value.content = list items) : sizeOf items < sizeOf value := by
  have := value.sizeOf_content_le
  simp only [h, list.sizeOf_spec] at this
  omega

theorem sizeOf_lt_of_content_eq_mapping {value : Value} {entries : List (Value × Value)}
    (h : value.content = mapping entries) : sizeOf entries < sizeOf value := by
  have := value.sizeOf_content_le
  simp only [h, mapping.sizeOf_spec] at this
  omega

/-- Is it the null value? -/
def isNull : Value → Bool
  | null => true
  | _ => false

/-- Is it the given text? -/
def isText (s : String) : Value → Bool
  | text t => t = s
  | _ => false

/-- Does the value count as present: not null, not zero, not false and not empty? -/
def isTruthy : Value → Bool
  | null => false
  | bool b => b
  | int n => n ≠ 0
  | float x => !x.isZero
  | text s => s ≠ ""
  | brokenText codes => !codes.isEmpty
  | bytes data => !data.isEmpty
  | list items => !items.isEmpty
  | mapping entries => !entries.isEmpty
  | set members => !members.isEmpty
  | date _ => true
  | moment _ => true
  | clock _ => true
  | pair _ _ => true
  | looped _ ⟨collection⟩ => (collection ()).isTruthy

/-- Are two scalars equal as keys? A number equals a number of the same value, whatever its type;
true counts as one and false as zero. Values that cannot be keys equal nothing. -/
def sameKey : Value → Value → Bool
  | null, null => true
  | bool a, bool b => a = b
  | bool a, int n => a.toInt = n
  | bool a, float x => x.equalsInt a.toInt
  | int n, bool b => n = b.toInt
  | int n, int m => n = m
  | int n, float x => x.equalsInt n
  | float x, bool b => x.equalsInt b.toInt
  | float x, int n => x.equalsInt n
  | float x, float y => x.equals y
  | text s, text t => s = t
  | brokenText s, brokenText t => s = t
  | bytes a, bytes b => a = b
  | date a, date b => a = b
  | moment a, moment b => a.equals b
  | clock a, clock b => a = b
  | _, _ => false

/-- Can the value be a key of a mapping? -/
def canBeKey : Value → Bool
  | list _ => false
  | mapping _ => false
  | set _ => false
  | looped _ _ => false
  | _ => true

mutual

/-- Can a value inside the looped collections with the given numbers be shown? -/
def isShowableWithin (outer : List Nat) : Value → Bool
  | int n => Digits.isWritable n
  | list items => allShowable outer items
  | mapping entries => entriesShowable outer entries
  | set members => allShowable outer members
  | pair first second => first.isShowableWithin outer && second.isShowableWithin outer
  | looped id ⟨collection⟩ =>
    outer.contains id || (collection ()).isShowableWithin (id :: outer)
  | _ => true

/-- Can all values be shown? -/
def allShowable (outer : List Nat) : List Value → Bool
  | [] => true
  | first :: rest => first.isShowableWithin outer && allShowable outer rest

/-- Can the keys and values of all entries be shown? -/
def entriesShowable (outer : List Nat) : List (Value × Value) → Bool
  | [] => true
  | (key, value) :: rest =>
    key.isShowableWithin outer && value.isShowableWithin outer && entriesShowable outer rest

end

/-- Can the value be shown? No integer in it may have too many digits. -/
def isShowable (value : Value) : Bool := value.isShowableWithin []

end Value

namespace Entries

/-- The value of the first entry whose key is the given text. -/
def get? : Entries → String → Option Value
  | [], _ => none
  | (key, value) :: rest, name => if key.isText name then some value else get? rest name

/-- Sets the value of a key: in the place of an equal key, which stays, or at the end. -/
def put : Entries → Value → Value → Entries
  | [], key, value => [(key, value)]
  | (key', value') :: rest, key, value =>
    if key'.sameKey key then (key', value) :: rest else (key', value') :: put rest key value

/-- The mapping that results when entries are put in one by one. -/
def ofList (entries : List (Value × Value)) : Entries :=
  entries.foldl (fun before entry => put before entry.1 entry.2) []

theorem sizeOf_get?_lt {entries : Entries} {name : String} {value : Value}
    (h : entries.get? name = some value) : sizeOf value < sizeOf entries := by
  induction entries with
  | nil => simp [get?] at h
  | cons entry rest ih =>
    obtain ⟨key, value'⟩ := entry
    by_cases hk : key.isText name
    · simp only [get?, hk, if_true, Option.some.injEq] at h
      subst h
      simp only [List.cons.sizeOf_spec, Prod.mk.sizeOf_spec]
      omega
    · simp only [get?, hk] at h
      have := ih h
      simp only [List.cons.sizeOf_spec]
      omega

end Entries

end SchemaMigration
