/-!
# Log records

An operation that logs returns its records along with its result, also when it fails.
-/

namespace SchemaMigration

/-- How important a record is. -/
inductive LogLevel where
  | debug
  | info
  | warning
  deriving DecidableEq

/-- The word for a level. -/
def LogLevel.word : LogLevel → String
  | debug => "DEBUG"
  | info => "INFO"
  | warning => "WARNING"

/-- The rank of a level; a higher level is more important. -/
def LogLevel.rank : LogLevel → Nat
  | debug => 0
  | info => 1
  | warning => 2

/-- A record: its level, who writes it and what it says. -/
structure LogRecord where
  level : LogLevel
  source : String
  text : String
  deriving DecidableEq

/-- The line of a record. -/
def LogRecord.render (record : LogRecord) : String :=
  record.level.word ++ " - " ++ record.source ++ " - " ++ record.text

/-- A result, or an error, with the records that were written on the way. -/
structure Logged (ε α : Type) where
  records : List LogRecord
  result : Except ε α

namespace Logged

/-- A result without any record. -/
def pure {ε α : Type} (value : α) : Logged ε α := ⟨[], .ok value⟩

/-- An error without any record. -/
def throw {ε α : Type} (error : ε) : Logged ε α := ⟨[], .error error⟩

/-- A result or an error without any record. -/
def ofExcept {ε α : Type} (result : Except ε α) : Logged ε α := ⟨[], result⟩

/-- One record. -/
def log {ε : Type} (level : LogLevel) (source text : String) : Logged ε Unit :=
  ⟨[⟨level, source, text⟩], .ok ()⟩

/-- The records of both parts, in order; nothing follows an error. -/
def bind {ε α β : Type} (first : Logged ε α) (next : α → Logged ε β) : Logged ε β :=
  match first.result with
  | .ok value => ⟨first.records ++ (next value).records, (next value).result⟩
  | .error error => ⟨first.records, .error error⟩

instance {ε : Type} : Monad (Logged ε) where
  pure := pure
  bind := bind

/-- The same records with another kind of error. -/
def mapError {ε ε' α : Type} (f : ε → ε') (logged : Logged ε α) : Logged ε' α :=
  ⟨logged.records, logged.result.mapError f⟩

end Logged

end SchemaMigration
