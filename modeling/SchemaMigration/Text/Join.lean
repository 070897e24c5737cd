/-!
# Joining rendered parts

Every renderer puts its text together with these two functions: `joinNonEmpty` leaves out the parts
that are absent or empty, so that an optional clause costs no stray separator, and `commaList` keeps
every member.
-/

namespace SchemaMigration

/-- The parts that are present and not empty, with `separator` between neighbours. -/
def joinNonEmpty (separator : String) (parts : List (Option String)) : String :=
  separator.intercalate ((parts.filterMap id).filter (· ≠ ""))

/-- The non-empty parts with one space between neighbours. -/
def words (parts : List String) : String :=
  joinNonEmpty " " (parts.map some)

/-- All members, in order, with a comma and a space between neighbours. -/
def commaList (members : List String) : String :=
  ", ".intercalate members

/-- `text` between the two given ends, or nothing at all when `text` is empty. -/
def enclosedUnlessEmpty (opening text closing : String) : String :=
  if text = "" then "" else opening ++ text ++ closing

end SchemaMigration
