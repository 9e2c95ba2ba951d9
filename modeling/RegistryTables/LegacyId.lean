/-
  Numeric ids, the second keyspace of a registry: signed numbers of 32 bits, and their
  text in columns.
-/
namespace RegistryTables

abbrev LegacyId := Int32

namespace LegacyId

/-- The id of items that are known by their string identifier only. -/
def stringIdentified : LegacyId := 255

def ofInt? (n : Int) : Option LegacyId :=
  if -2147483648 ≤ n ∧ n ≤ 2147483647 then some (Int32.ofInt n) else none

def magnitude (l : LegacyId) : List Char := Nat.toDigits 10 l.toInt.natAbs

def sign (l : LegacyId) : List Char := if l.toInt < 0 then ['-'] else []

def text (l : LegacyId) : String := String.ofList (sign l ++ magnitude l)

/-- As many copies of `fill` as text of this length lacks for the width. -/
def padding (fill : Char) (width length : Nat) : List Char :=
  List.replicate (width - length) fill

/-- The decimal text at the right end of a column. Text that is too wide is not cut. -/
def alignRight (width : Nat) (l : LegacyId) : String :=
  String.ofList (padding ' ' width l.text.length) ++ l.text

/-- The decimal text at the left end of a column. -/
def alignLeft (width : Nat) (l : LegacyId) : String :=
  l.text ++ String.ofList (padding ' ' width l.text.length)

/-- The decimal text with a sign in any case; zero has a plus. -/
def signed (l : LegacyId) : String := if l.toInt < 0 then l.text else "+" ++ l.text

/-- The decimal text filled up with zeros between the sign and the digits. -/
def zeroFilled (width : Nat) (l : LegacyId) : String :=
  String.ofList (sign l ++ padding '0' width l.text.length ++ magnitude l)

end LegacyId

end RegistryTables
