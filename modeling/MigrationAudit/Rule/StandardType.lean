import MigrationAudit.Declaration
import MigrationAudit.Text.Case

/-!
# Standard types

The types of SQL-99: some with a fixed name, some whose name may carry a parameter.  Case and blank
edges of a declaration do not matter.
-/

namespace MigrationAudit.StandardType

open Text

def fixedNames : List String :=
  ["BOOLEAN", "INTEGER", "SMALLINT", "BIGINT", "REAL", "DOUBLE PRECISION", "DATE"]

def parametricNames : List String :=
  ["CHARACTER", "VARCHAR", "CLOB", "NCHAR", "NVARCHAR", "NCLOB", "BLOB", "DECIMAL", "NUMERIC",
    "FLOAT", "TIMESTAMP"]

/-- Whether a declaration is of a standard type. -/
def accepts (declaration : String) : Bool :=
  let name := upper (trim declaration)
  name ∈ fixedNames || Declaration.base name ∈ parametricNames

/-- Whether a declaration is of the numeric type, up to the case of ASCII letters. -/
def isNumeric (declaration : String) : Bool :=
  sameAsciiCase (Declaration.base declaration) "numeric"

/-- Whether a declaration is of a type whose name ends in LOB. -/
def isLob (declaration : String) : Bool :=
  "LOB".toList.isSuffixOf (upper (Declaration.base declaration)).toList

end MigrationAudit.StandardType
