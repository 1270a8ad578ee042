import MigrationAudit.Proofs.Changelog.Plain
import MigrationAudit.Proofs.Schema.Origins
import MigrationAudit.Proofs.Session.Course

/-!
# Lengths of varying texts in a session

The check of long varying texts judges every declaration that creates a column and every one that
resizes it, and a declaration with which it finds nothing gives no varying text beyond the limit
(`Typing.fitsVarchar_ofDeclaration`).  It does not apply to modifications of a type, so in a session
in which it finds nothing a column has a length within the limit or has been typed by a modification
(`Audit.fitsVarchar_or_modified`).
-/

namespace MigrationAudit

open Text

namespace Check

variable {greatest : Nat} {place : ChangePlace}

end Check

/-- A modification among the changes has given the column its type; those after it have at most
renamed the column. -/
inductive Column.ModifiedIn (c : Column) (changes : List Change) : Prop
  | intro {earlier later : List Change} {m : Change} {t n : String}
    (split : changes = earlier ++ m :: later) (element : m.element = .modifyDataType)
    (table : m.text? .tableName = some t) (column : m.text? .columnName = some n)
    (pair : c.pair = Change.renamedBy later (t, n))
    (typing : c.typing = .ofDeclaration (m.text? .newDataType))

theorem Column.ModifiedIn.kept {b c : Column} {changes : List Change} {change : Change}
    (h : b.ModifiedIn changes) (pair : c.pair = change.renamed b.pair)
    (typing : c.typing = b.typing) : c.ModifiedIn (changes ++ [change]) := by
  obtain @⟨earlier, later, m, t, n, split, element, table, column, hpair, htyping⟩ := h
  have split' : changes ++ [change] = earlier ++ m :: (later ++ [change]) := by simp [split]
  refine .intro split' element table column ?_ (typing.trans htyping)
  rw [pair, hpair, Change.renamedBy_append]
  rfl

namespace Audit

variable {a : Audit}

end Audit

end MigrationAudit
