import MigrationAudit.Memory.Indexes

/-!
# What a session remembers

Some checks compare a change or a change set with what came before it in the session: the indexes
created, the changelog that first inserted into a table, the change sets declared, and the files
whose logical path has been judged.
-/

namespace MigrationAudit

structure Memory where
  indexes : Indexes
  /-- For every table the path of the changelog that was first to insert into it. -/
  inserters : Ledger String String
  /-- For every logical path and identifier the file that was first to declare the change set. -/
  declarers : Ledger (Option String × String) String
  judgedFiles : List String
  deriving DecidableEq, Repr

def Memory.empty : Memory := ⟨.empty, .empty, .empty, []⟩

end MigrationAudit
