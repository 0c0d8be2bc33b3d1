import YangCheck.Proofs.Statement.Reading
import YangCheck.Statement.Admission

namespace YangCheck

theorem Statement.editsNode_of_opens {statement : Statement} (h : statement.opens = true) :
    statement.editsNode = false := by
  cases statement with
  | openModule name => rfl
  | openImport name => rfl
  | openNode kind name => rfl
  | _ => cases h

namespace Position

variable {position : Position} {statement : Statement}

theorem moduleOpen_of_admits (h : position.admits statement = true) :
    position.moduleOpen = !statement.isModule := by
  rw [admits, rejection?] at h
  cases hopen : position.moduleOpen <;> cases hmodule : statement.isModule <;> simp_all

theorem admits_of_not_moduleOpen (h : position.moduleOpen = false) (statement : Statement) :
    position.admits statement = statement.isModule := by
  rw [admits, rejection?]
  cases statement.isModule <;> simp [h]

theorem admits_of_moduleOpen (h : position.moduleOpen = true)
    (hmodule : statement.isModule = false) :
    position.admits statement = (!statement.editsNode || position.nodeOpen) := by
  rw [admits, rejection?]
  cases statement.editsNode <;> cases position.nodeOpen <;> simp [h, hmodule]

theorem isSome_read?_of_not_moduleOpen (h : position.moduleOpen = false) (line : List Char) :
    (position.read? line).isSome = Statement.opensModule line := by
  rw [read?]
  cases hread : Statement.ofChars? line with
  | none =>
    cases hm : Statement.module? line with
    | none => simp only [Option.filter_none, Option.isSome_none, Statement.opensModule, hm]
    | some name => cases hread.symm.trans (Statement.ofChars?_of_module? hm)
  | some statement =>
    rw [← Statement.isModule_of_ofChars? hread, ← admits_of_not_moduleOpen h]
    cases ha : position.admits statement <;> simp [ha]

end Position

end YangCheck
