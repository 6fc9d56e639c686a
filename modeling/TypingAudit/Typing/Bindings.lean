/-!
Finite maps from names, in which a later binding replaces an earlier one of the same name.
-/

namespace TypingAudit.Typing

structure Bindings (α : Type) where
  /-- At most one entry for a name. -/
  entries : List (String × α)

namespace Bindings

variable {α : Type}

def empty : Bindings α := ⟨[]⟩

def get? (b : Bindings α) (name : String) : Option α :=
  (b.entries.find? fun entry => entry.1 == name).map (·.2)

def insert (b : Bindings α) (name : String) (value : α) : Bindings α :=
  ⟨(name, value) :: b.entries.filter fun entry => entry.1 != name⟩

/-- Adds bindings from the first to the last. -/
def insertAll (b : Bindings α) (added : List (String × α)) : Bindings α :=
  added.foldl (fun b entry => b.insert entry.1 entry.2) b

end Bindings

end TypingAudit.Typing
