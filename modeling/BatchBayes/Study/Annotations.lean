import BatchBayes.Table
/-!
Notes attached to trials and suggestions: texts by key, in namespaces that do
not touch each other.
-/

namespace BatchBayes

/-- The notes of one namespace. -/
abbrev Notes := Table String String

/-- Notes by namespace. A namespace may be there without notes. -/
structure Annotations where
  namespaces : Table String Notes

namespace Annotations

def empty : Annotations := ⟨Table.empty⟩

instance : Inhabited Annotations := ⟨empty⟩

/-- The notes of a namespace that is there. -/
def notes? (annotations : Annotations) (space : String) : Option Notes :=
  annotations.namespaces.find? space

/-- The notes of a namespace, none where it is not there. -/
def notes (annotations : Annotations) (space : String) : Notes :=
  (annotations.notes? space).getD Table.empty

/-- Put notes in place of those of a namespace. -/
def setNotes (annotations : Annotations) (space : String) (notes : Notes) :
    Annotations :=
  ⟨annotations.namespaces.insert space notes⟩

/-- Make sure that a namespace is there. -/
def openSpace (annotations : Annotations) (space : String) : Annotations :=
  annotations.setNotes space (annotations.notes space)

def find? (annotations : Annotations) (space key : String) : Option String :=
  (annotations.notes? space).bind (·.find? key)

def insert (annotations : Annotations) (space key value : String) :
    Annotations :=
  annotations.setNotes space ((annotations.notes space).insert key value)

/-- Whether there is no note. -/
def isEmpty (annotations : Annotations) : Bool :=
  annotations.namespaces.items.all (·.entries.isEmpty)

/-- Copy all namespaces and notes of `other`, over notes of the same key. -/
def merge (annotations other : Annotations) : Annotations :=
  other.namespaces.entries.foldl
    (fun merged (space, notes) =>
      merged.setNotes space ((merged.notes space).insertAll notes.entries))
    annotations

end Annotations

end BatchBayes
