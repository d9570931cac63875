import ClosureBridge.Toml.Reader

/-!
# Documents

A document is built from its statements one after the other: a header begins the table that the
values after it go into.

## Main definitions

* `Draft`: a document that is being built.
* `Document.ofStatements?`: the document that statements make up.
* `Document.read?`: the document that a text denotes.
-/

namespace ClosureBridge.Toml

/-- A document that is being built. -/
structure Draft where
  root : Table Value := {}
  /-- The way to the table of the last header. -/
  current : List String := []

namespace Draft

/-- Follow a statement. -/
def step (d : Draft) : Statement → Option Draft
  | .table key => (d.root.begin key).map fun root => ⟨root, key.path⟩
  | .next key => (d.root.beginNext key).map fun root => ⟨root, key.path⟩
  | .assign key v =>
    (Table.alter .header (Table.assign key v) d.current d.root).map fun root => { d with root }

end Draft

namespace Document

/-- The entries of the document that statements make up. -/
def ofStatements? (statements : List Statement) : Option (Bindings Value) :=
  (statements.foldlM Draft.step {}).map fun d => d.root.entries

/-- The entries of the document that a text denotes. -/
def read? (text : String) : Option (Bindings Value) := do
  ofStatements? (← Reader.statements? text.toList)

end Document

end ClosureBridge.Toml
