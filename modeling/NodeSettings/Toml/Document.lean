-- From the text of a document to its table, or nothing if the text is not
-- valid. A byte order mark at the front does not count.
import NodeSettings.Toml.Statements

namespace NodeSettings.Toml

def dropByteOrderMark : List Char → List Char
  | '\ufeff' :: cs => cs
  | cs => cs

def readTable (text : String) : Option Table := do
  tableOf (← statements? (dropByteOrderMark text.toList))

/-- A table that was read has its keys in order. -/
theorem sorted_readTable {text : String} {t : Table} (h : readTable text = some t) : t.Sorted := by
  obtain ⟨statements, _, h⟩ := Option.bind_eq_some_iff.1 h
  exact sorted_tableOf h

end NodeSettings.Toml
