import ReleaseGate.Toml.Value

/-!
# Building a document

A document is built up line by line: a header opens a table, and a pair adds a value to the table that is open. A table can be
opened once, a value can be given once, and what was written as a value is closed: nothing later may add to it.
-/

namespace ReleaseGate.Toml

/-- A table on its way to being complete. -/
structure Table where
  origin : Origin
  members : Members

/-- A table after a change to the table that lies at the end of a path from it. Tables on the way are made when they are not
there; of an array of tables the last one is meant. `dotted` says that the path is a dotted key, which may not lead through a
table with a header of its own. -/
def Table.edit (dotted : Bool) (path : List String) (change : Table → Option Table) (t : Table) : Option Table :=
  match path with
  | [] => change t
  | name :: rest =>
    let put (v : Value) : Table := { t with members := t.members.put name v }
    match t.members.lookup name with
    | none =>
      (Table.edit dotted rest change ⟨if dotted then .dotted else .onTheWay, []⟩).map fun u => put (.table u.origin u.members)
    | some (.table .inline _) => none
    | some (.table origin members) =>
      if dotted && origin == .header then none
      else (Table.edit dotted rest change ⟨origin, members⟩).map fun u => put (.table u.origin u.members)
    | some (.array false items) =>
      match items.getLast? with
      | some (.table origin members) =>
        (Table.edit dotted rest change ⟨origin, members⟩).map fun u =>
          put (.array false (items.dropLast ++ [.table u.origin u.members]))
      | _ => none
    | some _ => none

/-- A table with one more value under a name. Through a dotted key only tables that dotted keys have made can be added to. -/
def Table.insert (throughDots : Bool) (name : String) (v : Value) (t : Table) : Option Table :=
  if throughDots && t.origin != .dotted then none
  else if (t.members.lookup name).isSome then none
  else some { t with members := t.members ++ [(name, v)] }

/-- A table with one more value under a dotted key. -/
def Table.insertAt (key : List String × String) (v : Value) (t : Table) : Option Table :=
  t.edit true key.1 fun u => u.insert (!key.1.isEmpty) key.2 v

/-- A table in which a table under some name is opened. -/
def Table.openTable (name : String) (t : Table) : Option Table :=
  match t.members.lookup name with
  | none => some { t with members := t.members ++ [(name, .table .header [])] }
  | some (.table .onTheWay members) => some { t with members := t.members.put name (.table .header members) }
  | some _ => none

/-- A table in which one more table of an array of tables under some name is opened. -/
def Table.openItem (name : String) (t : Table) : Option Table :=
  match t.members.lookup name with
  | none => some { t with members := t.members ++ [(name, .array false [.table .header []])] }
  | some (.array false items) => some { t with members := t.members.put name (.array false (items ++ [.table .header []])) }
  | some _ => none

/-- A document that is being read: its tables, and the names on the way to the table that is open. -/
structure Document where
  root : Table := ⟨.header, []⟩
  current : List String := []

namespace Document

/-- The document after a pair. -/
def pair (d : Document) (key : List String × String) (v : Value) : Option Document :=
  (d.root.edit false d.current (Table.insertAt key v)).map fun root => { d with root }

/-- The document after the header of a table. -/
def header (d : Document) (key : List String × String) : Option Document :=
  (d.root.edit false key.1 (Table.openTable key.2)).map fun root => { root, current := key.1 ++ [key.2] }

/-- The document after the header of a table in an array. -/
def itemHeader (d : Document) (key : List String × String) : Option Document :=
  (d.root.edit false key.1 (Table.openItem key.2)).map fun root => { root, current := key.1 ++ [key.2] }

/-- The value that a document is. -/
def value (d : Document) : Value := .table d.root.origin d.root.members

end Document

end ReleaseGate.Toml
