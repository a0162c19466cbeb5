import Wordsmith.Draw.Generator
import Wordsmith.Named
import Wordsmith.Vocabulary.Query

/-!
# Vocabularies

A vocabulary holds tables of entries. An entry has forms, one per subtype of its table, and
classes. Of the entries that a query admits one is drawn, unless the query is tied to an entry
that an earlier query got; the memory of the carriers goes from query to query.
-/

namespace Wordsmith

/-- A word with its forms and classes. -/
structure Entry where
  forms : List String
  classes : List String

/-- Entries with the names of their forms, the default form first. -/
structure Table where
  subtypes : List String
  entries : Array Entry

/-- Tables by name. -/
abbrev Vocabulary : Type := Named Table

/-- What carriers have seen so far, by table and id. -/
structure CarrierMemory where
  /-- The entry that all queries with an id get. -/
  matched : List ((String × String) × Nat)
  /-- The entries that queries with an id had. -/
  used : List ((String × String) × Nat)

namespace CarrierMemory

/-- No memory. -/
def empty : CarrierMemory := ⟨[], []⟩

/-- The entry that queries with an id get. -/
def matched? (m : CarrierMemory) (table id : String) : Option Nat :=
  (m.matched.find? fun e => e.1 == (table, id)).map (·.2)

/-- Whether a query with an id had an entry. -/
def isUsed (m : CarrierMemory) (table id : String) (entry : Nat) : Bool :=
  m.used.contains ((table, id), entry)

/-- Remembers the entry that a query got for one of its carriers. -/
def note (table : String) (entry : Nat) (m : CarrierMemory) (c : Carrier) : CarrierMemory :=
  match c.kind with
  | .same => { m with matched := ((table, c.id), entry) :: m.matched }
  | .unique => { m with used := ((table, c.id), entry) :: m.used }

end CarrierMemory

namespace Table

/-- The number of the form that a query asks for. -/
def form? (t : Table) (q : Query) : Except QueryError Nat :=
  match q.subtype with
  | none => .ok 0
  | some subtype =>
    match t.subtypes.idxOf? subtype with
    | some i => .ok i
    | none => .error (.unknownSubtype q.name subtype)

/-- The entry that an earlier query with the same carrier got, if it exists. -/
def remembered? (t : Table) (q : Query) (m : CarrierMemory) : Option Nat :=
  ((q.ids .same).findSome? fun id => m.matched? q.name id).filter (· < t.entries.size)

/-- The entries that pass the filters of a query and that no unique carrier of it has seen. -/
def candidates (t : Table) (q : Query) (m : CarrierMemory) : List Nat :=
  (List.range t.entries.size).filter fun i =>
    q.accepts (((t.entries[i]?).map (·.classes)).getD []) &&
      (q.ids .unique).all fun id => !m.isUsed q.name id i

/-- The entry for a query: a remembered one, or one that is drawn. -/
def pick (t : Table) (q : Query) (g : Generator) (m : CarrierMemory) :
    Except QueryError (Nat × Generator) :=
  match t.remembered? q m with
  | some i => .ok (i, g)
  | none =>
    match t.candidates q m with
    | [] => .error (.noMatch q.name)
    | candidates =>
      let (n, g) := g.lessThan candidates.length
      .ok (candidates.getD n 0, g)

/-- A form of an entry; the first if it lacks the one asked for. -/
def word (t : Table) (entry form : Nat) : String :=
  let forms := ((t.entries[entry]?).map (·.forms)).getD []
  ((forms[form]?).or forms.head?).getD ""

end Table

namespace Vocabulary

/-- Adds a table without entries, or replaces one. -/
def addTable (v : Vocabulary) (name : String) (subtypes : List String) : Vocabulary :=
  v.insert name ⟨subtypes, #[]⟩

/-- Adds an entry to a table. -/
def addEntry (v : Vocabulary) (table : String) (entry : Entry) : Except QueryError Vocabulary :=
  match v.get? table with
  | some t => .ok (v.insert table { t with entries := t.entries.push entry })
  | none => .error (.unknownTable table)

/-- The word for a query. A query that fails draws nothing and leaves no memory. -/
def find (v : Vocabulary) (q : Query) (g : Generator) (m : CarrierMemory) :
    Except QueryError (String × Generator × CarrierMemory) :=
  match v.get? q.name with
  | none => .error (.unknownTable q.name)
  | some t =>
    match t.form? q with
    | .error e => .error e
    | .ok form =>
      match t.pick q g m with
      | .error e => .error e
      | .ok (entry, g) =>
        .ok (t.word entry form, g, q.carriers.foldl (CarrierMemory.note q.name entry) m)

end Vocabulary

end Wordsmith
