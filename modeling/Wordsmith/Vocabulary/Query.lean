import Wordsmith.Text.Slice

/-!
# Queries

A query asks a vocabulary for a word: it names a table, perhaps a form of the word, which classes
the word must have or must not have, and carriers, which tie queries of one run to each other. It
is written as `name.subtype$-class|!class ::=id !id`, with all parts but the name left out at will.
-/

namespace Wordsmith

open Text

/-- Why a query fails. -/
inductive QueryError where
  /-- The text is no query. -/
  | malformed (text : String)
  | unknownTable (name : String)
  | unknownSubtype (table subtype : String)
  /-- No entry is left that satisfies the query. -/
  | noMatch (table : String)
deriving DecidableEq, Repr

namespace QueryError

/-- The text of the error. -/
def message : QueryError → String
  | malformed text => s!"malformed query '{text}'"
  | unknownTable name => s!"no table named '{name}'"
  | unknownSubtype table subtype => s!"table '{table}' has no subtype '{subtype}'"
  | noMatch table => s!"no entry in '{table}' satisfies the query"

end QueryError

/-- A class that an entry must have or, if negated, must not have. -/
structure ClassRule where
  className : String
  negated : Bool
deriving DecidableEq, Repr

/-- How a carrier ties queries to each other. -/
inductive CarrierKind where
  /-- The same entry for every query with the id. -/
  | same
  /-- Never the same entry twice for the id. -/
  | unique
deriving DecidableEq, Repr

/-- A tie between queries. -/
structure Carrier where
  kind : CarrierKind
  id : String
deriving DecidableEq, Repr

/-- What is asked of a vocabulary. -/
structure Query where
  /-- The table. -/
  name : String
  /-- The form of the word. -/
  subtype : Option String
  /-- Groups of rules; of each group one rule at least must hold. -/
  filters : List (List ClassRule)
  /-- Whether the entry may have no classes but those that some rule asks for. -/
  exclusive : Bool
  carriers : List Carrier
deriving DecidableEq, Repr

namespace Query

/-- What stands before and after the first double colon. -/
def splitCarriers : List Char → List Char × Option (List Char)
  | ':' :: ':' :: rest => ([], some rest)
  | [] => ([], none)
  | c :: rest =>
    let (head, carriers) := splitCarriers rest
    (c :: head, carriers)

/-- Reads one rule. -/
def rule? (cs : List Char) : Option ClassRule :=
  let (name, negated) := match trim cs with
    | '!' :: rest => (trim rest, true)
    | alternative => (alternative, false)
  if name = [] then none else some ⟨.ofList name, negated⟩

/-- Reads a group of rules between bars. -/
def group? (cs : List Char) : Option (List ClassRule) := (pieces '|' cs).mapM rule?

/-- Reads one carrier. -/
def carrier? : List Char → Option Carrier
  | '=' :: c :: id => some ⟨.same, .ofList (c :: id)⟩
  | '!' :: c :: id => some ⟨.unique, .ofList (c :: id)⟩
  | _ => none

/-- Reads the name of the table and the form, and whether the classes are exclusive. -/
def target? (cs : List Char) : Option (String × Option String × Bool) :=
  let cs := trim cs
  let (cs, exclusive) :=
    if cs.getLast? = some '$' then (trimEnd cs.dropLast, true) else (cs, false)
  match splitFirst '.' cs with
  | some (name, subtype) =>
    if trim name = [] || trim subtype = [] then none
    else some (.ofList (trim name), some (.ofList (trim subtype)), exclusive)
  | none => if cs = [] then none else some (.ofList cs, none, exclusive)

/-- Reads a query, if the text is one. -/
def ofText? (text : String) : Option Query :=
  let (head, tail) := splitCarriers (trim text.toList)
  match pieces '-' head with
  | [] => none
  | target :: groups =>
    (target? target).bind fun (name, subtype, exclusive) =>
      (groups.mapM group?).bind fun filters =>
        ((words (tail.getD [])).mapM carrier?).map fun carriers =>
          ⟨name, subtype, filters, exclusive, carriers⟩

/-- Reads a query. -/
def ofText (text : String) : Except QueryError Query :=
  match ofText? text with
  | some q => .ok q
  | none => .error (.malformed text)

/-- Whether an entry with some classes passes the filters. -/
def accepts (q : Query) (classes : List String) : Bool :=
  (q.filters.all fun group => group.any fun r => classes.contains r.className != r.negated) &&
    (!q.exclusive ||
      classes.all fun c => q.filters.any fun group => group.any fun r =>
        !r.negated && r.className == c)

/-- The ids of the carriers of a kind. -/
def ids (q : Query) (kind : CarrierKind) : List String :=
  (q.carriers.filter fun c => c.kind == kind).map (·.id)

end Query

end Wordsmith
