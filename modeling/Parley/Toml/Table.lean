import Parley.Toml.Basic

/-!
# Building tables

The tables of a document are given piece by piece: by headers, by keys with dots, and by longer
headers that imply the tables on their way. A table is given by one header at most, and not by
a header and keys with dots both. What is given inline is closed.
-/

namespace Parley.Toml

/-- How a table came to be. -/
inductive Origin where
  | header | implied | dotted
  deriving DecidableEq, Repr

/-- A part of a document under construction. The last of `tables` is the open one. -/
inductive Node where
  | value (value : Toml)
  | table (origin : Origin) (members : List (String × Node))
  | tables (items : List (List (String × Node)))
  deriving Inhabited

abbrev Nodes := List (String × Node)

namespace Node

mutual

def toToml : Node → Toml
  | value v => v
  | table _ members => .table (membersToToml members)
  | tables items => .array (itemsToToml items)

def membersToToml : List (String × Node) → Members
  | [] => []
  | (name, node) :: rest => (name, node.toToml) :: membersToToml rest

def itemsToToml : List (List (String × Node)) → List Toml
  | [] => []
  | members :: rest => .table (membersToToml members) :: itemsToToml rest

end

end Node

namespace Nodes

/-- Gives a key a new node, made from the old one. -/
def alter (key : String) (change : Option Node → Option Node) : Nodes → Option Nodes
  | [] => (change none).map fun node => [(key, node)]
  | (name, node) :: rest =>
    if name = key then (change (some node)).map fun node => (name, node) :: rest
    else (alter key change rest).map ((name, node) :: ·)

/-- Adds a key that must be new. -/
def add (key : String) (node : Node) : Nodes → Option Nodes :=
  alter key fun
    | none => some node
    | some _ => none

/-- Changes the table at the end of a path. Missing tables on the way come to be by `origin`;
keys with dots lead only through tables that no header gave. -/
def within (origin : Origin) (edit : Origin → Nodes → Option Nodes) :
    List String → Origin → Nodes → Option Nodes
  | [], here, members => edit here members
  | key :: path, _, members =>
    members.alter key fun
      | none => (within origin edit path origin []).map (.table origin)
      | some (.value _) => none
      | some (.tables items) =>
        match items.getLast? with
        | none => none
        | some last => (within origin edit path .header last).map fun last =>
          .tables (items.dropLast ++ [last])
      | some (.table there inner) =>
        if origin = .dotted ∧ there = .header then none
        else (within origin edit path there inner).map (.table there)

/-- Enters a value under a key with dots. The table that takes it must be the one at hand, or one
that keys with dots have made. -/
def assign (path : List String) (key : String) (value : Toml) : Origin → Nodes → Option Nodes :=
  within .dotted (fun here members =>
    if (here == .dotted) == path.isEmpty then none else members.add key (.value value)) path

/-- Opens the table of a header, or goes on with one that was only implied. -/
def openTable (path : List String) (key : String) (members : Nodes) : Option Nodes :=
  within .implied (fun _ members => members.alter key fun
    | none => some (.table .header [])
    | some (.table .implied inner) => some (.table .header inner)
    | some _ => none) path .header members

/-- Adds a table to the array of a header. -/
def openItem (path : List String) (key : String) (members : Nodes) : Option Nodes :=
  within .implied (fun _ members => members.alter key fun
    | none => some (.tables [[]])
    | some (.tables items) => some (.tables (items ++ [[]]))
    | some _ => none) path .header members

/-- Enters a value under a key with dots into the table of the latest header. -/
def assignIn (table path : List String) (key : String) (value : Toml) (members : Nodes) :
    Option Nodes :=
  within .implied (fun _ members => assign path key value .header members) table .header members

end Nodes

end Parley.Toml
