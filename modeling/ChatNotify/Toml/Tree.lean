import ChatNotify.Settings.Value

namespace ChatNotify.Toml

open Settings (Value)

/-- How a table came about. Every table is defined in one place: by a header, or by the dotted keys
below one header. -/
inductive Origin where
  /-- It has a header. -/
  | header
  /-- It is part of the name in another header. -/
  | implied
  /-- It is part of a dotted key. -/
  | dotted
  deriving Repr, DecidableEq

/-- What a key stands for. -/
inductive Node where
  /-- A value, to which nothing can be added. -/
  | value (value : Value)
  | table (origin : Origin) (members : List (String × Node))
  /-- An array of tables, the last of which comes first and is the one that is added to. -/
  | tables (last : List (String × Node)) (before : List (List (String × Node)))

/-- The members of a table. -/
abbrev Members := List (String × Node)

namespace Members

/-- Gives a key a node. -/
def put (key : String) (node : Node) : Members → Members
  | [] => [(key, node)]
  | (name, old) :: rest => if name = key then (name, node) :: rest else (name, old) :: put key node rest

/-- Changes the table that a header names, and makes the tables on the way to it. -/
def within (keys : List String) (change : Members → Option Members) (members : Members) :
    Option Members :=
  match keys with
  | [] => change members
  | key :: keys =>
    match members.lookup key with
    | none => do some (put key (.table .implied (← within keys change [])) members)
    | some (.table origin inner) => do
      some (put key (.table origin (← within keys change inner)) members)
    | some (.tables last before) => do
      some (put key (.tables (← within keys change last) before) members)
    | some (.value _) => none

/-- Gives a dotted key a value. -/
def assign (key : String) (keys : List String) (value : Value) (members : Members) :
    Option Members :=
  match keys with
  | [] => if (members.lookup key).isSome then none else some (put key (.value value) members)
  | next :: keys =>
    match members.lookup key with
    | none => do some (put key (.table .dotted (← assign next keys value [])) members)
    | some (.table origin inner) =>
      if origin = .dotted || origin = .implied && !keys.isEmpty then do
        some (put key (.table origin (← assign next keys value inner)) members)
      else none
    | some _ => none

/-- Begins a table under a key. -/
def beginTable (key : String) (members : Members) : Option Members :=
  match members.lookup key with
  | none => some (put key (.table .header []) members)
  | some (.table .implied inner) => some (put key (.table .header inner) members)
  | some _ => none

/-- Begins the next table of an array under a key. -/
def beginElement (key : String) (members : Members) : Option Members :=
  match members.lookup key with
  | none => some (put key (.tables [] []) members)
  | some (.tables last before) => some (put key (.tables [] (last :: before)) members)
  | some _ => none

end Members

mutual

/-- The value of a node. -/
def Node.toValue : Node → Value
  | .value value => value
  | .table _ members => .table (toValues members)
  | .tables last before => .list ((Value.table (toValues last) :: toTables before).reverse)

/-- The values of the members of a table. -/
def toValues : List (String × Node) → List (String × Value)
  | [] => []
  | (key, node) :: rest => (key, node.toValue) :: toValues rest

/-- The values of tables. -/
def toTables : List (List (String × Node)) → List Value
  | [] => []
  | members :: rest => .table (toValues members) :: toTables rest

end

end ChatNotify.Toml
