import NodeFamilies.Json.Read

/-!
# Rows of bytes

A table is a list of rows, and a row is a record of its cells, in which other keys may stand too.
Several tables are kept in one object, each under its name.
-/

namespace NodeFamilies.Json.Rows

/-- A row is the list of its cells. -/
def row : Schema (List Nat) :=
  .record "struct Row" false (.field "cells" none (.list .byte) .none) fun (cells, ()) => cells

def table : Schema (List (List Nat)) := .list row

def tables : Schema (List (String × List (List Nat))) := .table table

end NodeFamilies.Json.Rows
