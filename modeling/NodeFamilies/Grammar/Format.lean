import NodeFamilies.Grammar.Basic
import NodeFamilies.Json.Read

/-!
# Grammars as documents

The schemas of a grammar and its parts. Keys that a schema does not name are refused, so that a
mistyped one is noticed.
-/

namespace NodeFamilies

open Json

def Variant.schema : Schema Variant :=
  .record "struct Variant" true
    (.field "name" none .text (.field "fields" (some []) (.list .text) .none))
    fun (name, payloads, ()) => ⟨name, payloads⟩

def Family.schema : Schema Family :=
  .record "struct NodeFamily" true
    (.field "name" none .text (.field "variants" none (.list Variant.schema) .none))
    fun (name, variants, ()) => ⟨name, variants⟩

def Shape.schema : Schema Shape :=
  .choice [("single", .single), ("sequence", .sequence)]

def Root.schema : Schema Root :=
  .record "struct RootSpec" true
    (.field "family" none .text (.field "shape" none Shape.schema .none))
    fun (family, shape, ()) => ⟨family, shape⟩

def Grammar.schema : Schema Grammar :=
  .record "struct Grammar" true
    (.field "base_name" none .text (.field "root" none Root.schema
      (.field "scanner_path" (some Grammar.defaultScanner) .text
        (.field "families" none (.list Family.schema) .none))))
    fun (stem, root, scanner, families, ()) => ⟨stem, root, scanner, families⟩

end NodeFamilies
