import NodeFamilies.Grammar.Basic

/-!
# Built-in grammars
-/

namespace NodeFamilies

inductive Preset where
  /-- Expressions alone, with a single one at the root. -/
  | expr
  /-- Expressions and statements; the root is a sequence of statements. -/
  | program
  deriving DecidableEq, Repr

namespace Preset

def exprFamily : Family :=
  ⟨"expr",
    [⟨"Literal", ["Literal"]⟩,
     ⟨"Binary", ["Box<Expr>", "Token", "Box<Expr>"]⟩,
     ⟨"Unary", ["Token", "Box<Expr>"]⟩,
     ⟨"Grouping", ["Box<Expr>"]⟩]⟩

def programExprFamily : Family :=
  ⟨"expr",
    [⟨"Assign", ["Token", "Box<Expr>"]⟩,
     ⟨"Literal", ["Literal"]⟩,
     ⟨"Logical", ["Box<Expr>", "Token", "Box<Expr>"]⟩,
     ⟨"Binary", ["Box<Expr>", "Token", "Box<Expr>"]⟩,
     ⟨"Unary", ["Token", "Box<Expr>"]⟩,
     ⟨"Grouping", ["Box<Expr>"]⟩,
     ⟨"Variable", ["Token"]⟩]⟩

def programStmtFamily : Family :=
  ⟨"stmt",
    [⟨"Block", ["Vec<Box<Stmt>>"]⟩,
     ⟨"Expression", ["Box<Expr>"]⟩,
     ⟨"If", ["Box<Expr>", "Box<Stmt>", "Option<Box<Stmt>>"]⟩,
     ⟨"Print", ["Box<Expr>"]⟩,
     ⟨"Var", ["Token", "Box<Expr>"]⟩,
     ⟨"While", ["Box<Expr>", "Box<Stmt>"]⟩]⟩

def grammar : Preset → Grammar
  | expr => ⟨"expr", ⟨"expr", .single⟩, Grammar.defaultScanner, [exprFamily]⟩
  | program =>
    ⟨"ast", ⟨"stmt", .sequence⟩, Grammar.defaultScanner, [programExprFamily, programStmtFamily]⟩

def name : Preset → String
  | expr => "expr"
  | program => "program"

def ofName? : String → Option Preset
  | "expr" => some expr
  | "program" => some program
  | _ => none

end Preset

end NodeFamilies
