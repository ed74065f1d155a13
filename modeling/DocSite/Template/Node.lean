/-
# DocSite.Template.Node -- templates as trees

A template is a list of nodes: text, values to be written, and statements. The contents of blocks
stand beside the nodes, by name, because a template that extends another one gives the blocks of
that one new contents.
-/
import DocSite.Template.Value

set_option autoImplicit false

namespace DocSite.Template

/-- An operation on two values. -/
inductive Operator where
  | add
  | subtract
  | multiply
  | divide
  | floorDivide
  | remainder
  | power
  | concatenate
  | equal
  | notEqual
  | less
  | lessEqual
  | greater
  | greaterEqual
  | isIn
  | and
  | or
deriving DecidableEq, Repr

mutual
/-- An expression. -/
inductive Expr where
  | const (value : Value)
  | var (name : Text)
  | list (items : List Expr)
  | map (entries : List (Expr × Expr))
  | field (of : Expr) (name : Text)
  | item (of : Expr) (key : Expr)
  | slice (of : Expr) (start stop step : Option Expr)
  | not (of : Expr)
  | negate (of : Expr)
  | binary (operator : Operator) (left right : Expr)
  | choose (condition yes : Expr) (no : Option Expr)
  | filter (of : Expr) (name : Text) (arguments : List Argument)
  | test (of : Expr) (name : Text) (arguments : List Argument)
  | call (of : Expr) (arguments : List Argument)

/-- An argument of a call. -/
inductive Argument where
  | value (expr : Expr)
  | named (name : Text) (expr : Expr)
  | spread (expr : Expr)
  | spreadNamed (expr : Expr)
end

/-- What a value is assigned to. -/
inductive Target where
  | name (text : Text)
  | field (of : Expr) (name : Text)
  | list (targets : List Target)

/-- A filter with its arguments. -/
structure FilterCall where
  name : Text
  arguments : List Argument

/-- The signature of a macro: the parameters, and the defaults of the last ones. -/
structure Signature where
  parameters : List Text
  defaults : List Expr

/-- A part of a template. -/
inductive Node where
  | data (text : Text)
  | write (expr : Expr)
  | ifElse (condition : Expr) (yes no : List Node)
  | loop (target : Target) (subject : Expr) (condition : Option Expr) (recursive : Bool)
      (body otherwise : List Node)
  | scope (assignments : List (Target × Expr)) (body : List Node)
  | set (target : Target) (expr : Expr)
  | setBlock (target : Target) (filters : List FilterCall) (body : List Node)
  | escaping (mode : Expr) (body : List Node)
  | filtered (filters : List FilterCall) (body : List Node)
  | block (name : Text)
  | inherit (name : Expr)
  | includes (name : Expr) (ignoreMissing : Bool)
  | importAs (name : Expr) (target : Target)
  | importFrom (name : Expr) (names : List (Text × Text))
  | macroDef (name : Text) (signature : Signature) (body : List Node)
  | callBlock (signature : Signature) (call : Expr) (body : List Node)
  | run (call : Expr)

/-- A template that has been read: its nodes and the contents of its blocks. -/
structure Document where
  nodes : List Node
  blocks : List (Text × List Node)

end DocSite.Template
