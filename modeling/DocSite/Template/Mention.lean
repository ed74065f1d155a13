/-
# DocSite.Template.Mention -- names that a macro asks for

A macro is given what calls it only if its body, or a default of a parameter, mentions the name for
that. A parameter of the same name stands for itself.
-/
import DocSite.Template.Node

set_option autoImplicit false

namespace DocSite.Template

mutual
/-- Whether an expression mentions a name. -/
def Expr.mentions (name : Text) : Expr → Bool
  | .const _ => false
  | .var other => other == name
  | .list items => exprsMention name items
  | .map entries => entriesMention name entries
  | .field of _ => of.mentions name
  | .item of key => of.mentions name || key.mentions name
  | .slice of start stop step =>
    of.mentions name || optionMentions name start || optionMentions name stop || optionMentions name step
  | .not of => of.mentions name
  | .negate of => of.mentions name
  | .binary _ left right => left.mentions name || right.mentions name
  | .choose condition yes no =>
    condition.mentions name || yes.mentions name || optionMentions name no
  | .filter of _ arguments => of.mentions name || argumentsMention name arguments
  | .test of _ arguments => of.mentions name || argumentsMention name arguments
  | .call of arguments => of.mentions name || argumentsMention name arguments

/-- Whether an expression that may be missing mentions a name. -/
def optionMentions (name : Text) : Option Expr → Bool
  | none => false
  | some e => e.mentions name

/-- Whether one of some expressions mentions a name. -/
def exprsMention (name : Text) : List Expr → Bool
  | [] => false
  | e :: es => e.mentions name || exprsMention name es

/-- Whether the entries of a mapping mention a name. -/
def entriesMention (name : Text) : List (Expr × Expr) → Bool
  | [] => false
  | (key, value) :: es => key.mentions name || value.mentions name || entriesMention name es

/-- Whether arguments mention a name. -/
def argumentsMention (name : Text) : List Argument → Bool
  | [] => false
  | .value e :: es => e.mentions name || argumentsMention name es
  | .named _ e :: es => e.mentions name || argumentsMention name es
  | .spread e :: es => e.mentions name || argumentsMention name es
  | .spreadNamed e :: es => e.mentions name || argumentsMention name es
end

/-- Whether filters mention a name. -/
def filtersMention (name : Text) (filters : List FilterCall) : Bool :=
  filters.any fun filter => argumentsMention name filter.arguments

/-- Whether a macro with this signature asks for a name that its body mentions or not. -/
def Signature.asksFor (name : Text) (signature : Signature) (mentioned : Bool) : Bool :=
  !signature.parameters.contains name && (exprsMention name signature.defaults || mentioned)

mutual
/-- Whether a part of a template mentions a name. -/
def Node.mentions (name : Text) : Node → Bool
  | .data _ => false
  | .write e => e.mentions name
  | .ifElse condition yes no => condition.mentions name || nodesMention name yes || nodesMention name no
  | .loop _ subject condition _ body otherwise =>
    subject.mentions name || optionMentions name condition || nodesMention name body ||
      nodesMention name otherwise
  | .scope assignments body =>
    (assignments.any fun (_, e) => e.mentions name) || nodesMention name body
  | .set _ e => e.mentions name
  | .setBlock _ filters body => filtersMention name filters || nodesMention name body
  | .escaping mode body => mode.mentions name || nodesMention name body
  | .filtered filters body => filtersMention name filters || nodesMention name body
  | .block _ => false
  | .inherit e => e.mentions name
  | .includes e _ => e.mentions name
  | .importAs e _ => e.mentions name
  | .importFrom e _ => e.mentions name
  | .macroDef _ signature body => signature.asksFor name (nodesMention name body)
  | .callBlock signature call body =>
    call.mentions name || signature.asksFor name (nodesMention name body)
  | .run e => e.mentions name

/-- Whether parts of a template mention a name. -/
def nodesMention (name : Text) : List Node → Bool
  | [] => false
  | node :: nodes => node.mentions name || nodesMention name nodes
end

end DocSite.Template
