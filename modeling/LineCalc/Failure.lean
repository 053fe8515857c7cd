import LineCalc.Syntax.Kind

/-!
Failures: a family, a summary and the offending kind, if there is one.
-/
namespace LineCalc
open Syntax

/-- An unreachable node is a broken invariant: it shows a fault of the program, not of its input. -/
inductive Failure.Family where
  | general
  | brokenInvariant
  | unreachableNode
  | configuration
  deriving DecidableEq, Repr

namespace Failure.Family

def lineage : Family → List Family
  | general => [general]
  | brokenInvariant => [brokenInvariant, general]
  | unreachableNode => [unreachableNode, brokenInvariant, general]
  | configuration => [configuration, general]

end Failure.Family

structure Failure where
  family : Failure.Family
  summary : String
  kind? : Option Kind := none
  deriving DecidableEq, Repr

def Failure.message (failure : Failure) : String :=
  match failure.kind? with
  | some kind => failure.summary ++ " (" ++ kind.name ++ ")"
  | none => failure.summary

end LineCalc
