import Scaffold.Yaml.Composition
import Scaffold.Yaml.Scalar
/-!
Reading YAML: the value of the node of a document.  Faults are met level by level: of several, the
shallowest is told, and of equally deep ones the first.  A mapping takes in the entries of others
that it merges, before its own.
-/

namespace Scaffold.Yaml

/-- A result, or a fault and how deep it lies. -/
abbrev Built (α : Type) := Except (Nat × Fault) α

/-- A malformed part in some depth. -/
def misfit {α : Type} (depth : Nat) : Built α := .error (depth, .malformed)

/-- Two results; the shallower of two faults counts, of equally deep ones the first. -/
def Built.and {α β : Type} : Built α → Built β → Built (α × β)
  | .ok a, .ok b => .ok (a, b)
  | .ok _, .error f => .error f
  | .error e, .ok _ => .error e
  | .error e, .error f => .error (if f.1 < e.1 then f else e)

/-- What is built of a list, with one more before it. -/
def Built.cons {α : Type} (a : Built α) (as : Built (List α)) : Built (List α) :=
  (a.and as).map fun r => r.1 :: r.2

/-- A key has to be a scalar, which is seen before the parts of a collection are. -/
def asKey (depth : Nat) : Built Value → Built Scalar
  | .ok (.scalar s) => .ok s
  | .ok _ => misfit depth
  | .error (n, fault) => if depth < n then misfit depth else .error (n, fault)

mutual
/-- Whether what a mapping merges are mappings. -/
def mergesMappings : List (Node × Node) → Bool
  | [] => true
  | (k, v) :: es => (k.tag != .merge || v.isMergeable) && mergesMappings es

/-- Whether a node is a mapping, or a list of them, that can be merged. -/
def Node.isMergeable : Node → Bool
  | .scalar _ _ => false
  | .mapping _ es => mergesMappings es
  | .list _ items => areMergeable items

def areMergeable : List Node → Bool
  | [] => true
  | .mapping _ es :: rest => mergesMappings es && areMergeable rest
  | _ :: _ => false
end

mutual
/-- The text of a scalar, or of the default entry of a mapping. -/
def Node.textOf? : Node → Option (List Nat)
  | .scalar _ points => some points
  | .list _ _ => none
  | .mapping _ es => defaultTextOf? es

def defaultTextOf? : List (Node × Node) → Option (List Nat)
  | [] => none
  | (k, v) :: es => if k.tag = .default then v.textOf? else defaultTextOf? es
end

/-- The mapping of entries; of equal keys the last one counts, in the place of the first. -/
def mappingOf (entries : List (Scalar × Value)) : Value :=
  .dict (entries.foldl (fun es e => setEntry es e.1 e.2) [])

def setOf (entries : List (Scalar × Value)) : Value :=
  .set (entries.foldl (fun ks e => addElement ks e.1) [])

/-- The entries that a mapping merges, and those that are its own. -/
def gathered (depth : Nat) (es : List (Node × Node)) (merged own : Built (List (Scalar × Value))) :
    Built (List (Scalar × Value)) :=
  if mergesMappings es then (merged.and own).map fun r => r.1 ++ r.2 else misfit depth

/-- What the default entry of a mapping stands for; a moment has to be written as one. -/
def defaultOf (tag : Tag) (points : List Nat) : Except Fault Scalar :=
  if tag = .moment then .error .noText else scalarOf tag points

mutual
def Node.value (depth : Nat) : Node → Built Value
  | .scalar tag points =>
    match tag with
    | .list | .pairs | .set | .mapping => misfit (depth + 1)
    | tag => ((scalarOf tag points).map Value.scalar).mapError (depth, ·)
  | .list tag items =>
    match tag with
    | .list => (valuesOf (depth + 1) items).map .list
    | .pairs => (pairsOf (depth + 1) items).map .list
    | .set | .mapping => misfit (depth + 1)
    | _ => misfit depth
  | .mapping tag es =>
    match tag with
    | .mapping =>
      (gathered (depth + 1) es (mergedOf (depth + 1) es) (ownOf (depth + 1) es)).map mappingOf
    | .set =>
      (gathered (depth + 1) es (mergedOf (depth + 1) es) (ownOf (depth + 1) es)).map setOf
    | .list | .pairs => misfit (depth + 1)
    | tag =>
      match defaultTextOf? es with
      | some points => ((defaultOf tag points).map Value.scalar).mapError (depth, ·)
      | none => misfit depth

def valuesOf (depth : Nat) : List Node → Built (List Value)
  | [] => .ok []
  | node :: rest => (node.value depth).cons (valuesOf depth rest)

/-- The pairs that mappings of one entry each are. -/
def pairsOf (depth : Nat) : List Node → Built (List Value)
  | [] => .ok []
  | .mapping _ [(k, v)] :: rest =>
    Built.cons (((k.value depth).and (v.value depth)).map fun p => .tuple [p.1, p.2])
      (pairsOf depth rest)
  | _ :: _ => misfit depth

/-- The entries of a mapping that are its own. -/
def ownOf (depth : Nat) : List (Node × Node) → Built (List (Scalar × Value))
  | [] => .ok []
  | (k, v) :: es =>
    if k.tag = .merge then ownOf depth es
    else
      let key : Built Value := if k.tag = .default then
          match k.textOf? with
          | some points => .ok (.scalar (.ofPoints points))
          | none => misfit depth
        else k.value depth
      Built.cons ((asKey depth key).and (v.value depth)) (ownOf depth es)

/-- The entries that a mapping merges. -/
def mergedOf (depth : Nat) : List (Node × Node) → Built (List (Scalar × Value))
  | [] => .ok []
  | (k, v) :: es =>
    if k.tag = .merge then
      ((v.mergeable depth).and (mergedOf depth es)).map fun r => r.1 ++ r.2
    else mergedOf depth es

/-- The entries of a node that is merged: of several mappings the last one comes first. -/
def Node.mergeable (depth : Nat) : Node → Built (List (Scalar × Value))
  | .mapping _ es => ((mergedOf depth es).and (ownOf depth es)).map fun r => r.1 ++ r.2
  | .list _ items => mergeableOf depth items
  | .scalar _ _ => misfit depth

def mergeableOf (depth : Nat) : List Node → Built (List (Scalar × Value))
  | [] => .ok []
  | node :: rest => ((mergeableOf depth rest).and (node.mergeable depth)).map fun r => r.1 ++ r.2
end

/-- The value of a text; a text without a document is nothing. -/
def read (source : String) : Except Fault Value := do
  match ← Node.ofTokens? (tokens source.toList) with
  | none => return .null
  | some node => (node.value 0).mapError (·.2)

end Scaffold.Yaml
