import Stencil.Yaml.Scalar
/-!
# Values of YAML documents

A document's node tree becomes a value: scalars by their tags (`constructScalar`), lists from
sequences and mappings from mappings, keyed by values; a sequence used as a key becomes a tuple,
and a mapping or a set cannot be a key. A mapping tagged as a set becomes the set of its keys;
a sequence of one-pair mappings tagged as an ordered map becomes a mapping, and tagged as pairs
a list of key and value tuples.

Building follows a fixed order, which decides which error is reported first. A collection is
first set aside empty, and its entries are built later, level by level, breadth first; keys are
built at once and completely. A mapping refuses a key equal to an earlier one (`Value.sameKey`),
naming the key, the new value and the first value as they were at that moment (a collection
still empty). A `<<` key merges the pairs of the mapping (or mappings, the later ones first) it
names into the mapping; then keys may repeat and the last value wins. An ordered map refuses a
key that cannot be compared fast, and asserts that its keys differ.

A reader carries one thing from text to text: the first document it reads fixes the version its
typing rules fall back to (`YamlLoader`).

* `checkDocument` : the first error building a document's value meets.
* `YamlLoader`, `readYaml` : the value of a YAML text.
-/

namespace Stencil.Yaml

open Stencil.Text Stencil.Markup

def collectionTags : List String := ["seq", "map", "set", "omap", "pairs"].map yamlTag

def duplicateKeyNote : String :=
  "\nTo suppress this check see:\n    http://yaml.readthedocs.io/en/latest/api.html#duplicate-keys\n"

/-- The kind of the first part of a tuple key that cannot be compared for equality fast: a
list, a mapping or a set inside it. -/
def unhashablePart : Value → Option String
  | .tuple xs => xs.attach.findSome? fun ⟨x, _⟩ => match x with
    | .list _ => some "list"
    | .dict _ => some "dict"
    | .set _ => some "set"
    | x => unhashablePart x
  | _ => none

def unhashableTag (tag : String) : Option String :=
  if tag == yamlTag "seq" || tag == yamlTag "pairs" then some "list"
  else if tag == yamlTag "map" || tag == yamlTag "omap" then some "dict"
  else if tag == yamlTag "set" then some "set"
  else none

def emptyText (tag : String) : String :=
  if tag == yamlTag "seq" || tag == yamlTag "pairs" then "[]"
  else if tag == yamlTag "set" then "set()"
  else if tag == yamlTag "omap" then "ordereddict()"
  else "\x7b\x7d"

mutual

def Node.count : Node → Nat
  | .scalar .. => 1
  | .sequence _ items _ => 1 + countItems items
  | .mapping _ pairs _ => 1 + countPairs pairs

def countItems : List Node → Nat
  | [] => 0
  | n :: rest => n.count + countItems rest

def countPairs : List (Node × Node) → Nat
  | [] => 0
  | (k, v) :: rest => k.count + v.count + countPairs rest

end

/-- The pairs of a mapping node with its `<<` keys merged in: the pairs of the mappings they
name come first (of a list of mappings, the later ones first), and whether duplicate keys are
refused (only when nothing was merged). `fuel` bounds the nesting. -/
def flattenPairs : Nat → Node → Except YamlError (List (Node × Node) × Bool)
  | fuel + 1, .mapping _ pairs start => do
    let context := some "while constructing a mapping"
    let mut merged : List (Node × Node) := []
    let mut own : List (Node × Node) := []
    for (k, v) in pairs do
      if k.tag == yamlTag "merge" then
        if !merged.isEmpty then
          let text := match k with
            | .scalar _ value _ _ => value
            | _ => ""
          throw (.marked context (some start) ("found duplicate key \"" ++ text ++ "\"") k.start
            (some duplicateKeyNote))
        match v with
        | .mapping .. =>
          let (ps, _) ← flattenPairs fuel v
          merged := merged ++ ps
        | .sequence _ items _ =>
          let mut parts : List (List (Node × Node)) := []
          for item in items do
            match item with
            | .mapping .. =>
              let (ps, _) ← flattenPairs fuel item
              parts := parts ++ [ps]
            | _ =>
              throw (.marked context (some start)
                ("expected a mapping for merging, but found " ++ item.id) item.start none)
          merged := merged ++ parts.reverse.flatten
        | _ =>
          throw (.marked context (some start)
            ("expected a mapping or list of mappings for merging, but found " ++ v.id) v.start none)
      else if k.tag == yamlTag "value" then
        let k := match k with
          | .scalar _ value style m => Node.scalar (yamlTag "str") value style m
          | k => k
        own := own ++ [(k, v)]
      else own := own ++ [(k, v)]
    return if merged.isEmpty then (own, true) else (merged ++ own, false)
  | _, n => pure ([], n.tag != yamlTag "merge")

def asKey : Value → Value
  | .list xs => .tuple xs
  | key => key

def singlePairs (items : List Node) : List (Node × Node) :=
  items.filterMap fun
    | .mapping _ [p] _ => some p
    | _ => none

def Node.toValue (version : Version) : Nat → Node → Value
  | 0, _ => .null
  | fuel + 1, n =>
    let build := fun (m : Node) => toValue version fuel m
    match n with
    | .scalar tag text _ start => (constructScalar version tag text start).toOption.getD .null
    | .sequence tag items _ =>
      if tag == yamlTag "omap" then
        .dict ((singlePairs items).foldl (fun acc (k, v) => Value.setEntry acc (build k) (build v)) [])
      else if tag == yamlTag "pairs" then
        .list ((singlePairs items).map fun (k, v) => .tuple [build k, build v])
      else .list (items.map build)
    | .mapping tag .. =>
      let pairs := match flattenPairs (fuel + 1) n with
        | .ok (ps, _) => ps
        | .error _ => []
      let entries := pairs.foldl (fun acc (k, v) => Value.setEntry acc (asKey (build k)) (build v)) []
      if tag == yamlTag "set" then .set (entries.map (·.1)) else .dict entries

/-- The first step of building a node's value: a scalar with a scalar tag is built at once (or
fails), a collection is set aside to be filled later; another tag cannot be built. -/
def Node.begin (version : Version) (n : Node) : Except YamlError (Option Node) :=
  let tag := n.tag
  if scalarTags.contains tag then
    match n with
    | .scalar _ text _ start => (constructScalar version tag text start).map fun _ => none
    | _ => throw (.marked none none ("expected a scalar node, but found " ++ n.id) n.start none)
  else if collectionTags.contains tag then pure (some n)
  else throw (.marked none none ("could not determine a constructor for the tag " ++ quoteText tag) n.start none)

/-- Fill a collection set aside, checking its entries in order, and return the collections set
aside meanwhile. With `deep`, nested collections are filled at once instead. In a mapping (or
set) a key is built completely, then the value is begun, then the key is compared with the
earlier keys. An ordered map or pairs must be a sequence of one-pair mappings; an ordered map
begins each key, refuses one that cannot be compared fast, asserts it is new, then begins the
value. `fuel` bounds the nesting. -/
def fillCollection (version : Version) : Nat → Bool → Node → Except YamlError (List Node)
  | 0, _, _ => pure []
  | fuel + 1, deep, n => do
    let visit := fun (deep : Bool) (child : Node) => do
      match ← child.begin version with
      | none => pure []
      | some c => if deep then fillCollection version fuel true c else pure [c]
    let shown := fun (v : Node) =>
      if !deep && collectionTags.contains v.tag then emptyText v.tag
      else (v.toValue version (fuel + 1)).plainText Forest.empty
    let tag := n.tag
    if tag == yamlTag "seq" then
      match n with
      | .sequence _ items _ => items.foldlM (fun later item => return later ++ (← visit deep item)) []
      | _ => throw (.marked none none ("expected a sequence node, but found " ++ n.id) n.start none)
    else if tag == yamlTag "map" || tag == yamlTag "set" then
      match n with
      | .mapping _ _ start =>
        let (pairs, refuse) ← flattenPairs (fuel + 1) n
        let mut later : List Node := []
        let mut seen : List (Value × String) := []
        for (k, v) in pairs do
          let _ ← visit true k
          let key := asKey (k.toValue version (fuel + 1))
          match key with
          | .dict _ | .set _ =>
            throw (.marked (some "while constructing a mapping") (some start) "found unhashable key" k.start none)
          | _ => pure ()
          later := later ++ (← visit deep v)
          if let some kind := unhashablePart key then
            throw (.unexpected "TypeError" ("unhashable type: '" ++ kind ++ "'"))
          if refuse then
            match seen.find? (key.sameKey ·.1) with
            | some (_, earlier) =>
              throw (.marked (some "while constructing a mapping") (some start)
                ("found duplicate key \"" ++ key.plainText Forest.empty ++ "\" with value \"" ++ shown v ++
                  "\" (original value: \"" ++ earlier ++ "\")") k.start (some duplicateKeyNote))
            | none => seen := seen ++ [(key, shown v)]
        return later
      | _ => throw (.marked none none ("expected a mapping node, but found " ++ n.id) n.start none)
    else
      let ordered := tag == yamlTag "omap"
      let context := some (if ordered then "while constructing an ordered map" else "while constructing pairs")
      match n with
      | .sequence _ items start =>
        let mut later : List Node := []
        let mut seen : List Value := []
        for item in items do
          match item with
          | .mapping _ [(k, v)] _ =>
            later := later ++ (← visit deep k)
            if ordered then
              if let some kind := unhashableTag k.tag then
                throw (.unexpected "TypeError" ("unhashable type: '" ++ kind ++ "'"))
              let key := k.toValue version (fuel + 1)
              if seen.any key.sameKey then throw (.unexpected "AssertionError" "")
              seen := seen ++ [key]
            later := later ++ (← visit deep v)
          | .mapping _ pairs _ =>
            throw (.marked context (some start) ("expected a single mapping item, but found " ++
              toString pairs.length ++ " items") item.start none)
          | _ =>
            throw (.marked context (some start) ("expected a mapping of length 1, but found " ++ item.id)
              item.start none)
        return later
      | _ => throw (.marked context (some n.start) ("expected a sequence, but found " ++ n.id) n.start none)

/-- Fill the collections set aside, first in first out, with the ones they set aside queued
behind them. -/
def fillQueue (version : Version) (depth : Nat) : Nat → List Node → Except YamlError Unit
  | 0, _ => pure ()
  | _, [] => pure ()
  | fuel + 1, n :: rest => do
    let more ← fillCollection version depth false n
    fillQueue version depth fuel (rest ++ more)

/-- The first error building the value of a document's node meets, in the order the value is
built. -/
def checkDocument (version : Version) (root : Node) : Except YamlError Unit := do
  let size := root.count + 1
  match ← root.begin version with
  | none => pure ()
  | some c => fillQueue version size size [c]

/-- What reading texts one after another carries over. The typing rules of a reader are fixed
at the first document it reads, to the version that document declares (none when it declares a
tag handle, which is read before its version takes effect); a later text that declares no
version is read by that version. -/
structure YamlLoader where
  rules : Option (Option Version)
deriving Inhabited

def YamlLoader.fresh : YamlLoader := ⟨none⟩

def firstDeclarations (events : List Event) : Option (Option Version × List (String × String)) :=
  events.findSome? fun e => match e.kind with
    | .documentStart _ v handles => some (v, handles)
    | _ => none

/-- The value of a YAML text with at most one document (null when there is none), in which at
most `room` collections enclose a node, and the reader after it. -/
def readYaml (loader : YamlLoader) (room : Nat) (text : String) : Except YamlError (Value × YamlLoader) := do
  if let some e := firstUnacceptable? (codePoints text.toList) then throw e
  let src := sourceOf text
  let inherited := loader.rules.join
  let (events, failure) := parseEvents src inherited
  match ← composeSingle events failure (inherited.getD .v12) room with
  | none => return (.null, loader)
  | some root =>
    let (declared, handles) := (firstDeclarations events).getD (none, [])
    let version := declared.getD (inherited.getD .v12)
    let after : YamlLoader := match loader.rules with
      | some _ => loader
      | none => ⟨some (if handles.isEmpty then declared else none)⟩
    checkDocument version root
    return (root.toValue version (root.count + 1), after)

def yamlMessage (text : String) (e : YamlError) : String := e.message (sourceOf text)

end Stencil.Yaml
