import OpGraph.Markup.Node

/-!
# Markup contents

What the tree of a text stands for: words, sequences and mappings. Within a mapping no key may
be repeated, and the mappings that are its values must start at one column. The key `<<` merges
other mappings into the one that holds it: their entries are added where a key is missing.
-/
namespace OpGraph.Markup

/-- A scalar is a text, or one of the words `<<` and `=` without quotes, which are no texts. -/
inductive Word where
  | text (value : String)
  | symbol (value : String)
  deriving DecidableEq, Inhabited

inductive Key where
  | text (value : String)
  | sequence (words : List Word)
  deriving DecidableEq

inductive Content where
  | word (word : Word)
  | sequence (items : List Content)
  | mapping (entries : List (Key × Content))
  deriving Inhabited

namespace Word

def mergeMark : String := "<<"

def ofScalar (text : String) (isPlain : Bool) : Word :=
  if isPlain && (text = mergeMark || text = "=") then .symbol text else .text text

/-- A word as it is written. -/
def written : Word → String
  | .text value | .symbol value => value

def text? : Word → Option String
  | .text value => some value
  | .symbol _ => none

/-- Two texts may be the same; a symbol is the same as no other word. -/
def same (a b : Word) : Bool :=
  a.text?.isSome && a.text? == b.text?

end Word

namespace Key

def sameWords : List Word → List Word → Bool
  | [], [] => true
  | a :: as, b :: bs => a.same b && sameWords as bs
  | _, _ => false

def same : Key → Key → Bool
  | .text a, .text b => a == b
  | .sequence as, .sequence bs => sameWords as bs
  | _, _ => false

/-- A key from its content. A sequence as a key may hold words only. -/
def ofContent : Content → Except MarkupFault Key
  | .word word => .ok (.text word.written)
  | .sequence items => do
    return .sequence (← items.mapM fun
      | .word word => .ok word
      | _ => .error .collectionInKey)
  | .mapping _ => .error .malformed

end Key

namespace Node

def isMerge : Node → Bool
  | .scalar text true _ => text == Word.mergeMark
  | _ => false

def isMapping : Node → Bool
  | .mapping _ _ _ => true
  | _ => false

def isCollection : Node → Bool
  | .scalar _ _ _ => false
  | _ => true

def isRemarked (node : Node) : Bool :=
  node.remarks.isSome

/-- Whether something stands before a node. -/
def isNoted (node : Node) : Bool :=
  (node.remarks.bind (·.before)).isSome

/-- The columns at which the values that are mappings start, merged ones left out. -/
def mappingColumns (entries : List (Node × Node)) : List Nat :=
  entries.filterMap fun (key, value) => match value with
    | .mapping column _ _ => if key.isMerge then none else some column
    | _ => none

def checkColumns (entries : List (Node × Node)) : Except MarkupFault Unit :=
  match mappingColumns entries with
  | [] => .ok ()
  | first :: rest =>
    if rest.all (· == first) then .ok () else .error .inconsistentIndentation

end Node

/-- A key that a mapping has, and whether something stands before it and before its value. -/
structure TakenKey where
  key : Key
  keyNoted : Bool
  valueNoted : Bool

/-- A repeated key is a fault of its own, unless its remarks collide with those of the first
one. -/
def requireNew (seen : List TakenKey) (key : Key) (keyNode value : Node) :
    Except MarkupFault (List TakenKey) :=
  match seen.find? fun first => first.key.same key with
  | some first =>
    if (keyNode.isRemarked && first.keyNoted) || (value.isRemarked && first.valueNoted) then
      .error .remarksRepeated
    else .error .duplicateKeys
  | none => .ok (⟨key, keyNode.isNoted, value.isNoted⟩ :: seen)

def requireNotMapping : Content → Except MarkupFault Unit
  | .mapping _ => .error .malformed
  | _ => .ok ()

namespace Content

abbrev Entries := List (Key × Content)

/-- The entries of a mapping with those merged into it whose keys it does not have. -/
def addMissing (own : Entries) (merged : List Entries) : Entries :=
  merged.flatten.foldl (fun entries entry =>
    if entries.any fun other => other.1.same entry.1 then entries else entries ++ [entry]) own

/-- The entries of a mapping from those that it lists and those that are merged into it. -/
def complete (entries : List (Node × Node)) (merged : List Entries) (own : Entries) :
    Except MarkupFault Entries := do
  Node.checkColumns entries
  return addMissing own merged

mutual

/-- The content of a node, merged mappings before the mapping that they are merged into. -/
def ofNode : Node → Except MarkupFault Content
  | .scalar text isPlain _ => .ok (.word (.ofScalar text isPlain))
  | .sequence items _ => do return .sequence (← ofItems items)
  | .mapping _ entries _ => do
    return .mapping (← complete entries (← mergedEntries [] entries) (← ownEntries [] entries))

def ofItems : List Node → Except MarkupFault (List Content)
  | [] => .ok []
  | item :: items => do return (← ofNode item) :: (← ofItems items)

/-- The entries merged into a mapping, a list for each mapping that the merging key gives. -/
def mergedEntries (found : List Entries) : List (Node × Node) → Except MarkupFault (List Entries)
  | [] => .ok found
  | (key, value) :: entries => do
    if !key.isMerge then mergedEntries found entries
    else if !found.isEmpty then throw .duplicateMerge
    else match value with
      | .mapping _ inner _ =>
        let merged ← complete inner (← mergedEntries [] inner) (← ownEntries [] inner)
        mergedEntries [merged] entries
      | .sequence items _ => mergedEntries (← mergedItems items) entries
      | .scalar _ _ _ => throw .malformed

/-- The entries of the items of a sequence, all of which must be mappings. -/
def mergedItems : List Node → Except MarkupFault (List Entries)
  | [] => .ok []
  | .mapping _ inner _ :: items => do
    let merged ← complete inner (← mergedEntries [] inner) (← ownEntries [] inner)
    return merged :: (← mergedItems items)
  | _ :: _ => .error .malformed

/-- The entries that a mapping lists itself. -/
def ownEntries (seen : List TakenKey) : List (Node × Node) → Except MarkupFault Entries
  | [] => .ok []
  | (keyNode, valueNode) :: entries => do
    if keyNode.isMerge then ownEntries seen entries
    else
      let key ← ofNode keyNode
      requireNotMapping key
      let value ← ofNode valueNode
      let key ← Key.ofContent key
      let seen ← requireNew seen key keyNode valueNode
      return (key, value) :: (← ownEntries seen entries)

end

/-- The mappings that the merging key of a mapping gives. -/
def mergedNodes (found : List Node) : List (Node × Node) → Except MarkupFault (List Node)
  | [] => .ok found
  | (key, value) :: entries =>
    if !key.isMerge then mergedNodes found entries
    else if !found.isEmpty then .error .duplicateMerge
    else match value with
      | .mapping _ _ _ => mergedNodes [value] entries
      | .sequence items _ =>
        if items.all Node.isMapping then mergedNodes items entries
        else .error .malformed
      | .scalar _ _ _ => .error .malformed

/-- Checks a collection that is built by itself, and gives those in it that are built later. -/
def checkShallow : Node → Except MarkupFault (List Node)
  | .scalar _ _ _ => .ok []
  | .sequence items _ => .ok (items.filter Node.isCollection)
  | .mapping _ entries _ => do
    let merged ← mergedNodes [] entries
    let _ ← ownEntries [] entries
    Node.checkColumns entries
    return merged

/-- Checks collections round by round. -/
def checkRounds : Nat → List Node → Except MarkupFault Unit
  | 0, _ => .ok ()
  | fuel + 1, nodes => do
    let later ← nodes.mapM checkShallow
    if nodes.isEmpty then return () else checkRounds fuel later.flatten

/-- The content of the top node. What is merged into a top mapping is checked only after the
mapping is complete, and its entries are dropped. -/
def ofTop (depth : Nat) (node : Node) : Except MarkupFault Content := do
  checkRounds depth [node]
  match node with
  | .mapping _ entries _ => return .mapping (← ownEntries [] entries)
  | node => ofNode node

/-- The content of a text; a text without a document has none. -/
def ofText (text : String) : Except MarkupFault (Option Content) := do
  match ← Node.ofText text with
  | some node => return some (← ofTop (text.length + 2) node)
  | none => return none

end Content

end OpGraph.Markup
