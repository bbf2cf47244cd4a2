import DocumentStore.Pattern.Size.Meter

/-!
# Trees of texts

A choice of texts is made into a tree in which texts that begin alike run
together. Where a text ends in the midst of others the edges made so far
are closed, so that the order in which the texts were given is kept: later
texts go on by edges of a new round. `TextTree.weigh` says what the tree
takes.
-/

namespace DocumentStore.Pattern.Size

/-- A tree: how many rounds of edges are closed, and the edges, each under
its round and its byte. -/
inductive TextTree where
  | node (closed : Nat) (edges : List ((Nat × Nat) × TextTree))

namespace TextTree

/-- The tree of no text. -/
def empty : TextTree := .node 0 []

/-- Adds a text, given by its bytes. -/
def insert : List Nat → TextTree → TextTree
  | [], .node closed edges =>
    if edges.isEmpty && closed != 0 then .node closed edges else .node (closed + 1) edges
  | b :: bs, .node closed edges =>
    let key := (closed, b)
    if edges.any fun (k, _) => k == key then
      .node closed (edges.map fun (k, t) => if k == key then (k, insert bs t) else (k, t))
    else .node closed ((key, insert bs empty) :: edges)

/-- The states and further bytes of a node's own: a state for each round with
edges, and one that joins the rounds and the ends between them. -/
def ownTally (closed : Nat) (rounds : List Nat) : Tally :=
  let distinct := rounds.eraseDups
  let edges (round : Nat) : Nat :=
    let n := rounds.count round
    if n = 1 then 0 else edgeBytes * n
  { states := distinct.length + 1,
    extra := distinct.foldl (fun n round => n + edges round)
      (branchBytes * (distinct.length + closed)) }

mutual

/-- What a tree takes. A node without edges is an end, which takes nothing. -/
def weigh : TextTree → Tally
  | .node _ [] => ⟨0, 0⟩
  | .node closed (edge :: edges) =>
    let own := ownTally closed ((edge :: edges).map fun e => e.1.1)
    let below := weighEdges (edge :: edges)
    ⟨own.states + below.states, own.extra + below.extra⟩

/-- What the trees below edges take. -/
def weighEdges : List ((Nat × Nat) × TextTree) → Tally
  | [] => ⟨0, 0⟩
  | (_, t) :: edges =>
    let first := t.weigh
    let rest := weighEdges edges
    ⟨first.states + rest.states, first.extra + rest.extra⟩

end

end TextTree

/-- Makes the automaton of a choice of texts, given by their bytes. -/
def growTexts (texts : List (List Nat)) : Meter Unit := do
  let t := (texts.foldl (fun t bs => t.insert bs) TextTree.empty).weigh
  grow (t.states + 1) t.extra

end DocumentStore.Pattern.Size
