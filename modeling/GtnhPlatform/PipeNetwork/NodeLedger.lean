import GtnhPlatform.PipeNetwork.FluidFill

namespace GtnhPlatform.PipeNetwork

/-- What nodes hold of one resource, up to a limit, and can be given or taken. -/
structure NodeField where
  get : PipeNode → Int
  limit : PipeNode → Int
  add : Int → PipeNode → PipeNode
  get_add : ∀ amount node, get (add amount node) = get node + amount
  limit_add : ∀ amount node, limit (add amount node) = limit node
  domains_add : ∀ amount node, (add amount node).domains = node.domains
  add_zero : ∀ node, add 0 node = node
  add_add : ∀ first second node, add second (add first node) = add (first + second) node

def energyField : NodeField where
  get := PipeNode.energyBuffer
  limit := PipeNode.energyCapacity
  add amount node := { node with energyBuffer := node.energyBuffer + amount }
  get_add _ _ := rfl
  limit_add _ _ := rfl
  domains_add _ _ := rfl
  add_zero node := by rw [Int.add_zero]
  add_add first second node := by rw [Int.add_assoc]

def limitRate (rate amount : Int) : Int := if 0 < rate then min amount rate else amount

structure NodeLedger where
  manager : PipeNetworkManager
  deltas : Table Nat Int := ∅

namespace NodeField

variable (field : NodeField)

def heldAt (manager : PipeNetworkManager) (id : Nat) : Int :=
  ((manager.nodes.lookup id).map field.get).getD 0

def limitAt (manager : PipeNetworkManager) (id : Nat) : Int :=
  ((manager.nodes.lookup id).map field.limit).getD 0

end NodeField

namespace NodeLedger

def post (field : NodeField) (id : Nat) (amount : Int) (ledger : NodeLedger) : NodeLedger where
  manager := ledger.manager.updateNode id (field.add amount)
  deltas := PipeNetworkManager.addDelta id amount ledger.deltas

structure Posted (field : NodeField) (ledger : NodeLedger) (amount : Nat → Int)
    (out : NodeLedger) : Prop where
  nodes : ∀ id, out.manager.nodes.lookup id =
    (ledger.manager.nodes.lookup id).map (field.add (amount id))
  rest : out.manager = { ledger.manager with nodes := out.manager.nodes }
  deltas : ∀ id, PipeNetworkManager.deltaOf out.deltas id =
    PipeNetworkManager.deltaOf ledger.deltas id + amount id
  alive : ∀ id, amount id ≠ 0 → (ledger.manager.nodes.lookup id).isSome

variable {field : NodeField} {ledger middle out : NodeLedger} {amount later : Nat → Int}

theorem Posted.refl (field : NodeField) (ledger : NodeLedger) :
    ledger.Posted field (fun _ => 0) ledger where
  nodes id := by
    cases ledger.manager.nodes.lookup id with
    | none => rfl
    | some node => exact congrArg some (field.add_zero node).symm
  rest := rfl
  deltas id := (Int.add_zero _).symm
  alive _ some := absurd rfl some

theorem Posted.congr (posted : ledger.Posted field amount out) (same : ∀ id, amount id = later id) :
    ledger.Posted field later out := by
  obtain rfl : amount = later := funext same
  exact posted

theorem Posted.trans (first : ledger.Posted field amount middle)
    (second : middle.Posted field later out) :
    ledger.Posted field (fun id => amount id + later id) out where
  nodes id := by
    rw [second.nodes, first.nodes, Option.map_map]
    congr 1
    funext node
    exact field.add_add (amount id) (later id) node
  rest := by rw [second.rest, first.rest]
  deltas id := by rw [second.deltas, first.deltas, Int.add_assoc]
  alive id some := by
    by_cases none : amount id = 0
    · rw [none, Int.zero_add] at some
      have alive := second.alive id some
      rw [first.nodes, Option.isSome_map] at alive
      exact alive
    · exact first.alive id none

theorem post_posted (field : NodeField) {id : Nat} (amount : Int)
    (alive : (ledger.manager.nodes.lookup id).isSome) :
    ledger.Posted field (fun other => if other = id then amount else 0)
      (ledger.post field id amount) where
  nodes other := by
    rw [post, PipeNetworkManager.lookup_updateNode]
    congr 1
    funext node
    split
    · rfl
    · exact (field.add_zero node).symm
  rest := by
    rw [post, PipeNetworkManager.updateNode]
    split <;> rfl
  deltas other := PipeNetworkManager.Moved.deltaOf_addDelta ledger.deltas id amount other
  alive other some := by
    by_cases here : other = id
    · rw [here]
      exact alive
    · exact absurd (if_neg here) some

variable (posted : ledger.Posted field amount out)

include posted

theorem Posted.heldAt (id : Nat) :
    field.heldAt out.manager id = field.heldAt ledger.manager id + amount id := by
  rw [NodeField.heldAt, posted.nodes, Option.map_map, NodeField.heldAt]
  cases stored : ledger.manager.nodes.lookup id with
  | some node => exact field.get_add (amount id) node
  | none =>
    by_contra changed
    have alive := posted.alive id fun none => changed (by rw [none]; rfl)
    rw [stored] at alive
    exact nomatch alive

theorem Posted.limitAt (id : Nat) :
    field.limitAt out.manager id = field.limitAt ledger.manager id := by
  rw [NodeField.limitAt, posted.nodes, Option.map_map, NodeField.limitAt]
  congr 2
  funext node
  exact field.limit_add (amount id) node

theorem Posted.isSome (id : Nat) :
    (out.manager.nodes.lookup id).isSome = (ledger.manager.nodes.lookup id).isSome := by
  rw [posted.nodes, Option.isSome_map]

omit posted

end NodeLedger

end GtnhPlatform.PipeNetwork
