import Mathlib.Data.List.Forall2
import Mathlib.Data.List.Nodup
import Mathlib.Logic.Function.Iterate
import TypingAudit.Proofs.Ast.Descent

/-!
The visits that a walk pays to the nodes of a tree. A node is told apart from all others by its address, which
says from the root on which child to go down to; equal nodes at different addresses are different occurrences. The
walk comes to every address once, in order, and brings along exactly what lies above it.
-/

namespace TypingAudit.Ast

namespace Rose

variable {α : Type}

def subtreeAt (t : Rose α) : List Nat → Option (Rose α)
  | [] => some t
  | i :: rest => t.children[i]?.bind fun c => c.subtreeAt rest

def steps (t : Rose α) : List Nat → List (Rose α × Rose α)
  | [] => []
  | i :: rest =>
    match t.children[i]? with
    | some c => (t, c) :: c.steps rest
    | none => []

mutual

/-- The addresses of all nodes, a node before all that is below it. -/
def addresses : Rose α → List (List Nat)
  | .node _ cs => [] :: forestAddresses 0 cs

def forestAddresses (index : Nat) : List (Rose α) → List (List Nat)
  | [] => []
  | t :: ts => t.addresses.map (index :: ·) ++ forestAddresses (index + 1) ts

end

section Addresses

theorem mem_forestAddresses {index : Nat} {address : List Nat} {ts : List (Rose α)} :
    address ∈ forestAddresses index ts ↔
      ∃ i c rest, ts[i]? = some c ∧ rest ∈ c.addresses ∧ address = (index + i) :: rest := by
  induction ts generalizing index with
  | nil => simp [forestAddresses]
  | cons t ts ih =>
    rw [forestAddresses, List.mem_append, List.mem_map, ih]
    constructor
    · rintro (⟨rest, member, rfl⟩ | ⟨i, c, rest, found, member, rfl⟩)
      · exact ⟨0, t, rest, rfl, member, rfl⟩
      · refine ⟨i + 1, c, rest, found, member, ?_⟩
        rw [Nat.add_assoc, Nat.add_comm 1 i]
    · rintro ⟨i, c, rest, found, member, rfl⟩
      cases i with
      | zero =>
        cases found
        exact .inl ⟨rest, member, rfl⟩
      | succ i =>
        refine .inr ⟨i, c, rest, found, member, ?_⟩
        rw [Nat.add_assoc, Nat.add_comm 1 i]

theorem mem_addresses {t : Rose α} {address : List Nat} :
    address ∈ t.addresses ↔ (t.subtreeAt address).isSome = true := by
  induction address generalizing t with
  | nil =>
    cases t
    simp [addresses, subtreeAt]
  | cons i rest ih =>
    obtain ⟨v, cs⟩ := t
    rw [addresses, subtreeAt, List.mem_cons, mem_forestAddresses, children]
    constructor
    · rintro (impossible | ⟨j, c, others, found, member, same⟩)
      · cases impossible
      · rw [Nat.zero_add] at same
        cases same
        rw [found]
        exact ih.1 member
    · intro stays
      cases found : cs[i]? with
      | none =>
        rw [found] at stays
        cases stays
      | some c =>
        rw [found] at stays
        exact .inr ⟨i, c, rest, found, ih.2 stays, by rw [Nat.zero_add]⟩

mutual

theorem nodup_addresses : (t : Rose α) → t.addresses.Nodup
  | .node v cs => by
    rw [addresses, List.nodup_cons]
    refine ⟨?_, nodup_forestAddresses 0 cs⟩
    intro member
    obtain ⟨i, c, rest, -, -, impossible⟩ := mem_forestAddresses.1 member
    cases impossible

theorem nodup_forestAddresses (index : Nat) : (ts : List (Rose α)) → (forestAddresses index ts).Nodup
  | [] => List.nodup_nil
  | t :: ts => by
    rw [forestAddresses]
    refine List.Nodup.append (t.nodup_addresses.map List.cons_injective) (nodup_forestAddresses (index + 1) ts) ?_
    -- the first number of an address tells the trees of the forest apart
    intro address here later
    obtain ⟨rest, -, rfl⟩ := List.mem_map.1 here
    obtain ⟨i, c, others, -, -, same⟩ := mem_forestAddresses.1 later
    have index_eq : index = index + 1 + i := (List.cons.inj same).1
    omega

end

end Addresses

section Places

structure StandsBelow (above : List α) (t : Rose α) (address : List Nat) (place : Place α) : Prop where
  value_eq : (t.subtreeAt address).map value = some place.value
  above_eq : place.above = ((t.steps address).map fun step => step.1.value).reverse ++ above

theorem StandsBelow.ofChild {above : List α} {v : α} {before after : List (Rose α)} {t : Rose α}
    {address : List Nat} {place : Place α} (stands : StandsBelow (v :: above) t address place) :
    StandsBelow above (.node v (before ++ t :: after)) (before.length :: address) place := by
  have child : (node v (before ++ t :: after)).children[before.length]? = some t := by
    simp [children]
  constructor
  · rw [subtreeAt, child]
    exact stands.value_eq
  · rw [steps, child, stands.above_eq]
    simp [value]

mutual

theorem forall₂_preorder (above : List α) :
    (t : Rose α) → List.Forall₂ (StandsBelow above t) t.addresses (t.preorder above)
  | .node v cs => by
    rw [addresses, preorder]
    exact .cons ⟨rfl, rfl⟩ (forall₂_forestPreorder above v [] cs)

theorem forall₂_forestPreorder (above : List α) (v : α) (before : List (Rose α)) :
    (ts : List (Rose α)) → List.Forall₂ (StandsBelow above (.node v (before ++ ts)))
      (forestAddresses before.length ts) (forestPreorder (v :: above) ts)
  | [] => .nil
  | t :: ts => by
    rw [forestAddresses, forestPreorder]
    refine List.rel_append ?_ ?_
    · rw [List.forall₂_map_left_iff]
      exact (forall₂_preorder (v :: above) t).imp fun _ _ stands => stands.ofChild
    · have later := forall₂_forestPreorder above v (before ++ [t]) ts
      rwa [List.append_assoc, List.length_append] at later

end

end Places

section Chains

def IsStep (t : Rose α) (step : α × α) : Prop :=
  ∃ address parent child, t.subtreeAt address = some parent ∧ child ∈ parent.children ∧
    step = (parent.value, child.value)

theorem isStep_of_mem_steps {t : Rose α} {address : List Nat} {step : Rose α × Rose α}
    (member : step ∈ t.steps address) : t.IsStep (step.1.value, step.2.value) := by
  induction address generalizing t with
  | nil => cases member
  | cons i rest ih =>
    cases child : t.children[i]? with
    | none =>
      rw [steps, child] at member
      cases member
    | some c =>
      rw [steps, child] at member
      rcases List.mem_cons.1 member with rfl | later
      · exact ⟨[], t, c, rfl, List.mem_of_getElem? child, rfl⟩
      · obtain ⟨address, parent, below, leads, hangs, same⟩ := ih later
        refine ⟨i :: address, parent, below, ?_, hangs, same⟩
        rw [subtreeAt, child]
        exact leads

theorem head?_steps {t : Rose α} {address : List Nat} {step : Rose α × Rose α}
    (first : (t.steps address).head? = some step) : step.1 = t := by
  cases address with
  | nil => cases first
  | cons i rest =>
    cases child : t.children[i]? with
    | none =>
      rw [steps, child] at first
      cases first
    | some c =>
      rw [steps, child] at first
      cases first
      rfl

theorem chainTo_of_subtreeAt {t sub : Rose α} {address : List Nat} (above : List α)
    (leads : t.subtreeAt address = some sub) :
    Place.chainTo sub.value (((t.steps address).map fun step => step.1.value).reverse ++ above) =
      ((t.steps address).map fun step => (step.1.value, step.2.value)).reverse ++
        Place.chainTo t.value above := by
  induction address generalizing t above with
  | nil =>
    cases leads
    rfl
  | cons i rest ih =>
    rw [subtreeAt, Option.bind_eq_some_iff] at leads
    obtain ⟨c, child, leads⟩ := leads
    simp only [steps, child, List.map_cons, List.reverse_cons, List.append_assoc, List.singleton_append]
    rw [ih (t.value :: above) leads, Place.chainTo]

theorem StandsBelow.chain_eq {t : Rose α} {address : List Nat} {place : Place α}
    (stands : StandsBelow [] t address place) :
    place.chain = ((t.steps address).map fun step => (step.1.value, step.2.value)).reverse := by
  obtain ⟨sub, leads, value_eq⟩ := Option.map_eq_some_iff.1 stands.value_eq
  rw [Place.chain, stands.above_eq, ← value_eq, chainTo_of_subtreeAt [] leads, Place.chainTo, List.append_nil]

/-- The place at the end of an address: the node is the one to which the address leads, above it are the nodes that
the address passes from the root on, and its chain is made of the steps of the address. So each step of the chain is
one from a node to a child, and the last one is from the root. -/
structure StandsAt (t : Rose α) (address : List Nat) (place : Place α) : Prop where
  value_eq : (t.subtreeAt address).map value = some place.value
  above_eq : place.above.reverse = (t.steps address).map fun step => step.1.value
  chain_eq : place.chain.reverse = (t.steps address).map fun step => (step.1.value, step.2.value)
  isStep : ∀ step ∈ place.chain, t.IsStep step
  top : ∀ step, place.chain.getLast? = some step → step.1 = t.value

theorem StandsBelow.standsAt {t : Rose α} {address : List Nat} {place : Place α}
    (stands : StandsBelow [] t address place) : t.StandsAt address place where
  value_eq := stands.value_eq
  above_eq := by rw [stands.above_eq, List.append_nil, List.reverse_reverse]
  chain_eq := by rw [stands.chain_eq, List.reverse_reverse]
  isStep step member := by
    rw [stands.chain_eq, List.mem_reverse, List.mem_map] at member
    obtain ⟨taken, onWay, rfl⟩ := member
    exact isStep_of_mem_steps onWay
  top step last := by
    rw [stands.chain_eq, List.getLast?_reverse, List.head?_map, Option.map_eq_some_iff] at last
    obtain ⟨taken, first, rfl⟩ := last
    rw [head?_steps first]

end Chains

section Turns

structure Loop (α : Type) where
  pending : Pending α
  yielded : List (Place α)

/-- One turn of a walk: the tree on top of the stack is taken off and its place yielded, and its children are put on
the stack one by one, the last child first. -/
def Loop.turn : Loop α → Loop α
  | ⟨[], yielded⟩ => ⟨[], yielded⟩
  | ⟨(.node v cs, above) :: rest, yielded⟩ =>
    ⟨cs.reverse.foldl (fun stack c => (c, v :: above) :: stack) rest, yielded ++ [⟨v, above⟩]⟩

theorem foldl_reverse_eq_underneath (path : List α) (cs : List (Rose α)) (rest : Pending α) :
    cs.reverse.foldl (fun stack c => (c, path) :: stack) rest = underneath path cs ++ rest := by
  rw [List.foldl_reverse]
  exact List.foldr_cons_eq_append

theorem pendingSize_cons (v : α) (cs : List (Rose α)) (above : List α) (rest : Pending α) :
    pendingSize ((.node v cs, above) :: rest) = pendingSize (underneath (v :: above) cs ++ rest) + 1 := by
  rw [pendingSize_underneath_append]
  simp only [pendingSize, List.map_cons, forestSize, size]
  omega

/-- After as many turns as there are nodes in the trees on the stack, the stack is empty and their nodes have been
yielded in the order of the walk. -/
theorem iterate_turn (pending : Pending α) (yielded : List (Place α)) :
    Loop.turn^[pendingSize pending] ⟨pending, yielded⟩ = ⟨[], yielded ++ walkFrom pending⟩ := by
  induction pending using walkFrom.induct generalizing yielded with
  | case1 => simp [pendingSize, forestSize, walkFrom]
  | case2 v cs above rest ih =>
    rw [pendingSize_cons, Function.iterate_succ_apply, Loop.turn, foldl_reverse_eq_underneath, ih, walkFrom,
      List.append_assoc, List.singleton_append]

end Turns

section Queue

def byQueue : List (Rose α) → List α
  | [] => []
  | t :: queue => t.value :: byQueue (queue ++ t.children)
termination_by queue => forestSize queue
decreasing_by
  rw [forestSize_append, forestSize, size_eq t]
  omega

/-- While the trees of one level leave the queue, those of the next level gather behind them. -/
theorem byQueue_append (level next : List (Rose α)) :
    byQueue (level ++ next) = level.map value ++ byQueue (next ++ level.flatMap children) := by
  induction level generalizing next with
  | nil => simp
  | cons t level ih =>
    rw [List.cons_append, byQueue, List.append_assoc, ih (next ++ t.children), List.flatMap_cons, List.append_assoc,
      List.map_cons, List.cons_append]

theorem levelsFrom_eq_byQueue (ts : List (Rose α)) : levelsFrom ts = byQueue ts := by
  induction ts using levelsFrom.induct with
  | case1 => rw [levelsFrom, byQueue]
  | case2 t ts ih =>
    have level := byQueue_append (t :: ts) []
    rw [List.append_nil, List.nil_append] at level
    rw [levelsFrom, ih, level]

end Queue

/-- The places are those of all nodes of a tree, as a walk visits them. -/
structure Visits (t : Rose α) (places : List (Place α)) : Prop where
  /-- The walk takes one turn for each node, and is over. -/
  ends : Loop.turn^[t.size] ⟨[(t, [])], []⟩ = ⟨[], places⟩
  /-- A node comes first, and after it what is below each of its children in turn. -/
  inOrder : places = t.preorder []
  /-- The places correspond to the addresses, and these are all there are, each once. -/
  standing : List.Forall₂ t.StandsAt t.addresses places
  complete : ∀ address, address ∈ t.addresses ↔ (t.subtreeAt address).isSome = true
  once : t.addresses.Nodup

theorem visits_walk (t : Rose α) : t.Visits t.walk where
  ends := by
    have ends := iterate_turn [(t, [])] []
    simpa [pendingSize, forestSize, walk] using ends
  inOrder := t.walk_eq_preorder
  standing := by
    rw [walk_eq_preorder]
    exact (forall₂_preorder [] t).imp fun _ _ stands => stands.standsAt
  complete _ := mem_addresses
  once := t.nodup_addresses

end Rose

namespace NodeTree

/-- The walk through a syntax tree ends and visits each of its nodes once, a node before all that is below it, with
the path from the root above it. It comes to the nodes to which going through the tree with a queue comes, as often
and in another order. -/
theorem contexts_visit_once (t : NodeTree) :
    t.Visits (contexts t) ∧ ((contexts t).map Context.node).Perm (nodesByLevel t) ∧
      nodesByLevel t = (Rose.byQueue [t]).map Occurrence.node := by
  refine ⟨t.visits_walk, ?_, ?_⟩
  · have values : (contexts t).map Rose.Place.value = t.values := by
      rw [contexts_eq_inOrder]
      exact Rose.map_value_preorder [] t
    have perm : t.levels.Perm t.values := by
      have whole := Rose.levelsFrom_perm [t]
      rwa [Rose.forestValues, Rose.forestValues, List.append_nil] at whole
    have nodes : (contexts t).map Context.node = t.values.map Occurrence.node := by
      rw [← values, List.map_map]
      rfl
    rw [nodes]
    exact (perm.map Occurrence.node).symm
  · rw [nodesByLevel, Rose.levels, Rose.levelsFrom_eq_byQueue]

end NodeTree

end TypingAudit.Ast
