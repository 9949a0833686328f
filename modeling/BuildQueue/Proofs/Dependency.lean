import BuildQueue.Dependency

/-!
# The walk through a dependency graph

`walk` keeps a stack, and finds out whether it has seen an index only when that comes off the stack.
It visits what the search by recursion visits, and in its order (`traverse_depthFirst`): to search
from all that is on the stack, one after the other, is to walk through the stack (`searchAll_eq`).
-/

namespace BuildQueue.DependencyGraph

variable (g : DependencyGraph)

/-- The dependencies of a node as they are listed. -/
def next (i : Nat) : List Nat :=
  match g.nodes[i]? with
  | some node => node.dependencies.map UInt64.toNat
  | none => []

/-- The nodes to which edges lead from the root. -/
inductive Reachable : Nat → Prop
  | root (h : 0 < g.nodes.length) : Reachable 0
  | step {i j : Nat} (h : Reachable i) (hj : j ∈ g.next i) (hlt : j < g.nodes.length) : Reachable j

variable {g}

/-! ## The search by recursion -/

theorem length_unseen_le {s t : List Nat} (h : s ⊆ t) :
    (g.unseen t).length ≤ (g.unseen s).length := by
  simp only [unseen, ← List.countP_eq_length_filter]
  refine List.countP_mono_left fun i _ hi => ?_
  have hi : i ∉ t := by simpa using hi
  simpa using fun hs => hi (h hs)

variable (g)

mutual

/-- Visits a node, unless it was visited before, and then all that is found below its dependencies.
What was visited is listed in order. -/
def search (seen : List Nat) (i : Nat) : {out : List Nat // seen ⊆ out} :=
  if _h : i ∉ seen ∧ i < g.nodes.length then
    let ⟨out, hout⟩ := searchAll (seen ++ [i]) (g.next i)
    ⟨out, fun _ hj => hout (List.mem_append_left _ hj)⟩
  else ⟨seen, fun _ hj => hj⟩
termination_by ((g.unseen seen).length, 0)
decreasing_by
  refine Prod.Lex.left _ _ (Nat.lt_of_le_of_lt (length_unseen_le fun j hj => ?_)
    (length_unseen_lt _h.2 (by simpa using _h.1)))
  simpa [or_comm] using hj

/-- Visits nodes one after the other. -/
def searchAll (seen : List Nat) : List Nat → {out : List Nat // seen ⊆ out}
  | [] => ⟨seen, fun _ hj => hj⟩
  | i :: rest =>
    let ⟨mid, hmid⟩ := search seen i
    let ⟨out, hout⟩ := searchAll mid rest
    ⟨out, fun _ hj => hout (hmid hj)⟩
termination_by todo => ((g.unseen seen).length, todo.length)
decreasing_by
  · exact Prod.Lex.right _ (by simp)
  · rcases Nat.lt_or_eq_of_le (length_unseen_le hmid) with hlt | heq
    · exact Prod.Lex.left _ _ hlt
    · rw [heq]
      exact Prod.Lex.right _ (by simp)

end

variable {g}

theorem search_of_new {seen : List Nat} {i : Nat} (hs : i ∉ seen) (hi : i < g.nodes.length) :
    (g.search seen i).val = (g.searchAll (seen ++ [i]) (g.next i)).val := by
  rw [search, dif_pos ⟨hs, hi⟩]

theorem search_of_not {seen : List Nat} {i : Nat} (h : ¬ (i ∉ seen ∧ i < g.nodes.length)) :
    (g.search seen i).val = seen := by
  rw [search, dif_neg h]

theorem searchAll_cons (seen : List Nat) (i : Nat) (rest : List Nat) :
    (g.searchAll seen (i :: rest)).val = (g.searchAll (g.search seen i).val rest).val := by
  rw [searchAll]

/-! ## The walk along a stack -/

theorem walk_nil (seen : List Nat) : g.walk seen [] = [] := by rw [walk]

theorem walk_of_new {seen rest : List Nat} {i : Nat} (hs : i ∉ seen) (hi : i < g.nodes.length) :
    g.walk seen (i :: rest) = i :: g.walk (i :: seen) (g.next i ++ rest) := by
  rw [walk, if_neg (by simpa using hs), dif_pos hi, next, List.getElem?_eq_getElem hi]
  rfl

theorem walk_of_not {seen rest : List Nat} {i : Nat} (h : ¬ (i ∉ seen ∧ i < g.nodes.length)) :
    g.walk seen (i :: rest) = g.walk seen rest := by
  rw [walk]
  split
  · rfl
  · next hs => rw [dif_neg fun hi => h ⟨by simpa using hs, hi⟩]

/-- An induction on what a walk looks at next. -/
theorem walk_induction {motive : List Nat → List Nat → Prop} (nil : ∀ seen, motive seen [])
    (new : ∀ seen i rest, i ∉ seen → i < g.nodes.length →
      motive (i :: seen) (g.next i ++ rest) → motive seen (i :: rest))
    (old : ∀ seen i rest, ¬ (i ∉ seen ∧ i < g.nodes.length) → motive seen rest →
      motive seen (i :: rest)) (seen stack : List Nat) : motive seen stack := by
  fun_induction walk g seen stack with
  | case1 seen => exact nil seen
  | case2 seen i rest hs ih => exact old seen i rest (fun h => h.1 (by simpa using hs)) ih
  | case3 seen i rest hs hi deps ih =>
    have hdeps : deps = g.next i := by rw [next, List.getElem?_eq_getElem hi]; rfl
    exact new seen i rest (by simpa using hs) hi (hdeps ▸ ih)
  | case4 seen i rest hs hi ih => exact old seen i rest (fun h => hi h.2) ih

/-- Searching from more nodes goes on from what the first ones led to. -/
theorem searchAll_append (seen todo rest : List Nat) : (g.searchAll seen (todo ++ rest)).val =
    (g.searchAll (g.searchAll seen todo).val rest).val := by
  induction todo generalizing seen with
  | nil => rw [List.nil_append, searchAll]
  | cons i todo ih => rw [List.cons_append, searchAll_cons, searchAll_cons, ih]

/-- The walk visits what the search by recursion does, in the same order. The walk lists what it has
seen the other way round, and asks only whether an index is on the list. -/
theorem searchAll_eq (seen stack : List Nat) {order : List Nat} (h : ∀ i, i ∈ order ↔ i ∈ seen) :
    (g.searchAll order stack).val = order ++ g.walk seen stack := by
  induction seen, stack using walk_induction (g := g) generalizing order with
  | nil seen => rw [searchAll, walk_nil, List.append_nil]
  | new seen i rest hs hi ih =>
    rw [searchAll_cons, search_of_new (fun hm => hs ((h i).1 hm)) hi, walk_of_new hs hi,
      ← searchAll_append, ih (by simp [h, or_comm]), List.append_assoc, List.singleton_append]
  | old seen i rest hn ih =>
    rw [searchAll_cons, search_of_not (by rwa [h i]), walk_of_not hn, ih h]

/-! ## What is visited -/

/-- What a walk visits is new to it, and comes once. -/
theorem nodup_walk (seen stack : List Nat) :
    (g.walk seen stack).Nodup ∧ ∀ i ∈ g.walk seen stack, i ∉ seen ∧ i < g.nodes.length := by
  induction seen, stack using walk_induction (g := g) with
  | nil seen => simp [walk_nil]
  | new seen i rest hs hi ih =>
    rw [walk_of_new hs hi]
    obtain ⟨hnodup, hnew⟩ := ih
    refine ⟨List.nodup_cons.2 ⟨fun hm => (hnew i hm).1 List.mem_cons_self, hnodup⟩, fun j hj => ?_⟩
    obtain rfl | hj := List.mem_cons.1 hj
    · exact ⟨hs, hi⟩
    · exact ⟨fun hm => (hnew j hj).1 (List.mem_cons_of_mem _ hm), (hnew j hj).2⟩
  | old seen i rest hn ih => rwa [walk_of_not hn]

theorem reachable_of_mem_walk {seen stack : List Nat}
    (h : ∀ i ∈ stack, i < g.nodes.length → g.Reachable i) :
    ∀ i ∈ g.walk seen stack, g.Reachable i := by
  induction seen, stack using walk_induction (g := g) with
  | nil seen => simp [walk_nil]
  | new seen i rest hs hi ih =>
    have hreach : g.Reachable i := h i List.mem_cons_self hi
    have hbelow : ∀ j ∈ g.next i ++ rest, j < g.nodes.length → g.Reachable j := by
      intro j hj hlt
      rcases List.mem_append.1 hj with hj | hj
      · exact .step hreach hj hlt
      · exact h j (List.mem_cons_of_mem _ hj) hlt
    rw [walk_of_new hs hi]
    exact List.forall_mem_cons.2 ⟨hreach, ih hbelow⟩
  | old seen i rest hn ih =>
    rw [walk_of_not hn]
    exact ih fun j hj => h j (List.mem_cons_of_mem _ hj)

/-- Where an edge from a seen node leads to has been seen or still stands on the stack, so nothing
is forgotten: it will have been seen in the end. -/
theorem mem_of_walk {seen stack : List Nat}
    (h : ∀ i ∈ seen, ∀ j ∈ g.next i, j < g.nodes.length → j ∈ seen ∨ j ∈ stack) :
    (∀ j ∈ stack, j < g.nodes.length → j ∈ seen ∨ j ∈ g.walk seen stack) ∧
    ∀ i, i ∈ seen ∨ i ∈ g.walk seen stack → ∀ j ∈ g.next i, j < g.nodes.length →
      j ∈ seen ∨ j ∈ g.walk seen stack := by
  induction seen, stack using walk_induction (g := g) with
  | nil seen => simpa [walk_nil] using h
  | new seen i rest hs hi ih =>
    rw [walk_of_new hs hi]
    obtain ⟨hstack, hedges⟩ := ih (by
      intro k hk j hj hlt
      obtain rfl | hk := List.mem_cons.1 hk
      · exact .inr (List.mem_append_left _ hj)
      · rcases h k hk j hj hlt with hm | hm
        · exact .inl (List.mem_cons_of_mem _ hm)
        · rcases List.mem_cons.1 hm with rfl | hm
          · exact .inl List.mem_cons_self
          · exact .inr (List.mem_append_right _ hm))
    have hmem (k : Nat) : k ∈ seen ∨ k ∈ i :: g.walk (i :: seen) (g.next i ++ rest) ↔
        k ∈ i :: seen ∨ k ∈ g.walk (i :: seen) (g.next i ++ rest) := by
      simp [or_left_comm, or_assoc]
    simp only [hmem]
    refine ⟨fun j hj hlt => ?_, hedges⟩
    obtain rfl | hj := List.mem_cons.1 hj
    · exact .inl List.mem_cons_self
    · exact hstack j (List.mem_append_right _ hj) hlt
  | old seen i rest hn ih =>
    have hi : i < g.nodes.length → i ∈ seen := by simpa [and_comm] using hn
    obtain ⟨hstack, hedges⟩ := ih (by
      intro k hk j hj hlt
      rcases h k hk j hj hlt with hm | hm
      · exact .inl hm
      · obtain rfl | hm := List.mem_cons.1 hm
        · exact .inl (hi hlt)
        · exact .inr hm)
    rw [walk_of_not hn]
    refine ⟨fun j hj hlt => ?_, hedges⟩
    obtain rfl | hj := List.mem_cons.1 hj
    · exact .inl (hi hlt)
    · exact hstack j hj hlt

theorem mem_traverse (i : Nat) : i ∈ g.traverse ↔ g.Reachable i := by
  obtain ⟨hstack, hedges⟩ : _ ∧ ∀ i, i ∈ [] ∨ i ∈ g.walk [] [0] → _ := mem_of_walk (by simp)
  refine ⟨reachable_of_mem_walk (by simpa using Reachable.root) i, fun h => ?_⟩
  induction h with
  | root h => simpa [traverse] using hstack 0 (by simp) h
  | step _ hj hlt ih => simpa [traverse] using hedges _ (.inr ih) _ hj hlt

/-- The walk ends for every graph, whatever its edges. It visits exactly the nodes that can be
reached from the root, each once, in the order of the search by recursion that takes the
dependencies of a node as they are listed; only a graph without nodes gives it nothing to visit. -/
theorem traverse_depthFirst (g : DependencyGraph) :
    g.traverse = (g.search [] 0).val ∧ g.traverse.Nodup ∧
    (∀ i, i ∈ g.traverse ↔ g.Reachable i) ∧
    g.visited.map some = g.traverse.map (g.nodes[·]?) ∧ (g.traverse = [] ↔ g.nodes = []) := by
  obtain ⟨hnodup, hnew⟩ := nodup_walk (g := g) [] [0]
  refine ⟨?_, hnodup, mem_traverse, ?_, ?_⟩
  · have h : (g.searchAll [] [0]).val = [] ++ g.walk [] [0] := searchAll_eq [] [0] (by simp)
    rw [searchAll_cons, searchAll] at h
    exact h.symm
  · rw [visited, List.map_filterMap_some_eq_filter_map_isSome, List.filter_eq_self]
    intro node hnode
    obtain ⟨i, hi, rfl⟩ := List.mem_map.1 hnode
    simpa using (hnew i hi).2
  · refine ⟨fun h => ?_, fun h => List.eq_nil_iff_forall_not_mem.2 fun i hi => ?_⟩
    · refine List.eq_nil_of_length_eq_zero (Nat.eq_zero_of_not_pos fun hpos => ?_)
      have hroot := (mem_traverse 0).2 (.root hpos)
      rw [h] at hroot
      cases hroot
    · have hlt := (hnew i hi).2
      rw [h] at hlt
      exact absurd hlt (Nat.not_lt_zero i)

end BuildQueue.DependencyGraph
