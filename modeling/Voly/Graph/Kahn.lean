/-
Kahn's algorithm: the queue loop, its invariant, and when the order is complete.
-/
import Mathlib.Algebra.Order.Ring.Int
import Mathlib.Order.WellFoundedSet

namespace Kahn

universe u

variable {A : Type u} [DecidableEq A]

/-- Lower the indegree of each listed child; one that reaches zero joins the
queue. -/
def release : List A → (A → Int) → List A → (A → Int) × List A
  | [], indegree, queue => (indegree, queue)
  | child :: rest, indegree, queue =>
      let lowered := Function.update indegree child (indegree child - 1)
      release rest lowered
        (if lowered child = 0 then queue ++ [child] else queue)

/-- Pop nodes, `fuel` at most: the emitted order and the counters that are left.
-/
def drain (children : A → List A) :
    Nat → List A → (A → Int) → List A → List A × (A → Int)
  | 0, _, indegree, order => (order, indegree)
  | _ + 1, [], indegree, order => (order, indegree)
  | n + 1, node :: queue, indegree, order =>
      let released := release (children node) indegree queue
      drain children n released.2 released.1 (order ++ [node])

/-- The dependency entries of all nodes named `i`. -/
def indegree (nodes : List (A × List A)) (i : A) : Int :=
  ((nodes.filter fun node => node.1 = i).flatMap Prod.snd).length

/-- The nodes that list `dep`, once for each time they list it. -/
def children (nodes : List (A × List A)) (dep : A) : List A :=
  nodes.flatMap fun node =>
    (node.2.filter fun d => d = dep).map fun _ => node.1

/-- The queue loop started on the nodes without dependencies. -/
def sort (nodes : List (A × List A)) : List A × (A → Int) :=
  let ids := nodes.map Prod.fst
  drain (children nodes) (2 * ids.length)
    (ids.filter fun i => indegree nodes i = 0) (indegree nodes) []

/-- The order in which the queue loop emits the nodes. -/
def order (nodes : List (A × List A)) : List A := (sort nodes).1

section

variable (cs : List A) (indeg : A → Int) (queue : List A)

theorem release_indegree (x : A) :
    (release cs indeg queue).1 x = indeg x - cs.count x := by
  induction cs generalizing indeg queue with
  | nil => simp [release]
  | cons c cs ih =>
      simp only [release]
      rw [ih]
      by_cases hx : x = c
      · subst hx
        simp
        omega
      · have hne : c ≠ x := Ne.symm hx
        simp [Function.update_of_ne hx, List.count_cons_of_ne hne]

theorem mem_release_queue (x : A) :
    x ∈ (release cs indeg queue).2 ↔
      x ∈ queue ∨ (1 ≤ indeg x ∧ indeg x ≤ cs.count x) := by
  induction cs generalizing indeg queue with
  | nil =>
      simp only [release, List.count_nil, Nat.cast_zero]
      constructor
      · exact Or.inl
      · rintro (h | ⟨h₁, h₂⟩)
        · exact h
        · omega
  | cons c cs ih =>
      simp only [release]
      rw [ih]
      by_cases hx : x = c
      · subst hx
        simp only [Function.update_self, List.count_cons_self,
          Nat.cast_add, Nat.cast_one]
        by_cases hz : indeg x - 1 = 0
        · simp only [hz, ↓reduceIte, List.mem_append, List.mem_singleton]
          constructor
          · rintro ((h | _) | h)
            · exact Or.inl h
            · exact Or.inr ⟨by omega, by omega⟩
            · omega
          · intro _
            exact Or.inl (Or.inr trivial)
        · simp only [hz, ↓reduceIte]
          constructor
          · rintro (h | ⟨h₁, h₂⟩)
            · exact Or.inl h
            · exact Or.inr ⟨by omega, by omega⟩
          · rintro (h | ⟨h₁, h₂⟩)
            · exact Or.inl h
            · exact Or.inr ⟨by omega, by omega⟩
      · have hne : c ≠ x := Ne.symm hx
        rw [Function.update_of_ne hx, List.count_cons_of_ne hne]
        split
        · simp [hx]
        · rfl

theorem release_queue_nodup (hnodup : queue.Nodup)
    (hzero : ∀ x ∈ queue, indeg x ≤ 0) :
    (release cs indeg queue).2.Nodup := by
  induction cs generalizing indeg queue with
  | nil => exact hnodup
  | cons c cs ih =>
      simp only [release]
      have hlower : ∀ x, Function.update indeg c (indeg c - 1) x ≤ indeg x := by
        intro x
        by_cases hx : x = c
        · subst hx
          rw [Function.update_self]
          omega
        · simp [Function.update_of_ne hx]
      split
      case isTrue hc =>
        simp only [Function.update_self] at hc
        have hfresh : c ∉ queue := by
          intro hmem
          have := hzero c hmem
          omega
        apply ih
        · rw [List.nodup_append]
          refine ⟨hnodup, List.nodup_singleton c, ?_⟩
          intro a ha b hb
          rw [List.mem_singleton.mp hb]
          exact fun h => hfresh (h ▸ ha)
        · intro x hx
          rcases List.mem_append.mp hx with hx | hx
          · exact le_trans (hlower x) (hzero x hx)
          · rw [List.mem_singleton.mp hx]
            simp [hc]
      case isFalse hc =>
        apply ih _ _ hnodup
        intro x hx
        exact le_trans (hlower x) (hzero x hx)

end

/-- A graph given by distinct nodes whose dependencies are listed nodes. -/
structure Graph (A : Type u) where
  nodes : List (A × List A)
  nodup : (nodes.map Prod.fst).Nodup
  known : ∀ node ∈ nodes, ∀ dep ∈ node.2, dep ∈ nodes.map Prod.fst

namespace Graph

variable (g : Graph A)

def ids : List A := g.nodes.map Prod.fst

/-- The dependencies of node `i`. -/
def deps (i : A) : List A :=
  (g.nodes.filter fun node => node.1 = i).flatMap Prod.snd

theorem length_filter_eq (ds : List A) (dep : A) :
    (ds.filter fun d => d = dep).length = ds.count dep := by
  induction ds with
  | nil => rfl
  | cons d ds ih =>
      by_cases hd : d = dep
      · simp [hd, ih]
      · simp [hd, ih]

theorem count_children (dep i : A) :
    (children g.nodes dep).count i = (g.deps i).count dep := by
  unfold children deps
  generalize g.nodes = nodes
  induction nodes with
  | nil => simp
  | cons head tail ih =>
      rw [List.flatMap_cons, List.count_append, ih, List.map_const',
        List.count_replicate, length_filter_eq]
      by_cases hi : head.1 = i
      · simp [hi, List.count_append]
      · simp [hi]

/-- Every node of `order` comes after all of its dependencies. -/
def Respects (order : List A) : Prop :=
  ∀ before i after, order = before ++ i :: after →
    ∀ dep ∈ g.deps i, dep ∈ before

/-- Counters hold open dependencies; the emitted and queued nodes have none. -/
structure Inv (queue : List A) (indeg : A → Int) (order : List A) : Prop where
  counts : ∀ i, indeg i = ((g.deps i).filter fun d => d ∉ order).length
  nodup : (order ++ queue).Nodup
  subset : ∀ i ∈ order ++ queue, i ∈ g.ids
  closed : ∀ i ∈ order ++ queue, ∀ dep ∈ g.deps i, dep ∈ order
  ready : ∀ i ∈ g.ids, indeg i = 0 → i ∈ order ++ queue
  respects : g.Respects order

theorem inv_start :
    g.Inv (g.ids.filter fun i => indegree g.nodes i = 0)
      (indegree g.nodes) [] where
  counts := by
    intro i
    have hall : (g.deps i).filter (fun d => d ∉ ([] : List A)) = g.deps i := by
      simp
    rw [hall]
    rfl
  nodup := by simpa [ids] using g.nodup.filter _
  subset := by
    intro i hi
    simp only [List.nil_append, List.mem_filter] at hi
    exact hi.1
  closed := by
    intro i hi dep hdep
    simp only [List.nil_append, List.mem_filter, decide_eq_true_eq] at hi
    have hlen : (g.deps i).length = 0 := Int.natCast_eq_zero.mp hi.2
    rw [List.length_eq_zero_iff.mp hlen] at hdep
    cases hdep
  ready := by
    intro i hi hzero
    simp [hi, hzero]
  respects := by
    intro before i after h
    simp at h

theorem count_open (order : List A) (node i : A) (hnode : node ∉ order) :
    (((g.deps i).filter fun d => d ∉ order ++ [node]).length : Int) =
      ((g.deps i).filter fun d => d ∉ order).length -
        (g.deps i).count node := by
  induction g.deps i with
  | nil => simp
  | cons d ds ih =>
      by_cases hd : d = node
      · subst hd
        have hmem : d ∈ order ++ [d] := by simp
        simp only [hmem, hnode, not_true, decide_false, not_false_eq_true,
          decide_true, List.filter_cons_of_pos, Bool.false_eq_true,
          List.filter_cons_of_neg, List.length_cons, List.count_cons_self]
        omega
      · have hiff : d ∈ order ++ [node] ↔ d ∈ order := by simp [hd]
        rw [List.count_cons_of_ne hd]
        by_cases ho : d ∈ order
        · simpa [ho] using ih
        · have hn : d ∉ order ++ [node] := fun h => ho (hiff.mp h)
          simp only [hn, ho, not_false_eq_true, decide_true,
            List.filter_cons_of_pos, List.length_cons]
          omega

theorem inv_pop {node : A} {queue : List A} {indeg : A → Int}
    {order : List A} (h : g.Inv (node :: queue) indeg order) :
    g.Inv (release (children g.nodes node) indeg queue).2
      (release (children g.nodes node) indeg queue).1 (order ++ [node]) := by
  have hperm : ((order ++ [node]) ++ queue).Nodup := by
    simpa using h.nodup
  have hnode : node ∉ order := by
    have := h.nodup
    rw [List.nodup_append] at this
    exact fun hmem => this.2.2 node hmem node List.mem_cons_self rfl
  have hcounts : ∀ i, (release (children g.nodes node) indeg queue).1 i =
      ((g.deps i).filter fun d => d ∉ order ++ [node]).length := by
    intro i
    rw [release_indegree, g.count_children, g.count_open order node i hnode,
      h.counts]
  -- A node already emitted or queued has no open dependency left.
  have hsettled : ∀ i ∈ order ++ node :: queue, indeg i = 0 := by
    intro i hi
    rw [h.counts, Nat.cast_eq_zero, List.length_eq_zero_iff,
      List.filter_eq_nil_iff]
    intro dep hdep
    simpa using h.closed i hi dep hdep
  have hqueue : ∀ i, i ∈ (release (children g.nodes node) indeg queue).2 ↔
      i ∈ queue ∨ (1 ≤ indeg i ∧ indeg i ≤ (g.deps i).count node) := by
    intro i
    rw [mem_release_queue, g.count_children]
  have hzero : ∀ i, i ∈ (release (children g.nodes node) indeg queue).2 →
      ∀ dep ∈ g.deps i, dep ∈ order ++ [node] := by
    intro i hi dep hdep
    rcases (hqueue i).mp hi with hold | ⟨_, hle⟩
    · have := h.closed i (by simp [hold]) dep hdep
      exact List.mem_append_left _ this
    · have hlen := g.count_open order node i hnode
      rw [← h.counts] at hlen
      have hnil : (g.deps i).filter (fun d => d ∉ order ++ [node]) = [] := by
        apply List.length_eq_zero_iff.mp
        omega
      rw [List.filter_eq_nil_iff] at hnil
      have := hnil dep hdep
      simpa only [decide_eq_true_eq, not_not] using this
  refine ⟨hcounts, ?_, ?_, ?_, ?_, ?_⟩
  · rw [List.nodup_append] at hperm ⊢
    refine ⟨hperm.1, ?_, ?_⟩
    · apply release_queue_nodup _ _ _ hperm.2.1
      intro x hx
      exact le_of_eq (hsettled x (by simp [hx]))
    · intro a ha b hb
      rcases (hqueue b).mp hb with hold | ⟨hpos, _⟩
      · exact hperm.2.2 a ha b hold
      · rintro rfl
        have := hsettled a (by
          rcases List.mem_append.mp ha with ha | ha
          · exact List.mem_append_left _ ha
          · rw [List.mem_singleton.mp ha]
            simp)
        omega
  · intro i hi
    rcases List.mem_append.mp hi with hi | hi
    · apply h.subset
      rcases List.mem_append.mp hi with hi | hi
      · exact List.mem_append_left _ hi
      · rw [List.mem_singleton.mp hi]
        simp
    · rcases (hqueue i).mp hi with hold | ⟨hpos, _⟩
      · exact h.subset i (by simp [hold])
      · by_contra hout
        have hnil : g.deps i = [] := by
          simp only [deps, List.flatMap_eq_nil_iff, List.mem_filter,
            decide_eq_true_eq, and_imp]
          intro other hother heq
          exact absurd (List.mem_map.mpr ⟨other, hother, heq⟩) hout
        have := h.counts i
        simp only [hnil, List.filter_nil, List.length_nil] at this
        omega
  · intro i hi dep hdep
    rcases List.mem_append.mp hi with hi | hi
    · have hmem : i ∈ order ++ node :: queue := by
        rcases List.mem_append.mp hi with hi | hi
        · exact List.mem_append_left _ hi
        · rw [List.mem_singleton.mp hi]
          simp
      exact List.mem_append_left _ (h.closed i hmem dep hdep)
    · exact hzero i hi dep hdep
  · intro i hi hz
    by_cases hold : indeg i = 0
    · rcases List.mem_append.mp (h.ready i hi hold) with hmem | hmem
      · simp [hmem]
      · rcases List.mem_cons.mp hmem with rfl | hmem
        · simp
        · exact List.mem_append_right _ ((hqueue i).mpr (Or.inl hmem))
    · apply List.mem_append_right
      rw [hqueue]
      right
      rw [release_indegree, g.count_children] at hz
      have := h.counts i
      omega
  · intro before i after heq dep hdep
    rcases List.eq_nil_or_concat after with rfl | ⟨rest, last, rfl⟩
    · have hsplit : order = before ∧ [node] = [i] :=
        List.append_inj' heq rfl
      obtain ⟨rfl, hi⟩ := hsplit
      have : node = i := by simpa using hi
      subst this
      exact h.closed node (by simp) dep hdep
    · have hsplit : order = before ++ i :: rest ∧ [node] = [last] :=
        List.append_inj' (by simpa using heq) rfl
      exact h.respects before i rest hsplit.1 dep hdep

theorem drain_inv (fuel : Nat) {queue : List A} {indeg : A → Int}
    {order : List A} (h : g.Inv queue indeg order)
    (hfuel : g.ids.length ≤ fuel + order.length) :
    ∃ indeg', g.Inv [] indeg'
      (drain (children g.nodes) fuel queue indeg order).1 := by
  induction fuel generalizing queue indeg order with
  | zero =>
      refine ⟨indeg, ?_⟩
      have hsub : (order ++ queue).length ≤ g.ids.length :=
        (List.subperm_of_subset h.nodup h.subset).length_le
      have hnil : queue = [] := by
        apply List.length_eq_zero_iff.mp
        simp only [List.length_append] at hsub
        omega
      simpa [drain, hnil] using h
  | succ n ih =>
      cases queue with
      | nil => exact ⟨indeg, h⟩
      | cons node queue =>
          apply ih (g.inv_pop h)
          simp only [List.length_append, List.length_singleton]
          omega

theorem order_inv : ∃ indeg, g.Inv [] indeg (order g.nodes) := by
  apply g.drain_inv _ g.inv_start
  simp only [ids, List.length_nil]
  omega

theorem order_nodup : (order g.nodes).Nodup := by
  obtain ⟨_, h⟩ := g.order_inv
  simpa using h.nodup

theorem order_respects : g.Respects (order g.nodes) := by
  obtain ⟨_, h⟩ := g.order_inv
  exact h.respects

theorem mem_order_of_length (hlen : (order g.nodes).length = g.ids.length)
    (i : A) : i ∈ order g.nodes ↔ i ∈ g.ids := by
  obtain ⟨_, h⟩ := g.order_inv
  have hsub : order g.nodes ⊆ g.ids := by
    intro x hx
    exact h.subset x (by simpa using hx)
  constructor
  · exact fun hi => hsub hi
  · intro hi
    have hperm := (List.subperm_of_subset g.order_nodup hsub).perm_of_length_le
      (le_of_eq hlen.symm)
    exact hperm.mem_iff.mpr hi

end Graph

end Kahn

namespace Kahn.Graph

universe u

variable {A : Type u} [DecidableEq A] (g : Graph A)

/-- The node lists the dependency. -/
def Edge (i dep : A) : Prop := dep ∈ g.deps i

/-- No node depends on itself, not even through others. -/
def Acyclic : Prop := ∀ i, ¬Relation.TransGen g.Edge i i

theorem mem_ids_of_edge {i dep : A} (h : g.Edge i dep) :
    i ∈ g.ids ∧ dep ∈ g.ids := by
  simp only [Edge, deps, List.mem_flatMap, List.mem_filter,
    decide_eq_true_eq] at h
  obtain ⟨node, ⟨hnode, rfl⟩, hdep⟩ := h
  exact ⟨List.mem_map_of_mem hnode, g.known node hnode dep hdep⟩

theorem Respects.idxOf_lt {order : List A} (h : g.Respects order)
    (hnodup : order.Nodup) {i dep : A} (hi : i ∈ order) (hedge : g.Edge i dep) :
    order.idxOf dep < order.idxOf i := by
  obtain ⟨before, after, rfl⟩ := List.append_of_mem hi
  have hdep := h before i after rfl dep hedge
  have hfresh : i ∉ before := by
    intro hmem
    exact (List.nodup_append.mp hnodup).2.2 i hmem i List.mem_cons_self rfl
  rw [List.idxOf_append_of_mem hdep, List.idxOf_append_of_notMem hfresh]
  exact Nat.lt_of_lt_of_le (List.idxOf_lt_length_of_mem hdep)
    (Nat.le_add_right _ _)

theorem acyclic_of_respects {order : List A} (h : g.Respects order)
    (hnodup : order.Nodup) (hall : ∀ i, i ∈ order ↔ i ∈ g.ids) :
    g.Acyclic := by
  intro i hcycle
  have hback : ∀ {first last}, Relation.TransGen g.Edge first last →
      order.idxOf last < order.idxOf first := by
    intro first last hpath
    induction hpath with
    | single hedge =>
        exact h.idxOf_lt g hnodup ((hall _).mpr (g.mem_ids_of_edge hedge).1)
          hedge
    | tail _ hedge ih =>
        exact (h.idxOf_lt g hnodup
          ((hall _).mpr (g.mem_ids_of_edge hedge).1) hedge).trans ih
  exact Nat.lt_irrefl _ (hback hcycle)

theorem exists_left_over {i : A} (hi : i ∈ g.ids)
    (hleft : i ∉ order g.nodes) :
    ∃ dep, g.Edge i dep ∧ dep ∈ g.ids ∧ dep ∉ order g.nodes := by
  obtain ⟨indeg, h⟩ := g.order_inv
  have hopen : indeg i ≠ 0 := by
    intro hzero
    have hmem := h.ready i hi hzero
    rw [List.append_nil] at hmem
    exact hleft hmem
  rw [h.counts] at hopen
  have hne : (g.deps i).filter (fun d => d ∉ order g.nodes) ≠ [] := by
    intro hnil
    rw [hnil] at hopen
    exact hopen rfl
  obtain ⟨dep, hdep⟩ := List.exists_mem_of_ne_nil _ hne
  rw [List.mem_filter] at hdep
  exact ⟨dep, hdep.1, (g.mem_ids_of_edge hdep.1).2, by simpa using hdep.2⟩

theorem Acyclic.mem_order (h : g.Acyclic) {i : A} (hi : i ∈ g.ids) :
    i ∈ order g.nodes := by
  have hstrict : IsStrictOrder A (Function.swap (Relation.TransGen g.Edge)) :=
    { irrefl := h, trans := fun _ _ _ hab hbc => hbc.trans hab }
  have hfinite : {x | x ∈ g.ids}.Finite := List.finite_toSet g.ids
  -- from the dependencies to the nodes that list them
  have hwf : {x | x ∈ g.ids}.WellFoundedOn
      (Function.swap (Relation.TransGen g.Edge)) := hfinite.wellFoundedOn
  refine hwf.induction hi fun node hnode ih => ?_
  by_contra hleft
  obtain ⟨dep, hedge, hdep, hopen⟩ := g.exists_left_over hnode hleft
  exact hopen (ih dep hdep (Relation.TransGen.single hedge))

theorem order_perm_iff : (order g.nodes).Perm g.ids ↔ g.Acyclic := by
  constructor
  · intro hperm
    exact g.acyclic_of_respects g.order_respects g.order_nodup
      fun i => hperm.mem_iff
  · intro hacyclic
    refine (List.perm_ext_iff_of_nodup g.order_nodup g.nodup).mpr fun i => ?_
    constructor
    · intro hi
      obtain ⟨_, h⟩ := g.order_inv
      exact h.subset i (by simpa using hi)
    · exact fun hi => hacyclic.mem_order g hi

theorem length_order_iff :
    (order g.nodes).length = g.ids.length ↔ g.Acyclic := by
  rw [← g.order_perm_iff]
  constructor
  · intro hlength
    exact (List.perm_ext_iff_of_nodup g.order_nodup g.nodup).mpr
      (g.mem_order_of_length hlength)
  · exact List.Perm.length_eq

end Kahn.Graph
