import JoinEngine.Plan.Graph

/-!
Graphs of plans that grow at their end. New vertices get the next numbers, and new edges lead to
new vertices only, so the edges that lead to a vertex are those it was added with. `Sound` is
what assembling a plan keeps of its graph.
-/

namespace JoinEngine

def JoinSite.rightKind (site : JoinSite) : VertexKind :=
  match site.right with
  | .table t => .right t.name site.kind false
  | .subquery d => .right d.name site.kind false

theorem JoinSite.exists_rightKind (site : JoinSite) :
    ∃ name, site.rightKind = .right name site.kind false := by
  unfold rightKind
  cases site.right with
  | table t => exact ⟨t.name, rfl⟩
  | subquery d => exact ⟨d.name, rfl⟩

def VertexKind.isInput : VertexKind → Bool
  | .source _ => true
  | .right _ _ _ => true
  | _ => false

namespace PlanGraph

/-- What the vertices do, in the order they were added. -/
def kinds (g : PlanGraph) : List VertexKind := g.vertices.map Vertex.kind

/-- The edges that lead to a vertex are those that its kind asks for: none to an input, a stream
and the right relation to a join, and a stream to any other. -/
def Feeds (g : PlanGraph) (v : Vertex) : Prop :=
  match v.kind with
  | .source _ | .right _ _ _ => g.inbound v.id = []
  | .join site => ∃ stage right,
      g.inbound v.id = [⟨stage, v.id, .stream⟩, ⟨right, v.id, .probe⟩] ∧
        (g.vertex? right).map Vertex.kind = some site.rightKind
  | .project _ | .sink _ => ∃ stage, g.inbound v.id = [⟨stage, v.id, .stream⟩]

/-- Vertices are numbered by their place, edges lead forward, and all vertices are fed. -/
structure Sound (g : PlanGraph) : Prop where
  ids : ∀ (i : Nat) v, g.vertices[i]? = some v → v.id = i
  forward : ∀ e ∈ g.edges, e.source < e.target ∧ e.target < g.vertices.length
  fed : ∀ v ∈ g.vertices, g.Feeds v

def grown (g : PlanGraph) (vertices : List Vertex) (edges : List Edge) : PlanGraph :=
  ⟨g.vertices ++ vertices, g.edges ++ edges⟩

variable {g : PlanGraph} {vertices : List Vertex} {edges : List Edge}

theorem Sound.id_lt (h : g.Sound) {v : Vertex} (member : v ∈ g.vertices) :
    v.id < g.vertices.length := by
  obtain ⟨i, hi⟩ := List.mem_iff_getElem?.mp member
  rw [h.ids i v hi]
  exact (List.getElem?_eq_some_iff.mp hi).1

/-- New edges that lead to new vertices do not lead to old ones. -/
theorem inbound_grown_old {id : Nat} (hid : id < g.vertices.length)
    (hedges : ∀ e ∈ edges, g.vertices.length ≤ e.target) :
    (g.grown vertices edges).inbound id = g.inbound id := by
  have hnone : edges.filter (fun e => e.target == id) = [] := by
    apply List.filter_eq_nil_iff.mpr
    intro e member
    have := hedges e member
    simp only [beq_iff_eq]
    omega
  unfold inbound grown
  rw [List.filter_append, hnone, List.append_nil]

/-- Only new edges lead to new vertices. -/
theorem inbound_grown_new (h : g.Sound) {id : Nat} (hid : g.vertices.length ≤ id) :
    (g.grown vertices edges).inbound id = edges.filter (·.target == id) := by
  have hnone : g.edges.filter (fun e => e.target == id) = [] := by
    apply List.filter_eq_nil_iff.mpr
    intro e member
    have := (h.forward e member).2
    simp only [beq_iff_eq]
    omega
  unfold inbound grown
  rw [List.filter_append, hnone, List.nil_append]

theorem vertex?_grown {id : Nat} {v : Vertex} (h : g.vertex? id = some v) :
    (g.grown vertices edges).vertex? id = some v := by
  obtain ⟨hid, -⟩ := List.getElem?_eq_some_iff.mp h
  exact (List.getElem?_append_left hid).trans h

theorem Feeds.grown {v : Vertex} (h : g.Feeds v) (hid : v.id < g.vertices.length)
    (hedges : ∀ e ∈ edges, g.vertices.length ≤ e.target) :
    (g.grown vertices edges).Feeds v := by
  unfold Feeds at h ⊢
  rw [inbound_grown_old hid hedges]
  cases hkind : v.kind with
  | source table => simpa only [hkind] using h
  | right name kind unbounded => simpa only [hkind] using h
  | project p => simpa only [hkind] using h
  | sink target => simpa only [hkind] using h
  | join site =>
      simp only [hkind] at h
      obtain ⟨stage, right, hinbound, hright⟩ := h
      obtain ⟨vertex, hvertex, hsame⟩ := Option.map_eq_some_iff.mp hright
      exact ⟨stage, right, hinbound, Option.map_eq_some_iff.mpr
        ⟨vertex, vertex?_grown hvertex, hsame⟩⟩

/-- A sound graph stays sound if it grows by numbered vertices and by the edges that feed them. -/
theorem Sound.grown (h : g.Sound)
    (hids : ∀ (i : Nat) v, vertices[i]? = some v → v.id = g.vertices.length + i)
    (hedges : ∀ e ∈ edges, e.source < e.target ∧ g.vertices.length ≤ e.target ∧
      e.target < g.vertices.length + vertices.length)
    (hfed : ∀ v ∈ vertices, (g.grown vertices edges).Feeds v) : (g.grown vertices edges).Sound where
  ids i v hv := by
    change (g.vertices ++ vertices)[i]? = some v at hv
    by_cases hold : i < g.vertices.length
    · rw [List.getElem?_append_left hold] at hv
      exact h.ids i v hv
    · rw [List.getElem?_append_right (by omega)] at hv
      have := hids _ v hv
      omega
  forward e member := by
    have hlength : (g.grown vertices edges).vertices.length =
        g.vertices.length + vertices.length := List.length_append
    rcases List.mem_append.mp member with hold | hnew
    · have := h.forward e hold
      omega
    · have := hedges e hnew
      omega
  fed v member := by
    rcases List.mem_append.mp member with hold | hnew
    · exact (h.fed v hold).grown (h.id_lt hold) fun e he => (hedges e he).2.1
    · exact hfed v hnew

/-- A new vertex alone has the next number. -/
theorem id_of_getElem?_singleton {n i : Nat} {name : String} {kind : VertexKind} {v : Vertex}
    (hv : [Vertex.mk n name kind][i]? = some v) : v.id = n + i := by
  obtain ⟨hi, rfl⟩ := List.getElem?_eq_some_iff.mp hv
  obtain rfl : i = 0 := Nat.lt_one_iff.mp hi
  rfl

theorem sound_empty : ({} : PlanGraph).Sound where
  ids _ _ hv := nomatch hv
  forward _ member := nomatch member
  fed _ member := nomatch member

/-- A source alone is a sound graph. -/
theorem sound_source (name : String) (table : TableRef) :
    (addVertex {} name (.source table)).Sound := by
  have hgrown : (grown {} [⟨0, name, .source table⟩] []).Sound := by
    apply sound_empty.grown
    · exact fun i v hv => id_of_getElem?_singleton hv
    · exact fun e member => nomatch member
    · intro v member
      obtain rfl := List.mem_singleton.mp member
      rfl
  exact hgrown

/-- Adding a vertex that a stream leads to, and nothing else. -/
theorem Sound.addStage (h : g.Sound) {tail : Nat} (htail : tail < g.vertices.length)
    (name : String) {kind : VertexKind}
    (hkind : (∃ p, kind = .project p) ∨ ∃ target, kind = .sink target) :
    ((g.addVertex name kind).addEdge tail g.nextId .stream).Sound := by
  have hgrown : (g.grown [⟨g.nextId, name, kind⟩] [⟨tail, g.nextId, .stream⟩]).Sound := by
    apply h.grown
    · exact fun i v hv => id_of_getElem?_singleton hv
    · intro e member
      obtain rfl := List.mem_singleton.mp member
      exact ⟨htail, Nat.le_refl _, Nat.lt_succ_self _⟩
    · intro v member
      obtain rfl := List.mem_singleton.mp member
      have hinbound : (g.grown [⟨g.nextId, name, kind⟩] [⟨tail, g.nextId, .stream⟩]).inbound
          g.nextId = [⟨tail, g.nextId, .stream⟩] := by
        have hid : g.vertices.length ≤ g.nextId := Nat.le_refl _
        rw [inbound_grown_new h hid]
        simp
      unfold Feeds
      rcases hkind with ⟨p, rfl⟩ | ⟨target, rfl⟩ <;> exact ⟨tail, hinbound⟩
  exact hgrown

def withJoin (g : PlanGraph) (tail : Nat) (site : JoinSite) (rightName joinName : String) :
    PlanGraph :=
  g.grown [⟨g.nextId, rightName, site.rightKind⟩, ⟨g.nextId + 1, joinName, .join site⟩]
    [⟨tail, g.nextId + 1, .stream⟩, ⟨g.nextId, g.nextId + 1, .probe⟩]

theorem Sound.withJoin (h : g.Sound) {tail : Nat} (htail : tail < g.vertices.length)
    (site : JoinSite) (rightName joinName : String) :
    (g.withJoin tail site rightName joinName).Sound := by
  have hnext : g.nextId = g.vertices.length := rfl
  apply h.grown
  · intro i v hv
    match i, hv with
    | 0, hv =>
        obtain rfl := Option.some.inj hv
        rfl
    | 1, hv =>
        obtain rfl := Option.some.inj hv
        rfl
  · intro e member
    simp only [List.mem_cons, List.not_mem_nil, or_false] at member
    simp only [List.length_cons, List.length_nil]
    rcases member with rfl | rfl
    · dsimp only
      omega
    · dsimp only
      omega
  · intro v member
    simp only [List.mem_cons, List.not_mem_nil, or_false] at member
    rcases member with rfl | rfl
    · have hinbound : (g.withJoin tail site rightName joinName).inbound g.nextId = [] := by
        have hid : g.vertices.length ≤ g.nextId := Nat.le_refl _
        unfold PlanGraph.withJoin
        rw [inbound_grown_new h hid]
        simp
      obtain ⟨name, hkind⟩ := site.exists_rightKind
      unfold Feeds
      rw [hkind]
      exact hinbound
    · have hid : g.vertices.length ≤ g.nextId + 1 := by omega
      refine ⟨tail, g.nextId, ?_, ?_⟩
      · rw [inbound_grown_new h hid]
        simp
      · have hright : (g.vertices ++ [⟨g.nextId, rightName, site.rightKind⟩,
            ⟨g.nextId + 1, joinName, .join site⟩])[g.nextId]? =
              some ⟨g.nextId, rightName, site.rightKind⟩ := by
          rw [hnext, List.getElem?_append_right (Nat.le_refl _), Nat.sub_self]
          rfl
        exact congrArg (Option.map Vertex.kind) hright

/-- The vertices that no edge leads to are the inputs. -/
theorem Sound.leaves_kinds (h : g.Sound) :
    g.leaves.map Vertex.kind = g.kinds.filter VertexKind.isInput := by
  have hinputs : ∀ v ∈ g.vertices, (g.inbound v.id).isEmpty = v.kind.isInput := by
    intro v member
    have hfeeds := h.fed v member
    unfold Feeds at hfeeds
    cases hkind : v.kind with
    | source table | right name kind unbounded =>
        rw [hkind] at hfeeds
        simp only [hfeeds]
        rfl
    | project p | sink target =>
        rw [hkind] at hfeeds
        obtain ⟨stage, hinbound⟩ := hfeeds
        rw [hinbound]
        rfl
    | join site =>
        rw [hkind] at hfeeds
        obtain ⟨stage, right, hinbound, -⟩ := hfeeds
        rw [hinbound]
        rfl
  unfold leaves kinds
  rw [List.filter_congr hinputs, List.filter_map]
  rfl

end PlanGraph

end JoinEngine
