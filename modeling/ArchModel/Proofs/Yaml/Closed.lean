import ArchModel.Proofs.Except
import ArchModel.Yaml.Document

/-!
# Documents are closed

Values refer to collections by number. The collection of a node has the number of the node, and the
pairs of a list of pairs stand behind the collections of nodes. A value refers to nodes that there
are, so what it refers to is there.

* `Builder.Closed` is what holds while nodes are given values, and `Build.Keeps` says that a step
  keeps it.
* **`isClosed_ofText`**: the document that a text stands for is closed.
-/

namespace ArchModel.Yaml

/-! ## References -/

theorem Value.IsBelow.mono {v : Value} {m n : Nat} (h : v.IsBelow m) (le : m ≤ n) :
    v.IsBelow n := by
  cases v with
  | list id | map id | keySet id | couple id => exact Nat.lt_of_lt_of_le h le
  | _ => trivial

theorem Collection.IsBelow.mono {c : Collection} {m n : Nat} (h : c.IsBelow m) (le : m ≤ n) :
    c.IsBelow n := by
  cases c with
  | list items => exact fun v hv => (h v hv).mono le
  | map pairs => exact fun p hp => ⟨(h p hp).1.mono le, (h p hp).2.mono le⟩

/-- A scalar refers to nothing. -/
theorem Value.isBelow_of_ofText? {tag : NodeTag} {s : String} {v : Value}
    (h : Value.ofText? tag s = some (.ok v)) (n : Nat) : v.IsBelow n := by
  cases v with
  | list id | map id | keySet id | couple id =>
    unfold Value.ofText? at h
    split at h
    all_goals simp only [Option.some.injEq, reduceCtorEq, Except.ok.injEq] at h
    · split at h <;> cases h
    · cases number : integerOf s <;> rw [number] at h <;> cases h
    · cases number : floatOf s <;> rw [number] at h <;> cases h
    · split at h
      · cases h
      · split at h <;> cases h
  | _ => trivial

/-! ## Graphs -/

namespace Graph

/-- A node that is not there has the type of a text. -/
theorem lt_size_of_tag {g : Graph} {id : Nat} (h : g.tag id ≠ .text) : id < g.nodes.size := by
  refine Nat.lt_of_not_le fun beyond => h ?_
  have none : g.node id = default := by
    rw [node, Array.getElem?_eq_none beyond, Option.getD_none]
  rw [tag, none]
  rfl

theorem size_setPairs (g : Graph) (id : Nat) (pairs : List (Nat × Nat)) :
    (g.setPairs id pairs).nodes.size = g.nodes.size := by
  unfold setPairs
  split
  · exact Array.size_setIfInBounds
  · rfl

theorem size_settleDefault (g : Graph) (id : Nat) :
    (g.settleDefault id).nodes.size = g.nodes.size := by
  unfold settleDefault
  split
  · exact Array.size_setIfInBounds
  · rfl

/-- Replacing merge keys adds no node, neither those of one mapping nor those of several. -/
theorem size_merge (fuel : Nat) :
    (∀ id index merged (g : Graph),
      Meets (fun _ => True) (fun g' => g'.nodes.size = g.nodes.size)
        (g.mergeFrom id index merged fuel)) ∧
    ∀ items (g : Graph), Meets (fun _ => True) (fun x => x.1.nodes.size = g.nodes.size)
      (g.mergeItems items fuel) := by
  induction fuel with
  | zero => exact ⟨fun _ _ _ _ => rfl, fun _ _ => rfl⟩
  | succ fuel ih =>
    -- The two call each other, so one induction carries both.
    obtain ⟨one, several⟩ := ih
    constructor
    · intro id index merged g
      rw [mergeFrom]
      dsimp only
      split
      · show (if merged.isEmpty = true then g else g.setPairs id _).nodes.size = g.nodes.size
        split
        · rfl
        · exact size_setPairs g id _
      · next k v found =>
        split
        · have start := size_setPairs g id (((g.pairs? id).getD []).eraseIdx index)
          split
          · refine (one v 0 [] _).bind fun g₁ first => ?_
            exact (one _ _ _ g₁).mono fun g₂ second => second.trans (first.trans start)
          · refine (several _ _).bind fun x first => ?_
            exact (one _ _ _ x.1).mono fun g₂ second => second.trans (first.trans start)
          · trivial
        · exact (one _ _ _ _).mono fun g' same => same.trans (size_settleDefault g k)
    · intro items g
      cases items with
      | nil =>
        rw [mergeItems]
        rfl
      | cons id ids =>
        rw [mergeItems]
        split
        · refine (one id 0 [] g).bind fun g₁ first => ?_
          exact (several ids g₁).bind fun x second => second.trans first
        · trivial

theorem size_mergeInto (g : Graph) (id : Nat) :
    Meets (fun _ => True) (fun g' => g'.nodes.size = g.nodes.size) (g.mergeInto id) :=
  (size_merge _).1 id 0 [] g

end Graph

/-! ## Steps -/

namespace Document

/-- What holds while a number of nodes are given values. -/
structure Builder.Closed (n : Nat) (b : Builder) : Prop where
  nodes : b.graph.nodes.size = n
  size : n ≤ b.collections.size
  below : ∀ c ∈ b.collections, c.IsBelow b.collections.size

namespace Build

variable {n k : Nat} {α β : Type} {R : Nat → α → Prop} {S : Nat → β → Prop}

/-- A step keeps what holds of the state, if there are at least `k` collections. They do not become
fewer, and the result satisfies `R` with their number. -/
def Keeps (n k : Nat) (R : Nat → α → Prop) (m : Build α) : Prop :=
  ∀ b : Builder, b.Closed n → k ≤ b.collections.size →
    Meets (fun _ => True) (fun x => x.2.Closed n ∧ k ≤ x.2.collections.size ∧
      R x.2.collections.size x.1) (m b)

theorem Keeps.pure {a : α} (h : ∀ k', n ≤ k' → k ≤ k' → R k' a) : Keeps n k R (pure a) :=
  fun _ closed le => ⟨closed, le, h _ closed.size le⟩

theorem Keeps.bind {m : Build α} {f : α → Build β} (h : Keeps n k R m)
    (next : ∀ a k', n ≤ k' → k ≤ k' → R k' a → Keeps n k' S (f a)) : Keeps n k S (m >>= f) :=
  fun b closed le => (h b closed le).bind fun x hx =>
    (next x.1 _ hx.1.size hx.2.1 hx.2.2 x.2 hx.1 (Nat.le_refl _)).mono fun _ hy =>
      ⟨hy.1, Nat.le_trans hx.2.1 hy.2.1, hy.2.2⟩

theorem Keeps.get {f : Builder → Build α}
    (next : ∀ b : Builder, b.Closed n → Keeps n k R (f b)) : Keeps n k R (get >>= f) :=
  fun b closed le => next b closed b closed le

theorem keeps_fail (cause : FaultCause) : Keeps n k R (fail cause) := fun _ _ _ => trivial

theorem keeps_failValue (f : ValueFault) : Keeps n k R (failValue f) := fun _ _ _ => trivial

theorem keeps_fail_bind (cause : FaultCause) {f : α → Build β} :
    Keeps n k S (fail cause >>= f) := fun _ _ _ => trivial

theorem keeps_failValue_bind (v : ValueFault) {f : α → Build β} :
    Keeps n k S (failValue v >>= f) := fun _ _ _ => trivial

theorem keeps_meet (id : Nat) : Keeps n k (fun _ _ => True) (meet id) := by
  intro b closed le
  refine ⟨?_, ?_, trivial⟩ <;> dsimp only <;> split
  · exact closed
  · exact ⟨closed.nodes, closed.size, closed.below⟩
  · exact le
  · exact le

theorem keeps_put (id : Nat) {c : Collection} (h : c.IsBelow k) :
    Keeps n k (fun _ _ => True) (put id c) := by
  intro b closed le
  have size : (b.collections.setIfInBounds id c).size = b.collections.size :=
    Array.size_setIfInBounds
  refine ⟨⟨closed.nodes, size ▸ closed.size, fun c' hc' => ?_⟩, ?_, trivial⟩
  · dsimp only at hc' ⊢
    rw [size]
    rcases Array.mem_or_eq_of_mem_setIfInBounds hc' with before | rfl
    · exact closed.below c' before
    · exact h.mono le
  · exact Nat.le_trans le (Nat.le_of_eq size.symm)

theorem keeps_textOf (id fuel : Nat) : Keeps n k (fun _ _ => True) (textOf id fuel) := by
  induction fuel generalizing id with
  | zero => exact keeps_failValue _
  | succ fuel ih =>
    rw [textOf]
    refine .get fun b closed => ?_
    dsimp only
    split
    · exact .pure fun _ _ _ => trivial
    · exact keeps_fail _
    · split
      · exact ih _
      · exact keeps_fail _

theorem keeps_scalar (tag : NodeTag) (text : String) :
    Keeps n k (fun _ v => v.IsBelow n) (scalar tag text) := by
  unfold scalar
  split
  · next v read => exact .pure fun _ _ _ => Value.isBelow_of_ofText? read n
  · exact keeps_failValue _
  · exact keeps_fail _

/-- A value refers to a node that there is, if it is no scalar. -/
theorem keeps_value (id : Nat) : Keeps n k (fun _ v => v.IsBelow n) (value id) := by
  unfold value
  refine .get fun b closed => ?_
  have collection {v : Value} (other : b.graph.tag id ≠ .text) (refers : id < n → v.IsBelow n) :
      Keeps n k (fun _ v => v.IsBelow n) (do meet id; return v) :=
    (keeps_meet id).bind fun _ _ _ _ _ => .pure fun _ _ _ =>
      refers (closed.nodes ▸ Graph.lt_size_of_tag other)
  dsimp only
  split
  · next same => exact collection (by simp [same]) fun inside => inside
  · next same => exact collection (by simp [same]) fun inside => inside
  · next same => exact collection (by simp [same]) fun inside => inside
  · next same => exact collection (by simp [same]) fun inside => inside
  · exact keeps_fail _
  · exact keeps_fail _
  · exact keeps_fail _
  · refine (keeps_textOf id _).bind fun text _ _ _ _ => ?_
    split
    · split
      · exact keeps_fail_bind _
      · split
        · exact .pure fun _ _ _ => trivial
        · exact keeps_fail_bind _
    · split
      · exact keeps_scalar _ text
      · exact keeps_failValue_bind _
    · exact keeps_scalar _ text

theorem keeps_mapM {f : α → Build β} {as : List α}
    (later : ∀ b k k', k ≤ k' → S k b → S k' b) (each : ∀ a k, Keeps n k S (f a)) :
    Keeps n k (fun k bs => ∀ b ∈ bs, S k b) (as.mapM f) := by
  induction as generalizing k with
  | nil =>
    rw [List.mapM_nil]
    exact .pure fun _ _ _ => by simp
  | cons a as ih =>
    rw [List.mapM_cons]
    refine (each a k).bind fun b k₁ _ _ first => ?_
    refine ih.bind fun bs k₂ _ le rest => .pure fun k₃ _ le' => ?_
    exact List.forall_mem_cons.2 ⟨later b k₁ k₃ (Nat.le_trans le le') first,
      fun b hb => later b k₂ k₃ le' (rest b hb)⟩

theorem keeps_foldlM {step : β → α → Build β} {as : List α} {P : β → Prop} {b : β}
    (each : ∀ b a k, P b → Keeps n k (fun _ b => P b) (step b a)) (start : P b) :
    Keeps n k (fun _ b => P b) (as.foldlM step b) := by
  induction as generalizing k b with
  | nil =>
    rw [List.foldlM_nil]
    exact .pure fun _ _ _ => start
  | cons a as ih =>
    rw [List.foldlM_cons]
    exact (each b a k start).bind fun _ _ _ _ kept => ih kept

theorem keeps_addPair (p : Nat × Nat) {pairs : List (Value × Value)}
    (h : ∀ p ∈ pairs, p.1.IsBelow n ∧ p.2.IsBelow n) :
    Keeps n k (fun _ pairs => ∀ p ∈ pairs, p.1.IsBelow n ∧ p.2.IsBelow n) (addPair pairs p) := by
  refine (keeps_value p.1).bind fun key _ _ _ hk => ?_
  split
  · exact keeps_fail _
  · exact keeps_fail _
  · exact keeps_fail _
  · exact (keeps_value p.2).bind fun item _ _ _ hv => .pure fun _ _ _ => forall_mem_put h hk hv

/-- The pairs of a mapping refer to nodes that there are. -/
theorem keeps_pairsOf (id : Nat) :
    Keeps n k (fun _ pairs => ∀ p ∈ pairs, p.1.IsBelow n ∧ p.2.IsBelow n) (pairsOf id) := by
  unfold pairsOf
  refine .get fun b closed => ?_
  dsimp only
  split
  · have size := Graph.size_mergeInto b.graph id
    split
    · next g merged =>
      have size : g.nodes.size = n := (size.result merged).trans closed.nodes
      refine .bind (R := fun _ _ => True) (fun b closed le => ?_) fun _ _ _ _ _ => ?_
      · exact ⟨⟨size, closed.size, closed.below⟩, le, trivial⟩
      · exact keeps_foldlM (fun pairs p _ h => keeps_addPair p h) (by simp)
    · exact keeps_fail _
  · exact keeps_fail _

/-- A key and its value get a collection behind the others. -/
theorem keeps_coupleOf (id : Nat) : Keeps n k (fun k v => v.IsBelow k) (coupleOf id) := by
  unfold coupleOf
  refine .get fun b closed => ?_
  split
  · next key item written =>
    refine (keeps_value key).bind fun key _ _ _ hk => ?_
    refine (keeps_value item).bind fun item _ _ _ hi b closed le => ?_
    have size : (b.collections.push (.list [key, item])).size = b.collections.size + 1 :=
      Array.size_push ..
    refine ⟨⟨closed.nodes, ?_, fun c hc => ?_⟩, ?_, ?_⟩
    · show n ≤ (b.collections.push (.list [key, item])).size
      rw [size]
      exact Nat.le_succ_of_le closed.size
    · show c.IsBelow (b.collections.push (.list [key, item])).size
      rw [size]
      rcases Array.mem_push.1 hc with before | rfl
      · exact (closed.below c before).mono (Nat.le_succ _)
      · have le := Nat.le_succ_of_le closed.size
        simp [Collection.IsBelow, hk.mono le, hi.mono le]
    · show _ ≤ (b.collections.push (.list [key, item])).size
      rw [size]
      exact Nat.le_succ_of_le le
    · show b.collections.size < (b.collections.push (.list [key, item])).size
      rw [size]
      exact Nat.lt_succ_self _
  · exact keeps_fail _

theorem mem_orderKeys {keys : List Value} {v : Value} : v ∈ orderKeys keys ↔ v ∈ keys := by
  unfold orderKeys
  split
  · exact List.mem_mergeSort
  · exact Iff.rfl

theorem keeps_fillOne (id : Nat) : Keeps n k (fun _ _ => True) (fillOne id) := by
  unfold fillOne
  refine .get fun b closed => ?_
  dsimp only
  split
  · split
    · next items written =>
      refine (keeps_mapM (fun _ _ _ _ h => h) fun id _ => keeps_value id).bind ?_
      intro items k' le _ below
      exact keeps_put id fun v hv => (below v hv).mono le
    · exact keeps_fail _
  · split
    · next items written =>
      refine (keeps_mapM (fun v _ _ le h => h.mono le) fun id _ => keeps_coupleOf id).bind ?_
      exact fun items k' _ _ below => keeps_put id below
    · exact keeps_fail _
  · refine (keeps_pairsOf id).bind fun pairs k' le _ below => keeps_put id fun v hv => ?_
    obtain ⟨p, hp, rfl⟩ := List.mem_map.1 (mem_orderKeys.1 hv)
    exact (below p hp).1.mono le
  · refine (keeps_pairsOf id).bind fun pairs k' le _ below => keeps_put id fun p hp => ?_
    exact ⟨(below p hp).1.mono le, (below p hp).2.mono le⟩

theorem keeps_fillAll (fuel : Nat) : Keeps n k (fun _ _ => True) (fillAll fuel) := by
  induction fuel generalizing k with
  | zero => exact .pure fun _ _ _ => trivial
  | succ fuel ih =>
    rw [fillAll]
    refine .get fun b closed => ?_
    split
    · exact .pure fun _ _ _ => trivial
    · refine .bind (R := fun _ _ => True) (fun b closed le => ?_) fun _ _ _ _ _ => ?_
      · exact ⟨⟨closed.nodes, closed.size, closed.below⟩, le, trivial⟩
      · exact (keeps_fillOne _).bind fun _ _ _ _ _ => ih

end Build

/-- The document of a graph is closed. -/
theorem isClosed_ofGraph {g : Graph} {d : Document} (h : ofGraph g = .ok d) : d.IsClosed := by
  have start : Builder.Closed g.nodes.size
      { graph := g, collections := Array.replicate g.nodes.size (.list []) } := by
    refine ⟨rfl, Nat.le_of_eq Array.size_replicate.symm, fun c hc => ?_⟩
    obtain ⟨-, rfl⟩ := Array.mem_replicate.1 hc
    simp [Collection.IsBelow]
  have keeps : Build.Keeps g.nodes.size 0 (fun _ _ => True) (do
      let root ← Build.value g.root
      Build.fillAll (g.nodes.size + 1)
      return root) :=
    (Build.keeps_value g.root).bind fun root _ _ _ _ =>
      (Build.keeps_fillAll _).bind fun _ _ _ _ _ => .pure fun _ _ _ => trivial
  obtain ⟨⟨root, b⟩, run, same⟩ := bind_eq_ok.1 h
  obtain rfl := Except.ok.inj same
  exact ((keeps _ start (Nat.zero_le _)).result run).1.below

/-- **The document that a text stands for is closed.** -/
theorem isClosed_ofText {cs : List Char} {d : Document} (h : ofText cs = .ok d) : d.IsClosed := by
  unfold ofText at h
  split at h
  · cases h
  · cases h
    intro c hc
    simp at hc
  · exact isClosed_ofGraph h

end Document

end ArchModel.Yaml
