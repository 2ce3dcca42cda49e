import CloudLens.Topology.ChainCost

/-! What the order of the edges decides about a chain cost. Which entities a chain
holds and how far away they are does not depend on it. The part an entity is
counted at is that of the link it is first found by, so the cost is the same in
every order exactly when all links from the nearer entities give the same part. -/
namespace CloudLens.Topology
open Cost Dependency Library Library.Traversal

def contribution (node : NodeCostBreakdown) : String × ℕ × ℚ × ℚ :=
  (node.entityId, node.depth, node.apportionmentPct, node.effectiveContributedCost)

def ChainCostDecomposition.contributions (chain : ChainCostDecomposition) : Multiset (String × ℕ × ℚ × ℚ) :=
  (chain.contributingNodes.map contribution : List (String × ℕ × ℚ × ℚ))

def Distance (edges : List DependencyEdge) (root : String) (n : ℕ) (entity : String) : Prop :=
  (chainSearch (edges.flatMap chainLinks) none).Nearest root n entity

/-- Each entity within the limit is counted once at its distance, and the total
is the direct cost with all effective contributions. -/
structure ExactChain (edges : List DependencyEdge) (enrich : Enrichment) (maxDepth : ℕ) (root : TypedEntityRef)
    (chain : ChainCostDecomposition) : Prop where
  once : (chain.contributingNodes.map NodeCostBreakdown.entityId).Nodup
  exact : ∀ entity, entity ∈ chain.contributingNodes.map NodeCostBreakdown.entityId ↔ entity ≠ root.entityId ∧
    ∃ n ≤ maxDepth, (chainSearch (edges.flatMap chainLinks) none).Steps root.entityId n entity
  shortest : ∀ node ∈ chain.contributingNodes, Distance edges root.entityId node.depth node.entityId
  total : chain.totalChainCost = roundCurrency ((enrichRef enrich root).cost +
    (chain.contributingNodes.map NodeCostBreakdown.effectiveContributedCost).sum)

def OrderFree (edges : List DependencyEdge) (enrich : Enrichment) (currency : String) (maxDepth : ℕ) (root : TypedEntityRef) :
    Prop :=
  ∀ permuted : List DependencyEdge, permuted.Perm edges →
    (calculateChainCost permuted enrich currency maxDepth root).totalChainCost =
        (calculateChainCost edges enrich currency maxDepth root).totalChainCost ∧
      (calculateChainCost permuted enrich currency maxDepth root).contributions =
        (calculateChainCost edges enrich currency maxDepth root).contributions

def share (enrich : Enrichment) (link : Link) : ℚ × ℚ :=
  ((apportionment link.edge).pct, effectiveCost (enrichRef enrich link.ref).cost (apportionment link.edge).pct)

/-- The links by which an entity within the limit can be found at its distance all
count it at the same. -/
def AgreeingLinks (edges : List DependencyEdge) (enrich : Enrichment) (maxDepth : ℕ) (root : TypedEntityRef) : Prop :=
  ∀ n < maxDepth, ∀ first ∈ edges.flatMap chainLinks, ∀ second ∈ edges.flatMap chainLinks,
    first.ref.entityId = second.ref.entityId → Distance edges root.entityId (n + 1) first.ref.entityId →
    Distance edges root.entityId n first.node → Distance edges root.entityId n second.node →
    share enrich first = share enrich second

section Exact

variable {edges permuted : List DependencyEdge} {enrich : Enrichment} {currency : String} {maxDepth : ℕ} {root : TypedEntityRef}
  {limit : Option ℕ} {rootId : String}

theorem chainWalk_complete (edges : List DependencyEdge) (limit : Option ℕ) (rootId : String) :
    Complete (chainSearch (edges.flatMap chainLinks) limit) rootId () (chainWalk edges limit rootId) :=
  linkWalk_complete rfl rootId ()

theorem chainLinks_perm (same : permuted.Perm edges) {link : Link} :
    link ∈ permuted.flatMap chainLinks ↔ link ∈ edges.flatMap chainLinks := by
  rw [List.mem_flatMap,List.mem_flatMap]
  exact exists_congr fun edge => and_congr_left fun _ => same.mem_iff

theorem chainStep_perm (same : permuted.Perm edges) (limit other : Option ℕ) :
    (chainSearch (permuted.flatMap chainLinks) limit).Step = (chainSearch (edges.flatMap chainLinks) other).Step := by
  rw [step_eq_linkStep rfl,step_eq_linkStep rfl]
  funext a b
  exact propext (exists_congr fun link => and_congr_left fun _ => chainLinks_perm same)

theorem nearest_iff_distance (same : permuted.Perm edges) {n : ℕ} {entity : String} :
    (chainSearch (permuted.flatMap chainLinks) limit).Nearest rootId n entity ↔ Distance edges rootId n entity :=
  nearest_congr (chainStep_perm same limit none)

theorem contributions_eq (edges : List DependencyEdge) (enrich : Enrichment) (currency : String) (maxDepth : ℕ)
    (root : TypedEntityRef) : (calculateChainCost edges enrich currency maxDepth root).contributingNodes.map contribution =
      (chainWalk edges (some maxDepth) root.entityId).found.map
        (fun found => (found.1.node, found.1.depth, share enrich found.2)) := by
  obtain ⟨total,listed⟩ := contributingNodes_eq edges enrich currency maxDepth root
  rw [listed,List.map_map]
  apply List.map_congr_left
  intro found member
  rw [← chainWalk_ref member]
  rfl

theorem total_eq (edges : List DependencyEdge) (enrich : Enrichment) (currency : String) (maxDepth : ℕ)
    (root : TypedEntityRef) : (calculateChainCost edges enrich currency maxDepth root).totalChainCost =
      roundCurrency ((enrichRef enrich root).cost +
        (((calculateChainCost edges enrich currency maxDepth root).contributingNodes.map contribution).map
          (fun entry => entry.2.2.2)).sum) := by
  unfold calculateChainCost
  simp only [List.map_map]
  rfl

theorem chain_exact (edges : List DependencyEdge) (enrich : Enrichment) (currency : String) (maxDepth : ℕ)
    (root : TypedEntityRef) : ExactChain edges enrich maxDepth root (calculateChainCost edges enrich currency maxDepth root) := by
  have complete := chainWalk_complete edges (some maxDepth) root.entityId
  have ids := contributingNodes_ids edges enrich currency maxDepth root
  refine ⟨?_,?_,?_,?_⟩
  · rw [ids]
    exact (List.nodup_cons.mp complete.state.distinct).2
  · intro entity
    have steps : ∀ n, (chainSearch (edges.flatMap chainLinks) (some maxDepth)).Steps root.entityId n entity ↔
        (chainSearch (edges.flatMap chainLinks) none).Steps root.entityId n entity :=
      fun n => steps_congr (chainStep_perm (List.Perm.refl edges) _ _)
    have within : ∀ n, (∀ limit ∈ some maxDepth, n ≤ limit) ↔ n ≤ maxDepth := by simp
    rw [ids,complete.mem_nodes_iff]
    exact and_congr_right fun _ => exists_congr fun n => and_congr (within n) (steps n)
  · intro node member
    obtain ⟨total,listed⟩ := contributingNodes_eq edges enrich currency maxDepth root
    rw [listed] at member
    obtain ⟨found,inside,rfl⟩ := List.mem_map.mp member
    have near := complete.nearest (List.mem_cons_of_mem _ (List.mem_map_of_mem inside))
    rw [← chainWalk_ref inside] at near
    exact (nearest_iff_distance (List.Perm.refl edges)).mp near
  · rw [total_eq,List.map_map]
    rfl

theorem found_over_link {found : Entry String × Link}
    (member : found ∈ (chainWalk edges (some maxDepth) rootId).found) :
    ∃ n < maxDepth, found.1.depth = n + 1 ∧ found.2 ∈ edges.flatMap chainLinks ∧ found.2.ref.entityId = found.1.node ∧
      Distance edges rootId n found.2.node ∧ Distance edges rootId (n + 1) found.1.node := by
  have complete := chainWalk_complete edges (some maxDepth) rootId
  obtain ⟨before,listed,reached,child,adjacent⟩ := complete.parent member
  obtain ⟨linked,here,there⟩ := mem_neighboursIn_iff.mp adjacent
  have depth : found.1.depth = before.depth + 1 := congrArg Entry.depth child
  have earlier := (nearest_iff_distance (List.Perm.refl edges)).mp (complete.nearest listed)
  have near := (nearest_iff_distance (List.Perm.refl edges)).mp
    (complete.nearest (List.mem_cons_of_mem _ (List.mem_map_of_mem member)))
  rw [← here] at earlier
  rw [depth] at near
  exact ⟨before.depth,of_decide_eq_true reached,depth,linked,there,earlier,near⟩

theorem agreeingLinks_perm (same : permuted.Perm edges) (agreeing : AgreeingLinks edges enrich maxDepth root) :
    AgreeingLinks permuted enrich maxDepth root := by
  have distance : ∀ n entity, Distance permuted root.entityId n entity ↔ Distance edges root.entityId n entity :=
    fun n entity => nearest_iff_distance same
  intro n below first firstLink second secondLink
  rw [distance,distance,distance]
  exact agreeing n below first ((chainLinks_perm same).mp firstLink) second ((chainLinks_perm same).mp secondLink)

theorem contributions_subset (same : permuted.Perm edges) (agreeing : AgreeingLinks edges enrich maxDepth root)
    {entry : String × ℕ × ℚ × ℚ}
    (member : entry ∈ (calculateChainCost permuted enrich currency maxDepth root).contributingNodes.map contribution) :
    entry ∈ (calculateChainCost edges enrich currency maxDepth root).contributingNodes.map contribution := by
  rw [contributions_eq] at member ⊢
  obtain ⟨found,listed,rfl⟩ := List.mem_map.mp member
  obtain ⟨n,below,depth,linked,there,earlier,near⟩ := found_over_link listed
  have nearHere : Distance edges root.entityId (n + 1) found.1.node := (nearest_iff_distance same).mp near
  have within : ∀ limit ∈ some maxDepth, n + 1 ≤ limit := by
    intro limit given
    rw [← Option.some.inj given]
    exact below
  obtain ⟨entry,known,node,entryDepth⟩ := (chainWalk_complete edges (some maxDepth) root.entityId).known
    ((nearest_iff_distance (List.Perm.refl edges)).mpr nearHere) within
  rcases List.mem_cons.mp known with rfl | inside
  · cases entryDepth
  · obtain ⟨other,otherListed,rfl⟩ := List.mem_map.mp inside
    obtain ⟨m,_,otherDepth,otherLinked,otherThere,otherEarlier,_⟩ := found_over_link otherListed
    have level : m = n := Nat.succ.inj (otherDepth.symm.trans entryDepth)
    rw [level] at otherEarlier
    have counted : share enrich other.2 = share enrich found.2 := by
      apply agreeing n below other.2 otherLinked found.2 ((chainLinks_perm same).mp linked)
      · rw [otherThere,there,node]
      · rw [otherThere,node]
        exact nearHere
      · exact otherEarlier
      · exact (nearest_iff_distance same).mp earlier
    refine List.mem_map.mpr ⟨other,otherListed,?_⟩
    rw [node,entryDepth,depth,counted]

theorem contributions_nodup (edges : List DependencyEdge) :
    ((calculateChainCost edges enrich currency maxDepth root).contributingNodes.map contribution).Nodup := by
  have once := (chain_exact edges enrich currency maxDepth root).once
  apply List.Nodup.of_map Prod.fst
  rw [List.map_map]
  exact once

theorem orderFree_of_agreeing (agreeing : AgreeingLinks edges enrich maxDepth root) :
    OrderFree edges enrich currency maxDepth root := by
  intro permuted same
  have contributions : ((calculateChainCost permuted enrich currency maxDepth root).contributingNodes.map contribution).Perm
      ((calculateChainCost edges enrich currency maxDepth root).contributingNodes.map contribution) :=
    (List.perm_ext_iff_of_nodup (contributions_nodup permuted) (contributions_nodup edges)).mpr fun entry =>
      ⟨contributions_subset same agreeing,contributions_subset same.symm (agreeingLinks_perm same agreeing)⟩
  refine ⟨?_,Multiset.coe_eq_coe.mpr contributions⟩
  rw [total_eq,total_eq,(contributions.map (fun entry => entry.2.2.2)).sum_eq]

end Exact

structure Route (edges : List DependencyEdge) (limit : Option ℕ) (rootId : String) (n : ℕ) (entity : String)
    (label : Option Link) (route : List DependencyEdge) : Prop where
  distinct : route.Nodup
  listed : ∀ edge ∈ route, edge ∈ edges
  ends : ∀ edge ∈ route, ∀ link ∈ chainLinks edge, ∃ m ≤ n, Distance edges rootId m link.ref.entityId
  leading : ∀ rest, (route ++ rest).Perm edges → ∃ entry : Entry String, entry.node = entity ∧
    (chainSearch ((route ++ rest).flatMap chainLinks) limit).Leading rootId n (entry, label)

section Routes

variable {edges : List DependencyEdge} {enrich : Enrichment} {currency : String} {maxDepth : ℕ} {root : TypedEntityRef}
  {limit : Option ℕ} {rootId : String}

theorem chainLinks_cases {edge : DependencyEdge} {link : Link} (contributed : link ∈ chainLinks edge) :
    link = forward edge ∨ link = backward edge := by
  unfold chainLinks at contributed
  rcases List.mem_append.mp contributed with directed | shared
  · split at directed <;> simp at directed
    · exact Or.inl directed
    · exact Or.inr directed
    · exact directed
  · split at shared <;> simp at shared
    exact Or.inl shared

theorem chainLinks_at {edge : DependencyEdge} {first second : Link} (one : first ∈ chainLinks edge)
    (other : second ∈ chainLinks edge) (apart : first.node ≠ first.ref.entityId) (same : second.node = first.node) :
    second = first := by
  rcases chainLinks_cases one with rfl | rfl <;> rcases chainLinks_cases other with rfl | rfl
  · rfl
  · exact absurd same.symm apart
  · exact absurd same.symm apart
  · rfl

theorem chainLinks_ends {edge : DependencyEdge} {first second : Link} (one : first ∈ chainLinks edge)
    (other : second ∈ chainLinks edge) : second.ref.entityId = first.node ∨ second.ref.entityId = first.ref.entityId := by
  rcases chainLinks_cases one with rfl | rfl <;> rcases chainLinks_cases other with rfl | rfl
  · exact Or.inr rfl
  · exact Or.inl rfl
  · exact Or.inl rfl
  · exact Or.inr rfl

theorem distance_unique {n m : ℕ} {entity : String} (near : Distance edges rootId n entity)
    (other : Distance edges rootId m entity) : n = m := Search.Nearest.unique near other

theorem neighboursIn_append (first second : List Link) (node : String) :
    neighboursIn (first ++ second) node = neighboursIn first node ++ neighboursIn second node := by
  unfold neighboursIn
  rw [List.filter_append,List.map_append]

theorem neighboursIn_edge {edge : DependencyEdge} {link : Link} (contributed : link ∈ chainLinks edge)
    (apart : link.node ≠ link.ref.entityId) :
    ∃ more, neighboursIn (chainLinks edge) link.node = (link.ref.entityId, link) :: more := by
  have member : (link.ref.entityId, link) ∈ neighboursIn (chainLinks edge) link.node :=
    mem_neighboursIn_iff.mpr ⟨contributed,rfl,rfl⟩
  cases neighbours : neighboursIn (chainLinks edge) link.node with
  | nil =>
    rw [neighbours] at member
    cases member
  | cons first more =>
    have head : first ∈ neighboursIn (chainLinks edge) link.node := by
      rw [neighbours]
      exact List.mem_cons_self
    obtain ⟨inside,here,there⟩ := mem_neighboursIn_iff.mp head
    have only := chainLinks_at contributed inside apart here
    have same : first = (link.ref.entityId, link) := Prod.ext (by rw [← there,only]) only
    exact ⟨more,congrArg (· :: more) same⟩

theorem route_root (edges : List DependencyEdge) (limit : Option ℕ) (rootId : String) :
    Route edges limit rootId 0 rootId none [] := by
  refine ⟨List.nodup_nil,?_,?_,fun _ _ => ⟨rootEntry rootId,rfl,.zero⟩⟩
  · intro edge inside
    cases inside
  · intro edge inside
    cases inside

theorem Route.not_beyond {n : ℕ} {entity : String} {label : Option Link} {route : List DependencyEdge} {edge : DependencyEdge}
    {link : Link} (reached : Route edges limit rootId n entity label route) (inside : edge ∈ route)
    (contributed : link ∈ chainLinks edge) : ¬ Distance edges rootId (n + 1) link.ref.entityId := by
  intro far
  obtain ⟨m,least,known⟩ := reached.ends edge inside link contributed
  exact absurd (distance_unique known far) (Nat.ne_of_lt (Nat.lt_succ_of_le least))

theorem Route.step {n : ℕ} {label : Option Link} {route : List DependencyEdge} {edge : DependencyEdge} {link : Link}
    (before : Route edges limit rootId n link.node label route) (listed : edge ∈ edges) (contributed : link ∈ chainLinks edge)
    (near : Distance edges rootId n link.node) (far : Distance edges rootId (n + 1) link.ref.entityId) :
    Route edges limit rootId (n + 1) link.ref.entityId (some link) (route ++ [edge]) := by
  have apart : link.node ≠ link.ref.entityId := by
    intro same
    rw [same] at near
    exact absurd (distance_unique near far) (Nat.ne_of_lt (Nat.lt_succ_self n))
  refine ⟨?_,?_,?_,?_⟩
  · refine List.nodup_append.mpr ⟨before.distinct,List.nodup_singleton edge,?_⟩
    rintro other inside last final rfl
    rw [List.mem_singleton.mp final] at inside
    exact before.not_beyond inside contributed far
  · exact forall_snoc before.listed listed
  · apply forall_snoc
    · intro other inside onward given
      obtain ⟨m,least,known⟩ := before.ends other inside onward given
      exact ⟨m,Nat.le_succ_of_le least,known⟩
    · intro onward given
      rcases chainLinks_ends contributed given with same | same
      · rw [same]
        exact ⟨n,Nat.le_succ n,near⟩
      · rw [same]
        exact ⟨n + 1,Nat.le_refl _,far⟩
  · intro rest permuted
    have order : route ++ [edge] ++ rest = route ++ edge :: rest := List.append_assoc route [edge] rest
    rw [order] at permuted ⊢
    obtain ⟨entry,here,leading⟩ := before.leading (edge :: rest) permuted
    obtain ⟨more,first⟩ := neighboursIn_edge contributed apart
    refine ⟨Search.child entry link.ref.entityId,rfl,?_⟩
    have split : (chainSearch ((route ++ edge :: rest).flatMap chainLinks) limit).neighbours entry.node =
        neighboursIn (route.flatMap chainLinks) link.node ++
          (link.ref.entityId, link) :: (more ++ neighboursIn (rest.flatMap chainLinks) link.node) := by
      change neighboursIn _ entry.node = _
      rw [here,List.flatMap_append,List.flatMap_cons,neighboursIn_append,neighboursIn_append,first]
      rfl
    refine leading.succ split ?_
    rintro ⟨next,onward⟩ inside beyond
    obtain ⟨linked,_,there⟩ := mem_neighboursIn_iff.mp inside
    obtain ⟨other,onRoute,given⟩ := List.mem_flatMap.mp linked
    apply before.not_beyond onRoute given
    rw [there]
    exact (nearest_iff_distance permuted).mp beyond

theorem exists_route {n : ℕ} {entity : String} (near : Distance edges rootId n entity) :
    ∃ label route, Route edges limit rootId n entity label route := by
  induction n generalizing entity with
  | zero =>
    obtain ⟨walked,_⟩ := near
    cases walked
    exact ⟨none,[],route_root edges limit rootId⟩
  | succ n ih =>
    obtain ⟨before,close,step⟩ := Search.Nearest.pred near
    rw [step_eq_linkStep rfl] at step
    obtain ⟨link,linked,rfl,rfl⟩ := step
    obtain ⟨edge,listed,contributed⟩ := List.mem_flatMap.mp linked
    obtain ⟨label,route,reached⟩ := ih close
    exact ⟨some link,route ++ [edge],reached.step listed contributed close near⟩

theorem found_of_leading {n : ℕ} {entry : Entry String} {link : Link} (below : n < maxDepth) (here : entry.node = link.ref.entityId)
    (far : (chainSearch (edges.flatMap chainLinks) (some maxDepth)).Nearest rootId (n + 1) link.ref.entityId)
    (leading : (chainSearch (edges.flatMap chainLinks) (some maxDepth)).Leading rootId (n + 1) (entry, some link)) :
    ∃ found ∈ (chainWalk edges (some maxDepth) rootId).found, found.2 = link ∧ found.1.node = link.ref.entityId := by
  have complete := chainWalk_complete edges (some maxDepth) rootId
  have within : ∀ limit ∈ some maxDepth, n + 1 ≤ limit := by
    intro limit given
    rw [← Option.some.inj given]
    exact below
  obtain ⟨known,member,node,depth⟩ := complete.known far within
  rcases List.mem_cons.mp member with rfl | inside
  · cases depth
  obtain ⟨found,listed,rfl⟩ := List.mem_map.mp inside
  have first := complete.first_trail (List.mem_cons_of_mem _ (List.mem_map_of_mem listed))
  change ((chainSearch _ _).trails rootId found.1.depth).find? (fun other => other.1.node = found.1.node) = _ at first
  have only : ∀ id, decide (id = link.ref.entityId) = true →
      (chainSearch (edges.flatMap chainLinks) (some maxDepth)).Nearest rootId (n + 1) id := by
    intro id same
    rw [of_decide_eq_true same]
    exact far
  rw [depth,node,leading.find? only (decide_eq_true here)] at first
  have label : some link = some found.2 := congrArg Prod.snd (Option.some.inj first)
  exact ⟨found,listed,(Option.some.inj label).symm,node⟩

theorem found_over (link : Link) {n : ℕ} (below : n < maxDepth) (linked : link ∈ edges.flatMap chainLinks)
    (near : Distance edges rootId n link.node) (far : Distance edges rootId (n + 1) link.ref.entityId) :
    ∃ permuted : List DependencyEdge, permuted.Perm edges ∧
      ∃ found ∈ (chainWalk permuted (some maxDepth) rootId).found, found.2 = link ∧ found.1.node = link.ref.entityId := by
  obtain ⟨edge,listed,contributed⟩ := List.mem_flatMap.mp linked
  have routes : ∃ label route, Route edges (some maxDepth) rootId n link.node label route := exists_route near
  obtain ⟨label,way,reached⟩ := routes
  have route := reached.step listed contributed near far
  obtain ⟨sub,permuted,sublist⟩ := List.subperm_of_subset route.distinct route.listed
  obtain ⟨rest,whole⟩ := sublist.exists_perm_append
  have order : (way ++ [edge] ++ rest).Perm edges := (permuted.symm.append_right rest).trans whole.symm
  obtain ⟨entry,here,leading⟩ := route.leading rest order
  exact ⟨_,order,found_of_leading below here ((nearest_iff_distance order).mpr far) leading⟩

theorem agreeing_of_orderFree (free : OrderFree edges enrich currency maxDepth root) : AgreeingLinks edges enrich maxDepth root := by
  intro n below first firstLink second secondLink same far firstNear secondNear
  obtain ⟨one,oneOrder,firstFound,firstListed,rfl,firstNode⟩ := found_over first below firstLink firstNear far
  rw [same] at far
  obtain ⟨other,otherOrder,secondFound,secondListed,rfl,secondNode⟩ := found_over second below secondLink secondNear far
  have contributions : (calculateChainCost one enrich currency maxDepth root).contributions =
      (calculateChainCost other enrich currency maxDepth root).contributions :=
    (free one oneOrder).2.trans (free other otherOrder).2.symm
  have permuted := Multiset.coe_eq_coe.mp contributions
  rw [contributions_eq,contributions_eq] at permuted
  have entry := permuted.mem_iff.mp (List.mem_map_of_mem (f := fun found => (found.1.node, found.1.depth, share enrich found.2)) firstListed)
  obtain ⟨found,listed,equal⟩ := List.mem_map.mp entry
  have node : found.1.node = secondFound.1.node := by
    rw [secondNode,← same,← firstNode]
    exact congrArg Prod.fst equal
  have distinct := (List.nodup_cons.mp (chainWalk_distinct other (some maxDepth) root.entityId)).2
  have only : found = secondFound := List.inj_on_of_nodup_map distinct listed secondListed node
  rw [only] at equal
  exact (congrArg (fun counted => counted.2.2) equal).symm

/-- A chain cost is the same in every order of the edges, with each entity counted
once at its distance, exactly when the links that can find an entity agree. -/
theorem chain_cost_order_free_iff (edges : List DependencyEdge) (enrich : Enrichment) (currency : String) (maxDepth : ℕ)
    (root : TypedEntityRef) :
    (OrderFree edges enrich currency maxDepth root ∧
        ExactChain edges enrich maxDepth root (calculateChainCost edges enrich currency maxDepth root)) ↔
      AgreeingLinks edges enrich maxDepth root :=
  ⟨fun holds => agreeing_of_orderFree holds.1,fun agreeing =>
    ⟨orderFree_of_agreeing agreeing,chain_exact edges enrich currency maxDepth root⟩⟩

end Routes

def doublyLinked : List DependencyEdge :=
  [{ id := "e-1", sourceRef := ⟨.application,"shop",none⟩, targetRef := ⟨.service,"db",none⟩
     relationshipType := .dataFlow, provenance := ⟨.manual,none,some "alice",none⟩, confidence := .asAsserted
     firstSeen := 0, lastSeen := 0, effectiveFrom := 0 },
   { id := "e-2", sourceRef := ⟨.application,"shop",none⟩, targetRef := ⟨.service,"db",none⟩
     relationshipType := .sharedService, provenance := ⟨.manual,none,some "alice",none⟩, confidence := .asAsserted
     firstSeen := 0, lastSeen := 0, effectiveFrom := 0 }]

/-- The database costs the shop all of it or half of it, as the one edge or the other is listed first. -/
theorem doubly_linked_depends_on_order :
    ¬ OrderFree doublyLinked (fun _ _ => { cost := 100 }) "USD" 10 ⟨.application,"shop",none⟩ := by
  intro free
  have totals := (free doublyLinked.reverse (List.reverse_perm doublyLinked)).1
  revert totals
  decide +kernel

end CloudLens.Topology
