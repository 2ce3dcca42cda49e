import CloudLens.Dependency.Impact
import CloudLens.Library.Dict
import CloudLens.Library.Double
import CloudLens.Topology.ChainCost

/-! A portfolio of several chains. Dedicated entities are held once at their
whole cost, shared services once at the sum of the parts that the chains have in
them. A part is the decimal that the text of its float denotes, and the parts are
added up as floats. The two are held side by side, so an entity that is dedicated in one chain
and shared in another is counted for both. -/
namespace CloudLens.Topology
open Cost Dependency Library Library.Traversal Library.Decimal

structure SharedEntry where
  serviceId : String
  displayName : String
  totalServiceCost : ℚ
  consumerShares : Dict String ℚ
  allocationRule : String

structure PortfolioLedger where
  dedicated : Dict String ℚ
  shared : Dict String SharedEntry

structure MultiChainAggregationResult where
  totalPortfolioCost : ℚ
  chainTotals : List (String × ℚ)
  sharedServicesDeduplicated : List SharedServiceCostBreakdown
  sumOfChainsMatchesPortfolio : Bool
  deriving DecidableEq

def portfolioRoot (edges : List DependencyEdge) (rootId : String) : TypedEntityRef :=
  ((entityMap edges).get rootId).getD ⟨.application,rootId,some rootId⟩

def recordNode (rootId : String) (ledger : PortfolioLedger) (node : NodeCostBreakdown) : PortfolioLedger :=
  if node.isShared then
    { ledger with
      shared := ledger.shared.amend node.entityId (fun held =>
        let entry := held.getD ⟨node.entityId,node.displayName,node.rawPeriodCost,Dict.empty,"FIXED_RATIO"⟩
        { entry with consumerShares := entry.consumerShares.assign rootId node.apportionmentPct }) }
  else { ledger with dedicated := ledger.dedicated.assign node.entityId node.rawPeriodCost }

def recordChain (ledger : PortfolioLedger) (chain : ChainCostDecomposition) : PortfolioLedger :=
  let rootId := chain.rootEntity.entityId
  chain.contributingNodes.foldl (recordNode rootId)
    { ledger with dedicated := ledger.dedicated.assign rootId chain.directRootCost }

def SharedEntry.apportionedPct (entry : SharedEntry) : ℚ := Double.sum (entry.consumerShares.values.map Double.nearest)

def SharedEntry.portfolioCost (entry : SharedEntry) : ℚ :=
  effectiveCost entry.totalServiceCost (Double.shortest entry.apportionedPct)

def SharedEntry.breakdown (entry : SharedEntry) : SharedServiceCostBreakdown where
  serviceId := entry.serviceId
  displayName := entry.displayName
  totalServiceCost := entry.totalServiceCost
  consumersCount := entry.consumerShares.keys.length
  apportionedPctToThisChain := Double.shortest entry.apportionedPct
  apportionedCostToThisChain := entry.portfolioCost
  allocationRule := entry.allocationRule

def portfolioChains (edges : List DependencyEdge) (enrich : Enrichment) (currency : String) (rootEntityIds : List String) :
    List ChainCostDecomposition :=
  rootEntityIds.map (fun rootId => calculateChainCost edges enrich currency 10 (portfolioRoot edges rootId))

def portfolioLedger (edges : List DependencyEdge) (enrich : Enrichment) (currency : String) (rootEntityIds : List String) :
    PortfolioLedger :=
  (portfolioChains edges enrich currency rootEntityIds).foldl recordChain ⟨Dict.empty,Dict.empty⟩

/-- The chains of the roots over the edges that the repository lists, or none when
the breakdown of a service refuses a percentage out of its bounds. -/
def aggregateMultiChainPortfolio (edges : List DependencyEdge) (enrich : Enrichment) (currency : String)
    (rootEntityIds : List String) : Option MultiChainAggregationResult :=
  let chains := portfolioChains edges enrich currency rootEntityIds
  let chainTotals := (rootEntityIds.zip chains).foldl
    (fun totals chain => totals.assign chain.1 chain.2.totalChainCost) (Dict.empty : Dict String ℚ)
  let ledger := portfolioLedger edges enrich currency rootEntityIds
  let entries := ledger.shared.values
  if entries.all (fun entry => 0 ≤ entry.apportionedPct && entry.apportionedPct ≤ 100) then
    let total := roundCurrency (ledger.dedicated.values.sum + (entries.map SharedEntry.portfolioCost).sum)
    some
      { totalPortfolioCost := total
        chainTotals := chainTotals.items
        sharedServicesDeduplicated := entries.map SharedEntry.breakdown
        sumOfChainsMatchesPortfolio := |chainTotals.values.sum - total| < 1/20 }
  else none

def PortfolioLedger.contribution (ledger : PortfolioLedger) (id : String) : ℚ :=
  (ledger.dedicated.get id).getD 0 + ((ledger.shared.get id).map SharedEntry.portfolioCost).getD 0

def reachable (edges : List DependencyEdge) (roots : List String) : Finset String :=
  (roots.flatMap (fun root => root :: (chainWalk edges none root).nodes)).toFinset

def chainShares (edges : List DependencyEdge) (id root : String) : List ℚ :=
  ((chainWalk edges (some 10) root).found.filter
    (fun found => found.1.node = id && (apportionment found.2.edge).isShared)).map
      (fun found => (apportionment found.2.edge).pct)

def portfolioShare (edges : List DependencyEdge) (roots : List String) (id : String) : ℚ :=
  Double.sum ((roots.flatMap (chainShares edges id)).map Double.nearest)

def Dedicated (edges : List DependencyEdge) (roots : List String) (id : String) : Prop :=
  id ∈ roots ∨ ∃ root ∈ roots, ∃ found ∈ (chainWalk edges (some 10) root).found,
    found.1.node = id ∧ (apportionment found.2.edge).isShared = false

section Roots

variable {edges : List DependencyEdge}

theorem portfolioRoot_id (edges : List DependencyEdge) (rootId : String) : (portfolioRoot edges rootId).entityId = rootId := by
  unfold portfolioRoot
  cases held : (entityMap edges).get rootId with
  | none => rfl
  | some ref => exact get_entityMap edges held

end Roots

section Ledger

variable {cost : String → ℚ} {rooted : List String} {posted : List (String × NodeCostBreakdown)} {ledger : PortfolioLedger}

/-- What a ledger holds after the roots and the nodes that were recorded, with
every entity at its cost and the parts of a service in the order of their chains. -/
structure Recorded (cost : String → ℚ) (rooted : List String) (posted : List (String × NodeCostBreakdown))
    (ledger : PortfolioLedger) : Prop where
  dedicated : ∀ id value, ledger.dedicated.get id = some value ↔
    value = cost id ∧ (id ∈ rooted ∨ ∃ post ∈ posted, post.2.entityId = id ∧ post.2.isShared = false)
  priced : ∀ id entry, ledger.shared.get id = some entry → entry.totalServiceCost = cost id
  shares : ∀ id, ((ledger.shared.get id).map (fun entry => entry.consumerShares.items)).getD [] =
    (posted.filter (fun post => post.2.entityId = id && post.2.isShared)).map (fun post => (post.1, post.2.apportionmentPct))
  used : ∀ id entry, ledger.shared.get id = some entry → entry.consumerShares.items ≠ []

theorem recorded_root (state : Recorded cost rooted posted ledger) {rootId : String} {direct : ℚ}
    (valued : direct = cost rootId) :
    Recorded cost (rooted ++ [rootId]) posted { ledger with dedicated := ledger.dedicated.assign rootId direct } := by
  refine ⟨?_,state.priced,state.shares,state.used⟩
  intro id value
  rw [Dict.get_assign]
  split
  · rename_i same
    rw [same,valued,Option.some.injEq]
    constructor
    · rintro rfl
      exact ⟨rfl,Or.inl (List.mem_append_right _ (List.mem_singleton.mpr rfl))⟩
    · rintro ⟨rfl,_⟩
      rfl
  · rename_i other
    rw [state.dedicated,List.mem_append,List.mem_singleton]
    simp [other]

theorem recorded_dedicated (state : Recorded cost rooted posted ledger) {node : NodeCostBreakdown} (rootId : String)
    (valued : node.rawPeriodCost = cost node.entityId) (whole : node.isShared = false) :
    Recorded cost rooted (posted ++ [(rootId, node)]) (recordNode rootId ledger node) := by
  unfold recordNode
  rw [whole,if_neg Bool.false_ne_true]
  refine ⟨?_,state.priced,?_,state.used⟩
  · intro id value
    rw [Dict.get_assign]
    split
    · rename_i same
      rw [same,valued]
      simp only [Option.some.injEq,List.mem_append,List.mem_singleton]
      constructor
      · rintro rfl
        exact ⟨rfl,Or.inr ⟨(rootId, node),Or.inr rfl,rfl,whole⟩⟩
      · rintro ⟨rfl,_⟩
        rfl
    · rename_i other
      rw [state.dedicated]
      refine and_congr_right fun _ => or_congr_right ⟨?_,?_⟩
      · rintro ⟨post,member,found⟩
        exact ⟨post,List.mem_append_left _ member,found⟩
      · rintro ⟨post,member,found⟩
        rcases List.mem_append.mp member with earlier | last
        · exact ⟨post,earlier,found⟩
        · rw [List.mem_singleton.mp last] at found
          exact absurd found.1.symm other
  · intro id
    rw [state.shares,List.filter_append]
    simp [whole]

theorem recorded_shared (state : Recorded cost rooted posted ledger) {node : NodeCostBreakdown} {rootId : String}
    (valued : node.rawPeriodCost = cost node.entityId) (part : node.isShared = true)
    (fresh : ∀ post ∈ posted, post.1 = rootId → post.2.entityId ≠ node.entityId) :
    Recorded cost rooted (posted ++ [(rootId, node)]) (recordNode rootId ledger node) := by
  unfold recordNode
  rw [part,if_pos rfl]
  refine ⟨?_,?_,?_,?_⟩
  · intro id value
    rw [state.dedicated]
    simp only [List.mem_append,List.mem_singleton,or_and_right,exists_or,exists_eq_left,part,Bool.true_eq_false,and_false,
      or_false]
  · intro id entry held
    rw [Dict.get_amend] at held
    split at held
    · rename_i same
      cases held
      rw [same]
      cases before : ledger.shared.get node.entityId with
      | none => exact valued
      | some earlier => exact state.priced _ earlier before
    · exact state.priced id entry held
  · intro id
    have listed := state.shares id
    rw [Dict.get_amend,List.filter_append,List.map_append]
    split
    · rename_i same
      rw [← same,← listed]
      have absent : ∀ entry, ledger.shared.get id = some entry → rootId ∉ entry.consumerShares.keys := by
        intro entry held inside
        rw [held] at listed
        unfold Dict.keys at inside
        rw [show entry.consumerShares.items = _ from listed,List.map_map] at inside
        obtain ⟨post,member,sameRoot⟩ := List.mem_map.mp inside
        obtain ⟨earlier,selected⟩ := List.mem_filter.mp member
        rw [Bool.and_eq_true,decide_eq_true_eq] at selected
        exact fresh post earlier sameRoot (selected.1.trans same)
      cases before : ledger.shared.get id with
      | none => simp [part,Dict.assign,Dict.amend,Dict.amendItems,Dict.empty,same]
      | some entry => simp [part,Dict.items_assign_of_notMem (absent entry before),same]
    · rename_i other
      rw [listed]
      simp [Ne.symm other]
  · intro id entry held
    rw [Dict.get_amend] at held
    split at held
    · cases held
      exact Dict.items_assign_ne_nil
    · exact state.used id entry held

theorem recorded_node (state : Recorded cost rooted posted ledger) {node : NodeCostBreakdown} {rootId : String}
    (valued : node.rawPeriodCost = cost node.entityId)
    (fresh : ∀ post ∈ posted, post.1 = rootId → post.2.entityId ≠ node.entityId) :
    Recorded cost rooted (posted ++ [(rootId, node)]) (recordNode rootId ledger node) := by
  cases part : node.isShared with
  | true => exact recorded_shared state valued part fresh
  | false => exact recorded_dedicated state rootId valued part

theorem recorded_nodes {rootId : String} {nodes : List NodeCostBreakdown} (state : Recorded cost rooted posted ledger)
    (valued : ∀ node ∈ nodes, node.rawPeriodCost = cost node.entityId)
    (distinct : (nodes.map NodeCostBreakdown.entityId).Nodup)
    (fresh : ∀ post ∈ posted, post.1 = rootId → post.2.entityId ∉ nodes.map NodeCostBreakdown.entityId) :
    Recorded cost rooted (posted ++ nodes.map (fun node => (rootId, node))) (nodes.foldl (recordNode rootId) ledger) := by
  induction nodes generalizing posted ledger with
  | nil =>
    rw [List.map_nil,List.append_nil]
    exact state
  | cons node rest ih =>
    rw [List.map_cons,List.nodup_cons] at distinct
    have next := recorded_node state (valued node List.mem_cons_self)
      (fun post member sameRoot same => fresh post member sameRoot (by rw [same]; exact List.mem_cons_self))
    rw [List.map_cons,← List.singleton_append,← List.append_assoc,List.foldl_cons]
    apply ih next (fun later member => valued later (List.mem_cons_of_mem node member)) distinct.2
    intro post member sameRoot inside
    rcases List.mem_append.mp member with earlier | last
    · exact fresh post earlier sameRoot (List.mem_cons_of_mem _ inside)
    · rw [List.mem_singleton.mp last] at inside
      exact distinct.1 inside

end Ledger

section Chains

variable {edges : List DependencyEdge} {enrich : Enrichment} {currency : String} {cost : String → ℚ} {maxDepth : ℕ}
  {root : TypedEntityRef}

theorem contributingNodes_valued (priced : ∀ ref, (enrichRef enrich ref).cost = cost ref.entityId) :
    ∀ node ∈ (calculateChainCost edges enrich currency maxDepth root).contributingNodes,
      node.rawPeriodCost = cost node.entityId := by
  obtain ⟨total,listed⟩ := contributingNodes_eq edges enrich currency maxDepth root
  intro node member
  rw [listed] at member
  obtain ⟨found,_,rfl⟩ := List.mem_map.mp member
  exact priced found.2.ref

theorem contributingNodes_shares (edges : List DependencyEdge) (enrich : Enrichment) (currency : String)
    (root : TypedEntityRef) (id : String) :
    ((calculateChainCost edges enrich currency 10 root).contributingNodes.filter
      (fun node => node.entityId = id && node.isShared)).map NodeCostBreakdown.apportionmentPct =
        chainShares edges id root.entityId := by
  obtain ⟨total,listed⟩ := contributingNodes_eq edges enrich currency 10 root
  unfold chainShares
  rw [listed,List.filter_map,List.map_map]
  apply congrArg (List.map _)
  apply List.filter_congr
  intro found member
  have same : (nodeBreakdown enrich found).entityId = found.1.node := chainWalk_ref member
  simp only [Function.comp_apply,costShare,same]
  rfl

theorem contributingNodes_dedicated (edges : List DependencyEdge) (enrich : Enrichment) (currency : String)
    (root : TypedEntityRef) (id : String) :
    (∃ node ∈ (calculateChainCost edges enrich currency 10 root).contributingNodes,
      node.entityId = id ∧ node.isShared = false) ↔
    ∃ found ∈ (chainWalk edges (some 10) root.entityId).found,
      found.1.node = id ∧ (apportionment found.2.edge).isShared = false := by
  obtain ⟨total,listed⟩ := contributingNodes_eq edges enrich currency 10 root
  rw [listed]
  constructor
  · rintro ⟨node,member,same,whole⟩
    obtain ⟨found,inside,rfl⟩ := List.mem_map.mp member
    exact ⟨found,inside,(chainWalk_ref inside).symm.trans same,whole⟩
  · rintro ⟨found,inside,same,whole⟩
    exact ⟨_,List.mem_map_of_mem inside,(chainWalk_ref inside).trans same,whole⟩

def postings (edges : List DependencyEdge) (enrich : Enrichment) (currency : String) (roots : List String) :
    List (String × NodeCostBreakdown) :=
  roots.flatMap (fun root =>
    (calculateChainCost edges enrich currency 10 (portfolioRoot edges root)).contributingNodes.map (fun node => (root, node)))

theorem recorded_chains {roots rooted : List String} {posted : List (String × NodeCostBreakdown)} {ledger : PortfolioLedger}
    (priced : ∀ ref, (enrichRef enrich ref).cost = cost ref.entityId) (distinct : roots.Nodup)
    (fresh : ∀ post ∈ posted, post.1 ∉ roots) (state : Recorded cost rooted posted ledger) :
    Recorded cost (rooted ++ roots) (posted ++ postings edges enrich currency roots)
      ((portfolioChains edges enrich currency roots).foldl recordChain ledger) := by
  induction roots generalizing rooted posted ledger with
  | nil =>
    simp only [postings,portfolioChains,List.flatMap_nil,List.map_nil,List.append_nil,List.foldl_nil]
    exact state
  | cons root rest ih =>
    rw [List.nodup_cons] at distinct
    have id := portfolioRoot_id edges root
    have start := recorded_root state ((priced (portfolioRoot edges root)).trans (congrArg cost id))
    have nodup : ((calculateChainCost edges enrich currency 10 (portfolioRoot edges root)).contributingNodes.map
        NodeCostBreakdown.entityId).Nodup := by
      rw [contributingNodes_ids]
      exact (List.nodup_cons.mp (chainWalk_distinct edges (some 10) _)).2
    have next := recorded_nodes start (contributingNodes_valued priced) nodup
      (fun post member sameRoot => absurd (by rw [sameRoot]; exact List.mem_cons_self) (fresh post member))
    have step : recordChain ledger (calculateChainCost edges enrich currency 10 (portfolioRoot edges root)) =
        (calculateChainCost edges enrich currency 10 (portfolioRoot edges root)).contributingNodes.foldl (recordNode root)
          { ledger with dedicated := ledger.dedicated.assign root (enrichRef enrich (portfolioRoot edges root)).cost } := by
      have named : (calculateChainCost edges enrich currency 10 (portfolioRoot edges root)).rootEntity.entityId = root := id
      unfold recordChain
      dsimp only
      rw [named]
      rfl
    rw [postings,List.flatMap_cons,← List.append_assoc,portfolioChains,List.map_cons,List.foldl_cons,step,
      List.append_cons]
    apply ih distinct.2 _ next
    intro post member inside
    rcases List.mem_append.mp member with earlier | later
    · exact fresh post earlier (List.mem_cons_of_mem root inside)
    · obtain ⟨node,_,rfl⟩ := List.mem_map.mp later
      exact distinct.1 inside

end Chains

section Totals

variable {edges : List DependencyEdge} {enrich : Enrichment} {currency : String} {cost : String → ℚ} {roots : List String}

theorem portfolioLedger_recorded (edges : List DependencyEdge) (currency : String)
    (priced : ∀ ref, (enrichRef enrich ref).cost = cost ref.entityId) (distinct : roots.Nodup) :
    Recorded cost roots (postings edges enrich currency roots) (portfolioLedger edges enrich currency roots) := by
  have start : Recorded cost [] [] ⟨Dict.empty,Dict.empty⟩ := by
    refine ⟨?_,nofun,fun _ => rfl,nofun⟩
    intro id value
    simp [Dict.empty,Dict.get]
  exact recorded_chains priced distinct (fun _ inside => absurd inside List.not_mem_nil) start

theorem dedicated_postings (id : String) :
    (id ∈ roots ∨ ∃ post ∈ postings edges enrich currency roots, post.2.entityId = id ∧ post.2.isShared = false) ↔
      Dedicated edges roots id := by
  refine or_congr_right ?_
  constructor
  · rintro ⟨post,member,same,whole⟩
    obtain ⟨root,listed,inside⟩ := List.mem_flatMap.mp member
    obtain ⟨node,contributing,rfl⟩ := List.mem_map.mp inside
    have found := (contributingNodes_dedicated edges enrich currency (portfolioRoot edges root) id).mp
      ⟨node,contributing,same,whole⟩
    rw [portfolioRoot_id] at found
    exact ⟨root,listed,found⟩
  · rintro ⟨root,listed,found⟩
    rw [← portfolioRoot_id edges root] at found
    obtain ⟨node,contributing,same,whole⟩ :=
      (contributingNodes_dedicated edges enrich currency (portfolioRoot edges root) id).mpr found
    exact ⟨(root, node),List.mem_flatMap.mpr ⟨root,listed,List.mem_map_of_mem contributing⟩,same,whole⟩

theorem postings_shares (edges : List DependencyEdge) (enrich : Enrichment) (currency : String) (roots : List String) (id : String) :
    ((postings edges enrich currency roots).filter (fun post => post.2.entityId = id && post.2.isShared)).map
      (fun post => post.2.apportionmentPct) = roots.flatMap (chainShares edges id) := by
  unfold postings
  induction roots with
  | nil => rfl
  | cons root rest ih =>
    rw [List.flatMap_cons,List.filter_append,List.map_append,ih,List.flatMap_cons]
    congr 1
    rw [List.filter_map,List.map_map]
    have shares := contributingNodes_shares edges enrich currency (portfolioRoot edges root) id
    rw [portfolioRoot_id] at shares
    exact shares

theorem apportionedPct_eq (priced : ∀ ref, (enrichRef enrich ref).cost = cost ref.entityId) (distinct : roots.Nodup)
    {id : String} {entry : SharedEntry} (held : (portfolioLedger edges enrich currency roots).shared.get id = some entry) :
    entry.apportionedPct = portfolioShare edges roots id := by
  have listed := (portfolioLedger_recorded edges currency priced distinct).shares id
  rw [held] at listed
  have items : entry.consumerShares.items = _ := listed
  have shares := postings_shares edges enrich currency roots id
  unfold SharedEntry.apportionedPct Dict.values portfolioShare
  rw [items,← shares]
  simp only [List.map_map,Function.comp_def]

theorem portfolioShare_of_absent (priced : ∀ ref, (enrichRef enrich ref).cost = cost ref.entityId) (distinct : roots.Nodup)
    {id : String} (absent : (portfolioLedger edges enrich currency roots).shared.get id = none) :
    portfolioShare edges roots id = 0 := by
  have listed := (portfolioLedger_recorded edges currency priced distinct).shares id
  rw [absent] at listed
  rw [portfolioShare,← postings_shares edges enrich currency,List.map_eq_nil_iff.mp listed.symm]
  rfl

theorem sharedCost_eq (priced : ∀ ref, (enrichRef enrich ref).cost = cost ref.entityId) (distinct : roots.Nodup) (id : String) :
    (((portfolioLedger edges enrich currency roots).shared.get id).map SharedEntry.portfolioCost).getD 0 =
      effectiveCost (cost id) (Double.shortest (portfolioShare edges roots id)) := by
  have state := portfolioLedger_recorded edges currency priced distinct
  cases held : (portfolioLedger edges enrich currency roots).shared.get id with
  | some entry =>
    change entry.portfolioCost = _
    unfold SharedEntry.portfolioCost
    rw [state.priced id entry held,apportionedPct_eq priced distinct held]
  | none =>
    rw [portfolioShare_of_absent priced distinct held,Double.shortest_zero]
    simp [effectiveCost,roundCurrency,quantize,roundHalfEven]

theorem contribution_eq (edges : List DependencyEdge) (currency : String)
    (priced : ∀ ref, (enrichRef enrich ref).cost = cost ref.entityId) (distinct : roots.Nodup) (id : String) :
    (Dedicated edges roots id → (portfolioLedger edges enrich currency roots).contribution id =
      cost id + effectiveCost (cost id) (Double.shortest (portfolioShare edges roots id))) ∧
    (¬ Dedicated edges roots id → (portfolioLedger edges enrich currency roots).contribution id =
      effectiveCost (cost id) (Double.shortest (portfolioShare edges roots id))) := by
  have state := portfolioLedger_recorded edges currency priced distinct
  unfold PortfolioLedger.contribution
  rw [sharedCost_eq priced distinct]
  refine ⟨?_,?_⟩
  · intro dedicated
    have held := (state.dedicated id (cost id)).mpr ⟨rfl,(dedicated_postings id).mpr dedicated⟩
    rw [held]
    rfl
  · intro other
    have absent : (portfolioLedger edges enrich currency roots).dedicated.get id = none := by
      rw [Option.eq_none_iff_forall_ne_some]
      intro value held
      exact other ((dedicated_postings id).mp ((state.dedicated id value).mp held).2)
    rw [absent]
    exact zero_add _

theorem portfolioShare_nonneg (edges : List DependencyEdge) (roots : List String) (id : String) :
    0 ≤ portfolioShare edges roots id := by
  apply Double.sum_nonneg
  intro float member
  obtain ⟨pct,within,rfl⟩ := List.mem_map.mp member
  obtain ⟨root,_,inside⟩ := List.mem_flatMap.mp within
  obtain ⟨found,_,rfl⟩ := List.mem_map.mp inside
  exact Double.nearest_nonneg (apportionment_pct found.2.edge).1.le

theorem shortest_le_hundred {float : ℚ} (whole : float ≤ 100) : Double.shortest float ≤ 100 :=
  Double.shortest_le (by norm_num) (by decide +kernel) (by decide +kernel) whole

theorem found_reachable {root : String} {found : Entry String × Link} (listed : root ∈ roots)
    (member : found ∈ (chainWalk edges (some 10) root).found) : found.1.node ∈ reachable edges roots := by
  apply List.mem_toFinset.mpr
  apply List.mem_flatMap.mpr
  exact ⟨root,listed,List.mem_cons_of_mem root (chainWalk_unlimited (List.mem_map_of_mem member))⟩

theorem dedicated_reachable {id : String} (dedicated : Dedicated edges roots id) : id ∈ reachable edges roots := by
  rcases dedicated with isRoot | ⟨root,listed,found,member,rfl,_⟩
  · exact List.mem_toFinset.mpr (List.mem_flatMap.mpr ⟨id,isRoot,List.mem_cons_self⟩)
  · exact found_reachable listed member

theorem shared_reachable (priced : ∀ ref, (enrichRef enrich ref).cost = cost ref.entityId) (distinct : roots.Nodup) {id : String}
    {entry : SharedEntry} (held : (portfolioLedger edges enrich currency roots).shared.get id = some entry) :
    id ∈ reachable edges roots := by
  have state := portfolioLedger_recorded edges currency priced distinct
  have present := state.used id entry held
  have listed := state.shares id
  rw [held] at listed
  have items : entry.consumerShares.items = _ := listed
  rw [items] at present
  obtain ⟨post,member⟩ := List.exists_mem_of_ne_nil _ (fun empty => present (List.map_eq_nil_iff.mpr empty))
  obtain ⟨inside,selected⟩ := List.mem_filter.mp member
  obtain ⟨root,isRoot,posted⟩ := List.mem_flatMap.mp inside
  obtain ⟨node,contributing,rfl⟩ := List.mem_map.mp posted
  rw [Bool.and_eq_true,decide_eq_true_eq] at selected
  have found : id ∈ (chainWalk edges (some 10) root).nodes := by
    rw [← portfolioRoot_id edges root,← contributingNodes_ids edges enrich currency 10 (portfolioRoot edges root),← selected.1]
    exact List.mem_map_of_mem contributing
  obtain ⟨entry,listedFound,rfl⟩ := List.mem_map.mp found
  exact found_reachable isRoot listedFound

theorem spend_le (priced : ∀ ref, (enrichRef enrich ref).cost = cost ref.entityId) (distinct : roots.Nodup)
    (bounded : ∀ id, (portfolioLedger edges enrich currency roots).contribution id ≤ cost id) :
    (portfolioLedger edges enrich currency roots).dedicated.values.sum +
      ((portfolioLedger edges enrich currency roots).shared.values.map SharedEntry.portfolioCost).sum ≤
        ∑ id ∈ reachable edges roots, cost id := by
  have state := portfolioLedger_recorded edges currency priced distinct
  have held : ∀ id ∈ (portfolioLedger edges enrich currency roots).dedicated.keys, id ∈ reachable edges roots := by
    intro id member
    obtain ⟨value,held⟩ := Dict.mem_keys_iff.mp member
    exact dedicated_reachable ((dedicated_postings id).mp ((state.dedicated id value).mp held).2)
  have shared : ∀ id ∈ (portfolioLedger edges enrich currency roots).shared.keys, id ∈ reachable edges roots := by
    intro id member
    obtain ⟨entry,held⟩ := Dict.mem_keys_iff.mp member
    exact shared_reachable priced distinct held
  have whole := Dict.sum_values (fun value : ℚ => value) held
  have parts := Dict.sum_values SharedEntry.portfolioCost shared
  simp only [List.map_id',Option.map_id_fun',id_eq] at whole
  rw [whole,parts,← Finset.sum_add_distrib]
  exact Finset.sum_le_sum fun id _ => bounded id

theorem effectiveCost_le {raw pct : ℚ} (scaled : AtScale 2 raw) (start : 0 ≤ raw) (part : pct ≤ 100) :
    effectiveCost raw pct ≤ raw := by
  apply quantize_le scaled
  have share : pct / 100 ≤ 1 := by linarith
  calc raw * (pct / 100) ≤ raw * 1 := mul_le_mul_of_nonneg_left share start
    _ = raw := mul_one raw

theorem sum_atScale {all : Finset String} (scaled : ∀ id, AtScale 2 (cost id)) : AtScale 2 (∑ id ∈ all, cost id) := by
  apply Finset.sum_induction cost (AtScale 2)
  · intro a b left right
    exact left.add right
  · exact ⟨0,by norm_num⟩
  · intro id _
    exact scaled id

/-- Every entity adds at most its cost exactly when a dedicated one has no part
elsewhere that is worth more than half a cent, as long as no service is shared
out more than whole. -/
theorem contribution_le_iff (priced : ∀ ref, (enrichRef enrich ref).cost = cost ref.entityId) (distinct : roots.Nodup)
    (scaled : ∀ id, AtScale 2 (cost id)) (start : ∀ id, 0 ≤ cost id) {id : String}
    (whole : portfolioShare edges roots id ≤ 100) :
    (portfolioLedger edges enrich currency roots).contribution id ≤ cost id ↔
      (Dedicated edges roots id → cost id * (Double.shortest (portfolioShare edges roots id) / 100) ≤ halfUnit 2) := by
  obtain ⟨both,apart⟩ := contribution_eq edges currency priced distinct id
  by_cases dedicated : Dedicated edges roots id
  · rw [both dedicated,add_le_iff_nonpos_right,effectiveCost,roundCurrency,quantize_nonpos_iff]
    exact ⟨fun small _ => small,fun small => small dedicated⟩
  · rw [apart dedicated]
    exact ⟨fun _ held => absurd held dedicated,fun _ => effectiveCost_le (scaled id) (start id) (shortest_le_hundred whole)⟩

end Totals

def nodeCost (customNodeCosts : String → Option ℚ) (id : String) : ℚ := roundCurrency ((customNodeCosts id).getD 0)

/-- For all nonnegative costs and distinct roots, the portfolio has a total that
stays within the costs of what is reachable, with no entity adding more than its
own cost, exactly when no service is shared out more than whole over the roots
and no dedicated entity has shared parts that are worth more than half a cent. -/
theorem portfolio_counts_once_iff (edges : List DependencyEdge) (customNodeCosts : String → Option ℚ) (currency : String)
    {roots : List String} (distinct : roots.Nodup)
    (nonnegative : ∀ id cost, customNodeCosts id = some cost → 0 ≤ cost) :
    (∃ result,
      aggregateMultiChainPortfolio edges (customEnrichment {} customNodeCosts currency) currency roots = some result ∧
      result.totalPortfolioCost ≤ (∑ id ∈ reachable edges roots, nodeCost customNodeCosts id) +
        result.sharedServicesDeduplicated.length * halfUnit 2 ∧
      ∀ id, (portfolioLedger edges (customEnrichment {} customNodeCosts currency) currency roots).contribution id ≤
        nodeCost customNodeCosts id) ↔
    ∀ id, portfolioShare edges roots id ≤ 100 ∧
      (Dedicated edges roots id →
        nodeCost customNodeCosts id * (Double.shortest (portfolioShare edges roots id) / 100) ≤ halfUnit 2) := by
  have priced : ∀ ref, (enrichRef (customEnrichment {} customNodeCosts currency) ref).cost =
      nodeCost customNodeCosts ref.entityId := fun ref => customEnrichment_cost customNodeCosts currency _ _
  have scaled : ∀ id, AtScale 2 (nodeCost customNodeCosts id) := fun _ => quantize_atScale 2 _
  have start : ∀ id, 0 ≤ nodeCost customNodeCosts id := by
    intro id
    apply quantize_nonneg
    cases given : customNodeCosts id with
    | none => exact le_rfl
    | some cost => exact nonnegative id cost given
  unfold aggregateMultiChainPortfolio
  dsimp only
  constructor
  · rintro ⟨result,returned,_,bounded⟩ id
    split at returned
    · rename_i within
      have whole : portfolioShare edges roots id ≤ 100 := by
        cases held : (portfolioLedger edges (customEnrichment {} customNodeCosts currency) currency roots).shared.get id with
        | none =>
          rw [portfolioShare_of_absent priced distinct held]
          norm_num
        | some entry =>
          have checked := List.all_eq_true.mp within entry (List.mem_map_of_mem (Dict.get_eq_some_iff.mp held))
          rw [Bool.and_eq_true,decide_eq_true_eq,decide_eq_true_eq,apportionedPct_eq priced distinct held] at checked
          exact checked.2
      exact ⟨whole,(contribution_le_iff priced distinct scaled start whole).mp (bounded id)⟩
    · cases returned
  · intro once
    have bounded : ∀ id, (portfolioLedger edges (customEnrichment {} customNodeCosts currency) currency roots).contribution id ≤
        nodeCost customNodeCosts id :=
      fun id => (contribution_le_iff priced distinct scaled start (once id).1).mpr (once id).2
    have within : (portfolioLedger edges (customEnrichment {} customNodeCosts currency) currency roots).shared.values.all
        (fun entry => 0 ≤ entry.apportionedPct && entry.apportionedPct ≤ 100) = true := by
      apply List.all_eq_true.mpr
      intro entry member
      obtain ⟨⟨id,_⟩,held,rfl⟩ := List.mem_map.mp member
      rw [Bool.and_eq_true,decide_eq_true_eq,decide_eq_true_eq,
        apportionedPct_eq priced distinct (Dict.get_eq_some_iff.mpr held)]
      exact ⟨portfolioShare_nonneg edges roots id,(once id).1⟩
    rw [if_pos within]
    refine ⟨_,rfl,?_,bounded⟩
    dsimp only
    have total := quantize_le (sum_atScale scaled) (spend_le priced distinct bounded)
    have slack : (0 : ℚ) ≤ ((portfolioLedger edges (customEnrichment {} customNodeCosts currency) currency roots).shared.values.map
        SharedEntry.breakdown).length * halfUnit 2 := mul_nonneg (Nat.cast_nonneg _) (halfUnit_pos 2).le
    exact total.trans (le_add_of_nonneg_right slack)

def consumes (id consumer : String) (relationshipType : RelationshipType) : DependencyEdge :=
  { id := id, sourceRef := ⟨.application,consumer,none⟩, targetRef := ⟨.service,"db",none⟩
    relationshipType := relationshipType, provenance := ⟨.manual,none,some "alice",none⟩, confidence := .asAsserted
    firstSeen := 0, lastSeen := 0, effectiveFrom := 0 }

def sharedDatabase : List DependencyEdge := [consumes "e-1" "shop" .sharedService, consumes "e-2" "blog" .sharedService]

def mixedDatabase : List DependencyEdge := [consumes "e-1" "shop" .logicalDependency, consumes "e-2" "blog" .sharedService]

def sampleCosts : String → Option ℚ
  | "shop" => some 10
  | "blog" => some 20
  | "db" => some 100
  | _ => none

theorem sampleCosts_nonnegative : ∀ id cost, sampleCosts id = some cost → 0 ≤ cost := by
  intro id cost given
  unfold sampleCosts at given
  split at given <;> cases given <;> norm_num

theorem sharedDatabase_found (root : String) (isRoot : root ∈ ["shop", "blog"]) :
    ∀ found ∈ (chainWalk sharedDatabase (some 10) root).found, found.1.node = "db" ∧ (apportionment found.2.edge).isShared = true := by
  revert isRoot
  revert root
  decide +kernel

theorem sharedDatabase_parts : portfolioShare sharedDatabase ["shop", "blog"] "db" = 100 := by decide +kernel

theorem sharedDatabase_once (id : String) : portfolioShare sharedDatabase ["shop", "blog"] id ≤ 100 ∧
    (Dedicated sharedDatabase ["shop", "blog"] id →
      nodeCost sampleCosts id * (Double.shortest (portfolioShare sharedDatabase ["shop", "blog"] id) / 100) ≤ halfUnit 2) := by
  by_cases isDatabase : id = "db"
  · rw [isDatabase,sharedDatabase_parts]
    refine ⟨le_rfl,?_⟩
    rintro (isRoot | ⟨root,isRoot,found,member,_,whole⟩)
    · exact absurd isRoot (by decide)
    · rw [(sharedDatabase_found root isRoot found member).2] at whole
      cases whole
  · have none : portfolioShare sharedDatabase ["shop", "blog"] id = 0 := by
      have apart : ["shop", "blog"].flatMap (chainShares sharedDatabase id) = [] := by
        rw [List.flatMap_eq_nil_iff]
        intro root isRoot
        rw [chainShares,List.map_eq_nil_iff,List.filter_eq_nil_iff]
        intro found member selected
        rw [Bool.and_eq_true,decide_eq_true_eq] at selected
        exact isDatabase (selected.1.symm.trans (sharedDatabase_found root isRoot found member).1)
      rw [portfolioShare,apart]
      rfl
    rw [none,Double.shortest_zero]
    refine ⟨by norm_num,fun _ => ?_⟩
    rw [zero_div,mul_zero]
    exact (halfUnit_pos 2).le

theorem shared_database_counts_once :
    (∃ result,
      aggregateMultiChainPortfolio sharedDatabase (customEnrichment {} sampleCosts "USD") "USD" ["shop", "blog"] = some result ∧
      result.totalPortfolioCost ≤ (∑ id ∈ reachable sharedDatabase ["shop", "blog"], nodeCost sampleCosts id) +
        result.sharedServicesDeduplicated.length * halfUnit 2 ∧
      ∀ id, (portfolioLedger sharedDatabase (customEnrichment {} sampleCosts "USD") "USD" ["shop", "blog"]).contribution id ≤
        nodeCost sampleCosts id) :=
  (portfolio_counts_once_iff sharedDatabase sampleCosts "USD" (by decide) sampleCosts_nonnegative).mpr sharedDatabase_once

/-- The database is counted whole for the shop and by half again for the blog. -/
theorem mixed_database_counts_twice :
    (∃ result ∈ aggregateMultiChainPortfolio mixedDatabase (customEnrichment {} sampleCosts "USD") "USD" ["shop", "blog"],
      result.totalPortfolioCost = 180 ∧
      (∑ id ∈ reachable mixedDatabase ["shop", "blog"], nodeCost sampleCosts id) = 130 ∧
      (∑ id ∈ reachable mixedDatabase ["shop", "blog"], nodeCost sampleCosts id) +
        result.sharedServicesDeduplicated.length * halfUnit 2 < result.totalPortfolioCost) ∧
    nodeCost sampleCosts "db" <
      (portfolioLedger mixedDatabase (customEnrichment {} sampleCosts "USD") "USD" ["shop", "blog"]).contribution "db" := by
  decide +kernel

end CloudLens.Topology
